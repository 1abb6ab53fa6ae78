import SymbolScript.Action.Basic

/-! Values: which texts they are, and whether all doubles in them are finite. -/

namespace SymbolScript.Value

theorem isText_iff (value : Value) (spelling : String) :
    value.isText spelling = true ↔ value = .text spelling.toList := by
  cases value <;> simp [isText]

/-! ## Numbers in values -/

theorem entryNumbers_eq_flatMap (entries : Dictionary Text Value) :
    entryNumbers entries = entries.flatMap fun entry => entry.2.numbers := by
  induction entries with
  | nil => rfl
  | cons entry rest induction =>
      rw [entryNumbers, induction]
      rfl

theorem itemNumbers_eq_flatMap (items : List Value) :
    itemNumbers items = items.flatMap numbers := by
  induction items with
  | nil => rfl
  | cons item rest induction =>
      rw [itemNumbers, induction]
      rfl

/-! ## Finite values -/

@[simp] theorem isFinite_text (value : Text) : (text value).isFinite = true := rfl

@[simp] theorem isFinite_bool (value : Bool) : (bool value).isFinite = true := rfl

@[simp] theorem isFinite_textOf (value : String) : (Action.textOf value).isFinite = true := rfl

@[simp] theorem isFinite_wholeOf (number : Int) : (Action.wholeOf number).isFinite = true := rfl

theorem isFinite_object_iff (entries : Dictionary Text Value) :
    (object entries).isFinite = true ↔ ∀ entry ∈ entries, entry.2.isFinite = true := by
  rw [isFinite, numbers, entryNumbers_eq_flatMap, List.all_flatMap, List.all_eq_true]
  exact Iff.rfl

theorem isFinite_list_iff (items : List Value) :
    (list items).isFinite = true ↔ ∀ item ∈ items, item.isFinite = true := by
  rw [isFinite, numbers, itemNumbers_eq_flatMap, List.all_flatMap, List.all_eq_true]
  exact Iff.rfl

theorem isFinite_number (number : Number) : (Value.number number).isFinite = number.isFinite := by
  rw [isFinite, numbers, List.all_cons, List.all_nil, Bool.and_true]

end SymbolScript.Value
