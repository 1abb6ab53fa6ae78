import SymbolScript.Proofs.Decimal.Numeral
import SymbolScript.Proofs.Value
import SymbolScript.Service.Standalone

/-!
What can be sent. A framework that sends answers as JSON sends those whose doubles are finite and
whose integers are within the digit limit, and fails on all others.
-/

namespace SymbolScript

/-! ## Values that can be sent -/

def Number.IsSendable (number : Number) : Prop :=
  number.isFinite = true ∧ ∃ shown, number.shown = .ok shown

theorem Number.isSendable_whole_iff (number : Int) :
    (Number.whole number).IsSendable ↔ Decimal.isWritable number = true := by
  rw [IsSendable, shown, Decimal.write]
  constructor
  · rintro ⟨-, shown, written⟩
    by_contra unwritable
    rw [if_neg unwritable] at written
    cases written
  · intro writable
    exact ⟨rfl, _, if_pos writable⟩

theorem Number.isSendable_real_iff (x : Float) :
    (Number.real x).IsSendable ↔ (Number.real x).isFinite = true :=
  ⟨And.left, fun finite => ⟨finite, _, rfl⟩⟩

namespace Value

/-- Whether all numbers in a value can be sent. -/
def IsSendable (value : Value) : Prop :=
  ∀ number ∈ value.numbers, number.IsSendable

@[simp] theorem isSendable_text (text : Text) : (Value.text text).IsSendable := by
  rintro number ⟨⟩

@[simp] theorem isSendable_textOf (text : String) : (Action.textOf text).IsSendable :=
  isSendable_text text.toList

@[simp] theorem isSendable_number_iff (number : Number) :
    (Value.number number).IsSendable ↔ number.IsSendable := by
  rw [IsSendable, numbers, List.forall_mem_singleton]

@[simp] theorem isSendable_wholeOf_iff (number : Int) :
    (Action.wholeOf number).IsSendable ↔ Decimal.isWritable number = true := by
  rw [Action.wholeOf, isSendable_number_iff, Number.isSendable_whole_iff]

theorem isSendable_object_iff (entries : Dictionary Text Value) :
    (object entries).IsSendable ↔ ∀ entry ∈ entries, entry.2.IsSendable := by
  rw [IsSendable, numbers, entryNumbers_eq_flatMap, List.forall_mem_flatMap]
  exact Iff.rfl

theorem isSendable_list_iff (items : List Value) :
    (list items).IsSendable ↔ ∀ item ∈ items, item.IsSendable := by
  rw [IsSendable, numbers, itemNumbers_eq_flatMap, List.forall_mem_flatMap]
  exact Iff.rfl

end Value

namespace Service

/-! ## Frameworks that send JSON -/

/-- What a framework does with answers in JSON. It has no way to write doubles that are not finite
and integers beyond the digit limit, and a failure to write an answer is one of the service. -/
structure Framework.SendsJson (framework : Framework) : Prop where
  sent (status : Nat) {value : Value} (sendable : value.IsSendable) :
    framework.send ⟨status, .json value⟩ = .ok ⟨status, .json value⟩
  unsent (status : Nat) {value : Value} (unsendable : ¬value.IsSendable) :
    ∃ cause, framework.send ⟨status, .json value⟩ = .error cause
  failureStatus : framework.failureStatus = 500

/-! ## The framework of the service alone -/

namespace Standalone

theorem forM_eq_ok_iff {Item : Type} {check : Item → Except Failure Unit} (items : List Item) :
    items.forM check = .ok () ↔ ∀ item ∈ items, check item = .ok () := by
  induction items with
  | nil => simp [pure, Except.pure]
  | cons item rest induction =>
      have step : (item :: rest).forM check = (check item >>= fun _ => rest.forM check) := rfl
      rw [step, List.forall_mem_cons, ← induction]
      cases check item <;> simp [bind, Except.bind]

theorem checkNumber_eq_ok_iff (number : Number) :
    checkNumber number = .ok () ↔ number.IsSendable := by
  rw [Number.IsSendable, checkNumber]
  cases number.isFinite <;> cases number.shown <;>
    simp [bind, Except.bind, throw, throwThe, MonadExceptOf.throw, discard, Functor.discard,
      Functor.mapConst, Except.map]

theorem forM_checkNumber_eq_ok_iff (value : Value) :
    ((Content.json value).values.flatMap Value.numbers).forM checkNumber = .ok () ↔
      value.IsSendable := by
  rw [Content.values, List.flatMap_singleton, forM_eq_ok_iff]
  exact forall₂_congr fun number inValue => checkNumber_eq_ok_iff number

end Standalone

theorem sendsJson_standalone : standalone.SendsJson where
  sent status value sendable := by
    have checked := (Standalone.forM_checkNumber_eq_ok_iff value).mpr sendable
    show Standalone.send _ = _
    rw [Standalone.send, checked]
    rfl
  unsent status value unsendable := by
    show ∃ cause, Standalone.send _ = .error cause
    rw [Standalone.send]
    cases checked : ((Content.json value).values.flatMap Value.numbers).forM
      Standalone.checkNumber with
    | error cause => exact ⟨cause, rfl⟩
    | ok done => exact absurd ((Standalone.forM_checkNumber_eq_ok_iff value).mp checked) unsendable
  failureStatus := rfl

end Service

end SymbolScript
