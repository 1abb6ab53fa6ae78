/-!
Dictionaries keep their entries in the order in which the keys were first added. Setting a key
again changes its value and keeps its place.
-/

namespace SymbolScript

abbrev Dictionary (Key Value : Type) := List (Key × Value)

namespace Dictionary

variable {Key Value : Type} [DecidableEq Key]

def set (key : Key) (value : Value) : Dictionary Key Value → Dictionary Key Value
  | [] => [(key, value)]
  | (first, old) :: rest =>
    if first = key then (first, value) :: rest else (first, old) :: set key value rest

def ofPairs (pairs : List (Key × Value)) : Dictionary Key Value :=
  pairs.foldl (fun entries (key, value) => set key value entries) []

def get? (entries : Dictionary Key Value) (key : Key) : Option Value :=
  (entries.find? (·.1 = key)).map (·.2)

def keys (entries : Dictionary Key Value) : List Key :=
  entries.map (·.1)

def invert [DecidableEq Value] (entries : Dictionary Key Value) : Dictionary Value Key :=
  ofPairs (entries.map fun (key, value) => (value, key))

theorem get?_set_self (key : Key) (value : Value) (entries : Dictionary Key Value) :
    get? (set key value entries) key = some value := by
  induction entries with
  | nil => simp [set, get?]
  | cons entry rest induction =>
    unfold set
    split
    · simp_all [get?]
    · next different =>
      simp only [get?] at induction ⊢
      rw [List.find?_cons_of_neg (by simpa using different)]
      exact induction

theorem get?_set_of_ne {key other : Key} (different : other ≠ key) (value : Value)
    (entries : Dictionary Key Value) : get? (set key value entries) other = get? entries other := by
  induction entries with
  | nil => simp [set, get?, different.symm]
  | cons entry rest induction =>
    unfold set
    split
    · next same => simp [get?, same, different.symm]
    · simp only [get?] at induction ⊢
      by_cases found : entry.1 = other
      · simp [found]
      · simpa [found] using induction

theorem any_set (test : Key → Bool) (key : Key) (value : Value) (entries : Dictionary Key Value) :
    (set key value entries).any (fun entry => test entry.1) =
      (test key || entries.any fun entry => test entry.1) := by
  induction entries with
  | nil => simp [set]
  | cons entry rest induction =>
    unfold set
    split
    · next same => simp [← same]
    · rw [List.any_cons, induction, List.any_cons, Bool.or_left_comm]

example : ofPairs [("a", 1), ("b", 2), ("a", 3)] = [("a", 3), ("b", 2)] := by decide

end Dictionary

end SymbolScript
