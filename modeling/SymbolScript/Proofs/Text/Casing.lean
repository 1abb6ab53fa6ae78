import SymbolScript.Proofs.Text.Basic
import SymbolScript.Text.Casing

/-!
Characters without case, such as brackets. No change of case brings such a character into a text,
so a capitalised text holds it only if the text itself does.
-/

namespace SymbolScript.Text

def IsOffCase (shifts : List (Nat × Nat × Nat × Int)) (expansions : List (Nat × List Nat))
    (c : Char) : Prop :=
  (∀ shift ∈ shifts, (c.toNat : Int) < shift.1 + shift.2.2.2 ∨
    shift.2.1 + shift.2.2.2 < (c.toNat : Int)) ∧
  ∀ expansion ∈ expansions, c ∉ expansion.2.map Char.ofNat

instance (shifts : List (Nat × Nat × Nat × Int)) (expansions : List (Nat × List Nat)) (c : Char) :
    Decidable (IsOffCase shifts expansions c) :=
  inferInstanceAs (Decidable (_ ∧ _))

structure IsCaseless (c : Char) : Prop where
  lowered : IsOffCase lowercaseShifts lowercaseExpansions c
  raised : IsOffCase titlecaseShifts titlecaseExpansions c
  noSigma : c ∉ ['σ', 'ς']
  noNull : c ≠ '\x00'

theorem toNat_of_eq_ofNat {c : Char} (noNull : c ≠ '\x00') {n : Nat} (equal : c = Char.ofNat n) :
    c.toNat = n := by
  by_cases valid : n.isValidChar
  · rw [equal, Char.ofNat, dif_pos valid]
    rfl
  · rw [Char.ofNat, dif_neg valid] at equal
    exact absurd equal noNull

variable {mark : Char}

theorem not_mem_changeCase {shifts : List (Nat × Nat × Nat × Int)}
    {expansions : List (Nat × List Nat)} (off : IsOffCase shifts expansions mark)
    (noNull : mark ≠ '\x00') {c : Char} (other : c ≠ mark) :
    mark ∉ changeCase shifts expansions c := by
  intro member
  unfold changeCase at member
  split at member
  · next points found => exact off.2 _ (List.mem_of_find?_eq_some found) member
  · split at member
    · next first last step distance found =>
      have inRange := List.find?_some found
      simp only [Bool.and_eq_true, decide_eq_true_eq] at inRange
      have shifted := toNat_of_eq_ofNat noNull (List.mem_singleton.mp member)
      have positive : mark.toNat ≠ 0 := fun isNull => noNull (Char.toNat_inj.mp isNull)
      have away := off.1 _ (List.mem_of_find?_eq_some found)
      simp only at away
      omega
    · exact other (List.mem_singleton.mp member).symm

namespace IsCaseless

theorem not_mem_lowercaseFrom (caseless : IsCaseless mark) (before : Text) {text : Text}
    (absent : mark ∉ text) : mark ∉ lowercaseFrom before text := by
  induction text generalizing before with
  | nil => exact List.not_mem_nil
  | cons c rest induction =>
      rcases List.ne_and_not_mem_of_not_mem_cons absent with ⟨different, later⟩
      rw [lowercaseFrom, List.mem_append, not_or]
      refine ⟨?_, induction (c :: before) later⟩
      have sigmas := caseless.noSigma
      simp only [List.mem_cons, List.not_mem_nil, or_false, not_or] at sigmas
      unfold lowercaseAt
      split
      · split
        · exact mt List.mem_singleton.mp sigmas.2
        · exact mt List.mem_singleton.mp sigmas.1
      · exact not_mem_changeCase caseless.lowered caseless.noNull different.symm

theorem not_mem_capitalize (caseless : IsCaseless mark) {text : Text} (absent : mark ∉ text) :
    mark ∉ capitalize text := by
  cases text with
  | nil => exact absent
  | cons c rest =>
      rcases List.ne_and_not_mem_of_not_mem_cons absent with ⟨different, later⟩
      rw [capitalize, List.mem_append, not_or]
      exact ⟨not_mem_changeCase caseless.raised caseless.noNull different.symm,
        caseless.not_mem_lowercaseFrom [c] later⟩

end IsCaseless

theorem isCaseless_brace : IsCaseless '\x7b' :=
  ⟨by decide +kernel, by decide +kernel, by decide, by decide⟩

end SymbolScript.Text
