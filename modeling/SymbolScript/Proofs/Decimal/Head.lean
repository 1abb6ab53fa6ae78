import SymbolScript.Number
import SymbolScript.Proofs.Decimal.Shortest

/-! Numerals do not start with the mark of an exponent. -/

namespace SymbolScript.Decimal

theorem ne_exponent_of_isPlainDigit {c : Char} (digit : isPlainDigit c = true) : c ≠ 'e' := by
  rintro rfl
  cases digit

theorem head_ofNat (number : Nat) : ∃ c rest, ofNat number = c :: rest ∧ c ≠ 'e' := by
  rcases List.exists_cons_of_ne_nil (ofNat_ne_nil number) with ⟨c, rest, shown⟩
  have digit := isPlainDigit_of_mem_ofNat (shown ▸ List.mem_cons_self)
  exact ⟨c, rest, shown, ne_exponent_of_isPlainDigit digit⟩

theorem head_ofInt (number : Int) : ∃ c rest, ofInt number = c :: rest ∧ c ≠ 'e' := by
  unfold ofInt
  split
  · exact ⟨'-', _, rfl, by decide⟩
  · exact head_ofNat number.natAbs

namespace Scaled

theorem head_positional (value : Scaled) : ∃ c rest, value.positional = c :: rest ∧ c ≠ 'e' := by
  change ∃ c rest, value.parts.1 ++ '.' :: _ = c :: rest ∧ c ≠ 'e'
  cases whole : value.parts.1 with
  | nil => exact ⟨'.', _, rfl, by decide⟩
  | cons c digits =>
      have digit : isPlainDigit c = true := isPlainDigit_of_mem_parts (whole ▸ List.mem_cons_self)
      exact ⟨c, _, rfl, ne_exponent_of_isPlainDigit digit⟩

theorem head_scientific (value : Scaled) : ∃ c rest, value.scientific = c :: rest ∧ c ≠ 'e' := by
  unfold scientific
  cases shown : stripZeros (ofNat value.digits) with
  | nil => exact ⟨'.', _, rfl, by decide⟩
  | cons c digits =>
      have member : c ∈ stripZeros (ofNat value.digits) := shown ▸ List.mem_cons_self
      have digit := isPlainDigit_of_mem_ofNat (mem_of_mem_stripZeros member)
      exact ⟨c, _, rfl, ne_exponent_of_isPlainDigit digit⟩

theorem head_text (value : Scaled) : ∃ c rest, value.text = c :: rest ∧ c ≠ 'e' := by
  unfold text
  dsimp only
  split
  · exact value.head_scientific
  · exact value.head_positional

end Scaled

theorem head_ofFloat (x : Float) : ∃ c rest, ofFloat x = c :: rest ∧ c ≠ 'e' := by
  unfold ofFloat
  dsimp only
  by_cases negative : isNegative x = true
  · rw [if_pos negative]
    split
    · split
      · exact ⟨'n', _, rfl, by decide⟩
      · exact ⟨'-', _, rfl, by decide⟩
    · exact ⟨'-', _, rfl, by decide⟩
  · rw [if_neg negative]
    split
    · split
      · exact ⟨'n', _, rfl, by decide⟩
      · exact ⟨'i', _, rfl, by decide⟩
    · next value _ =>
      split
      · exact ⟨'0', _, rfl, by decide⟩
      · exact value.shortest.head_text

theorem head_write {number : Int} {shown : Text} (written : write number = .ok shown) :
    ∃ c rest, shown = c :: rest ∧ c ≠ 'e' := by
  unfold write at written
  split at written
  · cases written
    exact head_ofInt number
  · cases written

theorem head_spelled {number : Number} {shown : Text} (spelled : number.spelled = .ok shown) :
    ∃ c rest, shown = c :: rest ∧ c ≠ 'e' := by
  cases number with
  | whole value =>
      rw [Number.spelled] at spelled
      exact head_write spelled
  | real value =>
      rw [Number.spelled] at spelled
      by_cases infinite : value.isInf
      · rw [if_pos infinite, Except.ok.injEq] at spelled
        rw [← spelled]
        split
        · exact ⟨'-', _, rfl, by decide⟩
        · exact ⟨'I', _, rfl, by decide⟩
      · rw [if_neg infinite] at spelled
        split at spelled
        · cases spelled
          exact head_ofInt _
        · cases spelled
          exact head_ofFloat value

end SymbolScript.Decimal
