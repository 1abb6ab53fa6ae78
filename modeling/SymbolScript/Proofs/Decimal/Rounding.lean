import SymbolScript.Decimal.Rounding
import SymbolScript.Proofs.Decimal.Nearest
import SymbolScript.Proofs.Decimal.Reading

/-! Doubles that are not too large stay finite when they are rounded to decimal places. -/

namespace SymbolScript.Decimal

theorem exists_ofFloat?_nearestScaled (negative : Bool) {digits places : Nat}
    (small : digits < 2 ^ 200 * 10 ^ places) :
    ∃ value, Binary.ofFloat? (nearestScaled negative digits (0 - places)) = some value := by
  have short : (ofNat digits).length ≤ 60 + places + 1 := by
    apply length_ofNat_le
    calc
      digits < 2 ^ 200 * 10 ^ places := small
      _ ≤ 10 ^ 61 * 10 ^ places := Nat.mul_le_mul_right _ (by decide)
      _ = 10 ^ (60 + places + 1) := by rw [← Nat.pow_add, Nat.add_right_comm]
  unfold nearestScaled
  dsimp only
  split
  · rcases Binary.exists_ofFloat?_nearest negative Nat.one_pos
      (show 0 < 2 ^ 0 * 1 from Nat.one_pos) (Nat.zero_le _) with ⟨value, read, _⟩
    exact ⟨value, read⟩
  · rw [if_neg (by omega)]
    have scale : (0 - (places : Int)).toNat = 0 ∧ (-(0 - (places : Int))).toNat = places := by omega
    rw [scale.1, scale.2, Nat.pow_zero, Nat.mul_one]
    have positive : 0 < 10 ^ places := Nat.pow_pos (by decide)
    rcases Binary.exists_ofFloat?_nearest negative positive small (by decide) with ⟨value, read, _⟩
    exact ⟨value, read⟩

theorem readFloat?_fixed {x : Float} {value : Binary} (read : Binary.ofFloat? x = some value)
    (places : Nat) :
    readFloat? (fixed (places + 1) x) = some (nearestScaled (isNegative x)
      (roundHalfEven (value.numerator * 10 ^ (places + 1)) value.denominator)
      (0 - (places + 1 : Nat))) := by
  have sign : (if isNegative x then ['-'] else []) = signText (isNegative x) := rfl
  rw [fixed, read]
  dsimp only
  rw [sign, Binary.fixed]
  generalize roundHalfEven (value.numerator * 10 ^ (places + 1)) value.denominator = digits
  generalize shown : padded (places + 1 + 1) digits = numeral
  have isDigit : ∀ c ∈ numeral, isPlainDigit c = true := by
    rw [← shown]
    exact fun c => isPlainDigit_of_mem_padded
  have long : places + 1 < numeral.length := by
    rw [← shown]
    exact le_length_padded (places + 1 + 1) digits
  have whole : numeral.take (numeral.length - (places + 1)) ≠ [] := by
    refine List.ne_nil_of_length_pos ?_
    rw [List.length_take]
    omega
  have fraction : (numeral.drop (numeral.length - (places + 1))).length = places + 1 := by
    rw [List.length_drop]
    omega
  have fractionDigits : ∀ c ∈ numeral.drop (numeral.length - (places + 1)),
      isPlainDigit c = true :=
    fun c member => isDigit c (List.mem_of_mem_drop member)
  have point := readFloat?_of_point (isNegative x)
    (fun c member => isDigit c (List.mem_of_mem_take member)) whole fractionDigits
  rw [List.take_append_drop, fraction, ← shown, readDigits_padded] at point
  rw [← shown]
  simpa using point

theorem exists_ofFloat?_round {x : Float} {value : Binary} (read : Binary.ofFloat? x = some value)
    (small : value.place ≤ 199) (places : Nat) :
    ∃ rounded, Binary.ofFloat? (round (places + 1) x) = some rounded := by
  have numerator := Nat.mul_lt_mul_of_pos_right (Binary.numerator_lt small)
    (show 0 < 10 ^ (places + 1) from Nat.pow_pos (by decide))
  rw [Nat.mul_right_comm] at numerator
  have quotient := (Nat.div_lt_iff_lt_mul value.denominator_pos).mpr numerator
  have scaled := Binary.roundHalfEven_bounds (value.numerator * 10 ^ (places + 1)) value.denominator
  have bound : roundHalfEven (value.numerator * 10 ^ (places + 1)) value.denominator <
      2 ^ 200 * 10 ^ (places + 1) :=
    calc
      _ ≤ value.numerator * 10 ^ (places + 1) / value.denominator + 1 := scaled.2
      _ ≤ 2 ^ 199 * 10 ^ (places + 1) := quotient
      _ < 2 ^ 200 * 10 ^ (places + 1) :=
        Nat.mul_lt_mul_of_pos_right (by decide) (Nat.pow_pos (by decide))
  rw [round, read, readFloat?_fixed read]
  exact exists_ofFloat?_nearestScaled (isNegative x) bound

end SymbolScript.Decimal
