import SymbolScript.Proofs.Decimal.Whole
import SymbolScript.Proofs.VectorNumber.RoundTrip

/-!
Vector numbers of whole doubles and of infinities. A double that stands for an integer is written as
this integer; an infinity is written as its glyph, which is read as no integer.
-/

namespace SymbolScript.VectorNumber

open Decimal

/-! ## Whole doubles -/

section Whole

variable {x : Float} {value : Binary}

theorem isWhole_writtenConstants :
    ∀ constant ∈ writtenConstants,
      (Binary.ofFloat? constant.1).any Binary.isWhole = false := by
  decide +kernel

theorem find?_writtenConstants_of_isWhole (read : Binary.ofFloat? x = some value)
    (whole : value.isWhole = true) : writtenConstants.find? (·.1 == x.abs) = none := by
  rw [List.find?_eq_none]
  intro constant isConstant equal
  have fractional := isWhole_writtenConstants constant isConstant
  rw [Binary.ofFloat?_eq_of_beq equal, Binary.ofFloat?_abs, read, Option.any_some, whole]
    at fractional
  cases fractional

theorem encodeReal_of_isWhole (read : Binary.ofFloat? x = some value)
    (whole : value.isWhole = true) : encodeReal x = encodeWhole value.floor := by
  rw [encodeReal, find?_writtenConstants_of_isWhole read whole, read]
  exact if_pos whole

theorem signed_lt_zero_iff (read : Binary.ofFloat? x = some value)
    (whole : value.isWhole = true) : signed (isNegative x) value.floor < 0 ↔ x < 0 := by
  rcases Nat.eq_zero_or_pos value.mantissa with zero | positive
  · have noSign := Binary.not_lt_zero_of_zero read zero
    rw [Binary.floor_of_zero zero]
    cases isNegative x <;> exact iff_of_false (by decide) noSign
  · have filled := Binary.floor_pos whole positive
    rw [← Binary.isNegative_iff_lt_zero read positive]
    cases isNegative x with
    | true => exact iff_of_true (by rw [signed, if_pos rfl]; omega) rfl
    | false => exact iff_of_false (by rw [signed]; simp) Bool.false_ne_true

theorem encode_real_of_wholeOf? {number : Int} (whole : wholeOf? x = some number) :
    encode (.real x) = encode (.whole number) := by
  rcases exists_of_wholeOf? whole with ⟨value, read, isWhole, rfl⟩
  rw [encode, encode, encodeReal_of_isWhole read isWhole, natAbs_signed]
  simp only [signed_lt_zero_iff read isWhole]

end Whole

/-! ## Infinities -/

theorem decode_encode_infinity (negative : Bool) :
    ∃ literal x, encode (.real (if negative then -infinity else infinity)) = .ok literal ∧
      decode literal = .ok (.real x) := by
  cases negative with
  | true => exact ⟨"⊗⁻∞".toList, -infinity, by decide +kernel, rfl⟩
  | false => exact ⟨"⊗∞".toList, infinity, by decide +kernel, rfl⟩

end SymbolScript.VectorNumber
