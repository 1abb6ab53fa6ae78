import SymbolScript.Proofs.Decimal.Rounding
import SymbolScript.Proofs.Number
import SymbolScript.TokenCost

/-!
Token costs stay finite. A ratio scales the token counts of two texts alike, so neither count can be
far beyond the other one, however small the ratio is, and a reduction is a percentage that a double
holds.
-/

namespace SymbolScript.TokenCost

open Decimal Binary

/-! ## Estimates by a ratio -/

section Ratio

variable {ratio : Float} {length : Nat} {count : Int}

theorem ceiling_of_estimateByRatio (estimated : estimateByRatio length (.real ratio) = .ok count) :
    ceiling (nearest false length 1 / ratio) = .ok count := by
  have positive : decide ((length : Int) < 0) = false := decide_eq_false (by omega)
  simp only [estimateByRatio, Number.divide, Number.toFloat, floatOfInt, positive,
    Int.natAbs_natCast] at estimated
  split at estimated
  · cases estimated
  · split at estimated
    · cases estimated
    · exact estimated

theorem log2_le_place {value : Binary} (positive : 0 < length)
    (read : ofFloat? (nearest false length 1) = some value) :
    (length.log2 : Int) ≤ value.place := by
  rcases exists_isRounded_nearest false positive Nat.one_pos with ⟨place, rounded, found, _, lower⟩
  have log : Nat.log2 1 = 0 := by decide
  have large := lower (by omega)
  have bound := found.lower (by omega)
  rw [← found.eq_of_read read]
  omega

theorem exists_ofFloat?_length (short : length < 2 ^ 63) :
    ∃ value, ofFloat? (nearest false length 1) = some value ∧ value.place ≤ 65 ∧
      (value.mantissa ≠ 0 → 0 ≤ value.place) := by
  rcases exists_ofFloat?_nearest false Nat.one_pos (by omega : length < 2 ^ 63 * 1)
    (by decide) with ⟨value, read, small⟩
  refine ⟨value, read, small, fun filled => ?_⟩
  rcases Nat.eq_zero_or_pos length with rfl | positive
  · have zero : ofFloat? (nearest false 0 1) = some ⟨0, leastExponent⟩ := rfl
    rw [zero] at read
    cases read
    exact absurd rfl filled
  · have large := log2_le_place positive read
    omega

theorem estimateByRatio_eq (short : length < 2 ^ 63) (positive : ¬ratio ≤ 0) :
    estimateByRatio length (.real ratio) = ceiling (nearest false length 1 / ratio) := by
  have notZero : (Number.real ratio).isZero = false := by
    rw [← Bool.not_eq_true]
    exact fun isZero => positive (le_of_beq isZero)
  have natural : decide ((length : Int) < 0) = false := decide_eq_false (by omega)
  rcases exists_ofFloat?_length short with ⟨value, read, -, -⟩
  have finite : ¬(nearest false length 1).isInf = true := fun infinite =>
    nomatch read.symm.trans ((ofFloat?_eq_none_iff _).mpr (.inr infinite))
  have asDouble : floatOfInt length = .ok (nearest false length 1) := by
    rw [floatOfInt, natural, Int.natAbs_natCast]
    exact if_neg finite
  have divided : (Number.whole length).divide (.real ratio) =
      .ok (nearest false length 1 / ratio) := by
    simp [Number.divide, notZero, Number.toFloat, asDouble, bind, Except.bind, pure, Except.pure]
  rw [estimateByRatio, divided]
  rfl

theorem log2_length_le (estimated : estimateByRatio length (.real ratio) = .ok count) :
    length.log2 ≤ 1024 := by
  rcases exists_of_ceiling (ceiling_of_estimateByRatio estimated) with ⟨quotient, read, _⟩
  rcases div_cases read with ⟨value, lengthRead, _⟩
  have bounded := place_le_of_ofFloat? lengthRead
  rcases Nat.eq_zero_or_pos length with rfl | positive
  · decide
  · have large := log2_le_place positive lengthRead
    omega

theorem log2_natAbs_le (estimated : estimateByRatio length (.real ratio) = .ok count) :
    count.natAbs.log2 ≤ 1024 :=
  log2_natAbs_le_of_ceiling (ceiling_of_estimateByRatio estimated)

theorem natAbs_le_of_estimates {other : Nat} {few : Int} (short : length < 2 ^ 63)
    (otherShort : other < 2 ^ 63) (estimated : estimateByRatio length (.real ratio) = .ok count)
    (otherEstimated : estimateByRatio other (.real ratio) = .ok few) (filled : few ≠ 0) :
    count.natAbs ≤ 2 ^ 70 * few.natAbs := by
  rcases exists_of_ceiling (ceiling_of_estimateByRatio estimated) with ⟨upper, read, above, _⟩
  rcases exists_of_ceiling (ceiling_of_estimateByRatio otherEstimated) with
    ⟨lower, otherRead, otherAbove, below⟩
  rcases exists_ofFloat?_length short with ⟨left, leftRead, small, _⟩
  rcases exists_ofFloat?_length otherShort with ⟨otherLeft, otherLeftRead, _, large⟩
  rcases div_cases read with ⟨_, same, zero | ⟨leftFilled, right, rightRead, rightFilled⟩⟩
  · rw [ceil_of_zero zero] at above
    omega
  cases leftRead.symm.trans same
  rcases div_cases otherRead with ⟨_, same, zero | ⟨otherFilled, _⟩⟩
  · rw [ceil_of_zero zero] at otherAbove
    omega
  cases otherLeftRead.symm.trans same
  rcases exists_isRounded_div leftRead rightRead leftFilled rightFilled with
    ⟨place, value, rounded, placeBound, _⟩
  rcases exists_isRounded_div otherLeftRead rightRead otherFilled rightFilled with
    ⟨otherPlace, otherValue, otherRounded, _, otherPlaceBound⟩
  rw [rounded.eq_of_read read] at rounded
  rw [otherRounded.eq_of_read otherRead] at otherRounded
  have valueBound := rounded.upper
  have otherBound := otherRounded.lower
  have otherPositive := large otherFilled
  have reached : 2 ^ (lower.place - 1).toNat ≤ few.natAbs :=
    otherRounded.canonical.two_pow_le (by omega) below
  calc
    count.natAbs ≤ upper.ceil := above
    _ ≤ 2 ^ (70 + (lower.place - 1).toNat) := ceil_le (by omega)
    _ = 2 ^ 70 * 2 ^ (lower.place - 1).toNat := Nat.pow_add _ _ _
    _ ≤ 2 ^ 70 * few.natAbs := Nat.mul_le_mul_left _ reached

end Ratio

/-! ## Reductions -/

theorem exists_of_reduction {before after : Int} {percent : Float}
    (bounded : before ≠ 0 → after.natAbs ≤ 2 ^ 70 * before.natAbs)
    (computed : reduction (.whole before) (.whole after) = .ok percent) :
    ∃ value, ofFloat? percent = some value ∧ value.place ≤ 199 := by
  by_cases zero : before = 0
  · subst zero
    cases computed
    exact ⟨⟨0, leastExponent⟩, rfl, by decide⟩
  · have below : 0 < before.natAbs := by omega
    have above : (before - after).natAbs < 2 ^ 71 * before.natAbs := by
      have := bounded zero
      omega
    have notZero : (Number.whole before).isZero = false := by
      simpa [Number.isZero] using zero
    simp only [reduction, notZero, Number.subtract, Bool.false_eq_true, if_false, bind,
      Except.bind] at computed
    split at computed
    · cases computed
    · next quotient divided =>
      cases computed
      rcases Number.exists_of_divide above (by decide) divided with ⟨left, leftRead, small⟩
      have hundred : ofFloat? 100 = some ⟨100 * 2 ^ 46, -46⟩ := rfl
      have hundredPlace : (⟨100 * 2 ^ 46, -46⟩ : Binary).place = 7 := by decide
      rcases exists_ofFloat?_mul leftRead hundred (by omega) with
        ⟨product, productRead, productSmall⟩
      exact ⟨product, productRead, by omega⟩

theorem exists_reduction {before after : Int}
    (bounded : before ≠ 0 → after.natAbs ≤ 2 ^ 70 * before.natAbs) :
    ∃ percent, reduction (.whole before) (.whole after) = .ok percent := by
  rw [reduction]
  by_cases zero : before = 0
  · subst zero
    exact ⟨_, rfl⟩
  · have above : (before - after).natAbs < 2 ^ 71 * before.natAbs := by
      have := bounded zero
      omega
    have notZero : (Number.whole before).isZero = false := by simpa [Number.isZero] using zero
    rcases Number.exists_divide zero above (by decide) with ⟨quotient, divided⟩
    exact ⟨quotient * 100, by simp [notZero, Number.subtract, divided, bind, Except.bind, pure,
      Except.pure]⟩

end SymbolScript.TokenCost
