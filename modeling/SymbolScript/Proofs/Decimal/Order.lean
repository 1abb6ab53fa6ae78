import Mathlib
import SymbolScript.Proofs.Decimal.Packing
import SymbolScript.Proofs.Number

/-!
The order of numbers. Every finite number, be it an integer or a double, has an exact value, and
one number is below another one exactly if its value is.
-/

namespace SymbolScript

open Float.Model (UnpackedFloat)
open Float.Model.UnpackedFloat (Sign)

/-! ## Magnitudes -/

namespace Decimal.Binary

def units (value : Binary) : Nat :=
  value.mantissa * 2 ^ (value.exponent - leastExponent).toNat

def exact (value : Binary) : ℚ :=
  value.numerator / value.denominator

section Magnitudes

variable {value left right : Binary}

theorem denominator_cast_pos (value : Binary) : (0 : ℚ) < value.denominator :=
  Nat.cast_pos.mpr value.denominator_pos

theorem exact_of_zero (zero : value.mantissa = 0) : value.exact = 0 := by
  rw [exact, numerator, zero, Nat.zero_mul, Nat.cast_zero, zero_div]

theorem exact_pos (positive : 0 < value.mantissa) : 0 < value.exact :=
  div_pos (Nat.cast_pos.mpr (Nat.mul_pos positive (Nat.two_pow_pos _)))
    value.denominator_cast_pos

theorem units_mul_denominator (least : leastExponent ≤ value.exponent) :
    value.units * value.denominator = value.numerator * 2 ^ (-leastExponent).toNat := by
  have constant : leastExponent = -1074 := rfl
  have powers : (value.exponent - leastExponent).toNat + (-value.exponent).toNat =
      value.exponent.toNat + (-leastExponent).toNat := by omega
  rw [units, denominator, numerator, Nat.mul_assoc, Nat.mul_assoc, ← Nat.pow_add, ← Nat.pow_add,
    powers]

theorem exact_lt_iff_units (leftLeast : leastExponent ≤ left.exponent)
    (rightLeast : leastExponent ≤ right.exponent) :
    left.exact < right.exact ↔ left.units < right.units := by
  have scale : 0 < 2 ^ (-leastExponent).toNat := Nat.two_pow_pos _
  have denominators : 0 < left.denominator * right.denominator :=
    Nat.mul_pos left.denominator_pos right.denominator_pos
  have leftUnits : left.numerator * right.denominator * 2 ^ (-leastExponent).toNat =
      left.units * (left.denominator * right.denominator) := by
    rw [Nat.mul_right_comm, ← units_mul_denominator leftLeast, Nat.mul_assoc]
  have rightUnits : right.numerator * left.denominator * 2 ^ (-leastExponent).toNat =
      right.units * (left.denominator * right.denominator) := by
    rw [Nat.mul_right_comm, ← units_mul_denominator rightLeast, Nat.mul_assoc,
      Nat.mul_comm right.denominator]
  rw [exact, exact, div_lt_div_iff₀ left.denominator_cast_pos right.denominator_cast_pos,
    ← Nat.cast_mul, ← Nat.cast_mul, Nat.cast_lt, ← Nat.mul_lt_mul_right scale, leftUnits,
    rightUnits, Nat.mul_lt_mul_right denominators]

theorem units_lt_of_exponent (leftCanonical : left.IsCanonical)
    (rightCanonical : right.IsCanonical) (finer : left.exponent < right.exponent) :
    left.units < right.units := by
  have least := leftCanonical.least
  have full := rightCanonical.full.resolve_right (by omega)
  have unit : 0 < 2 ^ (left.exponent - leastExponent).toNat := Nat.two_pow_pos _
  calc
    left.units < 2 ^ 53 * 2 ^ (left.exponent - leastExponent).toNat :=
      Nat.mul_lt_mul_of_pos_right leftCanonical.short unit
    _ = 2 ^ 52 * 2 ^ ((left.exponent - leastExponent).toNat + 1) := by
      rw [Nat.pow_succ _ (left.exponent - leastExponent).toNat]
      omega
    _ ≤ 2 ^ 52 * 2 ^ (right.exponent - leastExponent).toNat :=
      Nat.mul_le_mul_left _ (Nat.pow_le_pow_right (by decide) (by omega))
    _ ≤ right.units := Nat.mul_le_mul_right _ full

theorem units_lt_iff (leftCanonical : left.IsCanonical) (rightCanonical : right.IsCanonical) :
    left.units < right.units ↔ left.exponent < right.exponent ∨
      left.exponent = right.exponent ∧ left.mantissa < right.mantissa := by
  rcases Int.lt_trichotomy left.exponent right.exponent with finer | same | coarser
  · exact iff_of_true (units_lt_of_exponent leftCanonical rightCanonical finer) (.inl finer)
  · rw [units, units, same, Nat.mul_lt_mul_right (Nat.two_pow_pos _)]
    simp
  · have above := units_lt_of_exponent rightCanonical leftCanonical coarser
    exact iff_of_false (Nat.lt_asymm above) (by omega)

theorem exact_lt_iff (leftCanonical : left.IsCanonical) (rightCanonical : right.IsCanonical) :
    left.exact < right.exact ↔ (compare left.exponent right.exponent).then
      (compare left.mantissa right.mantissa) = .lt := by
  rw [exact_lt_iff_units leftCanonical.least rightCanonical.least,
    units_lt_iff leftCanonical rightCanonical, Ordering.then_eq_lt, Std.compare_eq_lt,
    Std.compare_eq_lt, Std.compare_eq_iff_eq]

end Magnitudes

/-! ## Doubles -/

inductive IsValue : UnpackedFloat → ℚ → Prop
  | zero (sign : Sign) : IsValue (.zero sign) 0
  | positive {value : Binary} (canonical : value.IsCanonical) (positive : 0 < value.mantissa) :
      IsValue (.finite .positive value.mantissa value.exponent positive) value.exact
  | negative {value : Binary} (canonical : value.IsCanonical) (positive : 0 < value.mantissa) :
      IsValue (.finite .negative value.mantissa value.exponent positive) (-value.exact)

theorem IsValue.lt_iff {leftParts rightParts : UnpackedFloat} {leftValue rightValue : ℚ}
    (leftIs : IsValue leftParts leftValue) (rightIs : IsValue rightParts rightValue) :
    leftParts.lt rightParts = true ↔ leftValue < rightValue := by
  cases leftIs with
  | zero =>
      cases rightIs with
      | zero => simp [UnpackedFloat.lt, UnpackedFloat.compare]
      | positive _ above => simp [UnpackedFloat.lt, UnpackedFloat.compare, exact_pos above]
      | negative _ above =>
          simp [UnpackedFloat.lt, UnpackedFloat.compare, le_of_lt (exact_pos above)]
  | positive canonical positive =>
      have leftPos := exact_pos positive
      cases rightIs with
      | zero => simp [UnpackedFloat.lt, UnpackedFloat.compare, le_of_lt leftPos]
      | positive other _ =>
          simp [UnpackedFloat.lt, UnpackedFloat.compare, exact_lt_iff canonical other]
      | negative _ above =>
          have rightPos := exact_pos above
          exact iff_of_false (by simp [UnpackedFloat.lt, UnpackedFloat.compare]) (by linarith)
  | negative canonical positive =>
      have leftPos := exact_pos positive
      cases rightIs with
      | zero => simp [UnpackedFloat.lt, UnpackedFloat.compare, leftPos]
      | positive _ above =>
          have rightPos := exact_pos above
          exact iff_of_true (by simp [UnpackedFloat.lt, UnpackedFloat.compare]) (by linarith)
      | negative other _ =>
          rw [neg_lt_neg_iff, exact_lt_iff other canonical]
          simp [UnpackedFloat.lt, UnpackedFloat.compare, Ordering.swap_then, Int.compare_swap,
            Nat.compare_swap]

end Decimal.Binary

/-- The exact value of a finite double; what has no magnitude counts as zero. -/
def Decimal.exact (x : Float) : ℚ :=
  match Decimal.Binary.ofFloat? x with
  | none => 0
  | some value => if isNegative x then -value.exact else value.exact

namespace Decimal

open Binary

section Doubles

variable {x y : Float} {value other : Binary}

theorem isValue_exact (read : ofFloat? x = some value) : IsValue x.toModel.unpack (exact x) := by
  have magnitude := isMagnitude_ofFloat? x
  rw [read] at magnitude
  rw [exact, read]
  generalize parts : x.toModel.unpack = unpacked at magnitude
  cases magnitude with
  | zero sign =>
      dsimp only
      rw [exact_of_zero rfl, neg_zero, ite_self]
      exact .zero sign
  | finite sign positive canonical _ =>
      have signed := isNegative_iff read positive parts
      cases sign with
      | positive =>
          rw [Bool.eq_false_iff.mpr (mt signed.mp nofun)]
          exact .positive canonical positive
      | negative =>
          rw [signed.mpr rfl]
          exact .negative canonical positive

theorem lt_iff_exact (readLeft : ofFloat? x = some value) (readRight : ofFloat? y = some other) :
    x < y ↔ exact x < exact y := by
  rw [← (isValue_exact readLeft).lt_iff (isValue_exact readRight)]
  change Float.lt x y = true ↔ _
  rw [Float.lt, decide_eq_true_iff]
  rfl

theorem exact_neg (read : ofFloat? x = some value) : exact (-x) = -exact x := by
  rw [exact, exact, ofFloat?_neg, read]
  rcases Nat.eq_zero_or_pos value.mantissa with zero | positive
  · simp [exact_of_zero zero]
  · rw [isNegative_neg read positive]
    cases isNegative x <;> simp

end Doubles

end Decimal

/-! ## Numbers -/

namespace Number

open Decimal Binary

def exact : Number → ℚ
  | whole value => value
  | real value => Decimal.exact value

section Numbers

variable {left right : Number}

theorem isComparable_of_isFinite {number : Number} (finite : number.isFinite = true) :
    number.isComparable = true := by
  cases number with
  | whole value => rfl
  | real value => exact (Bool.and_eq_true_iff.mp finite).1

theorem lessThanReal_iff {number : Int} {x : Float} {value : Binary}
    (read : ofFloat? x = some value) :
    less.lessThanReal number x = true ↔ (number : ℚ) < Decimal.exact x := by
  have signed : Decimal.exact x =
      (if isNegative x then -(value.numerator : Int) else value.numerator : Int) /
        value.denominator := by
    rw [Decimal.exact, read]
    cases isNegative x <;> simp [Binary.exact, neg_div]
  rw [signed, lt_div_iff₀ value.denominator_cast_pos, less.lessThanReal, read]
  dsimp only
  rw [decide_eq_true_iff]
  norm_cast

theorem less_iff_exact (finiteLeft : left.isFinite = true) (finiteRight : right.isFinite = true) :
    left.less right = true ↔ left.exact < right.exact := by
  cases left with
  | whole left =>
      cases right with
      | whole right => simp [less, exact]
      | real right =>
          rcases (isFinite_real_iff right).mp finiteRight with ⟨value, read⟩
          exact lessThanReal_iff read
  | real left =>
      rcases (isFinite_real_iff left).mp finiteLeft with ⟨value, read⟩
      cases right with
      | whole right =>
          have isNumber : (!left.isNaN) = true := isComparable_of_isFinite finiteLeft
          have negated : ofFloat? (-left) = some value := (ofFloat?_neg left).trans read
          rw [less, isNumber, Bool.true_and, lessThanReal_iff negated,
            exact_neg read, Int.cast_neg, neg_lt_neg_iff, exact, exact]
      | real right =>
          rcases (isFinite_real_iff right).mp finiteRight with ⟨other, readRight⟩
          rw [less, decide_eq_true_iff, lt_iff_exact read readRight, exact, exact]

end Numbers

end Number

end SymbolScript
