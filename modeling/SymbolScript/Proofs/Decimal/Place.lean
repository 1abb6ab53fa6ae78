import SymbolScript.Proofs.Decimal.Binary

/-!
Where the first binary digit of a rounded double stands. Rounding keeps its place or moves it up by
one, and products and quotients of doubles have the sum and the difference of the places, but for
one.
-/

namespace SymbolScript.Decimal

open Float.Model (Format UnpackedFloat totalExponent)
open Float.Model.UnpackedFloat (Sign Accuracy ExtendedMantissa roundWithAccuracy
  shiftToTargetExponent shiftToExponent)

namespace Binary

/-- The place of the first binary digit: a positive magnitude is below two to the power of its place
and at least half of that. -/
def place (value : Binary) : Int :=
  value.mantissa.log2 + 1 + value.exponent

def carried (rounded : Nat) (exponent : Int) : Binary :=
  if rounded < 2 ^ 53 then ⟨rounded, exponent⟩ else ⟨2 ^ 52, exponent + 1⟩

/-! ## Carries -/

theorem log2_le {mantissa : Nat} (short : mantissa < 2 ^ 53) : mantissa.log2 ≤ 52 := by
  by_cases zero : mantissa = 0
  · rw [zero]
    decide
  · have bound := (Nat.log2_lt zero).mpr short
    omega

theorem log2_le_of_le {number width : Nat} (small : number ≤ 2 ^ width) : number.log2 ≤ width := by
  rcases Nat.eq_zero_or_pos number with rfl | positive
  · rw [Nat.log2_zero]
    exact Nat.zero_le _
  · have below : number < 2 ^ (width + 1) :=
      Nat.lt_of_le_of_lt small (Nat.pow_lt_pow_right (by decide) (Nat.lt_succ_self _))
    exact Nat.le_of_lt_succ ((Nat.log2_lt (Nat.ne_of_gt positive)).mpr below)

theorem log2_eq {mantissa : Nat} (full : 2 ^ 52 ≤ mantissa) (short : mantissa < 2 ^ 53) :
    mantissa.log2 = 52 := by
  have positive : mantissa ≠ 0 := by
    rintro rfl
    simp at full
  exact (Nat.log2_eq_iff positive).mpr ⟨full, short⟩

section Carries

variable {rounded : Nat} {exponent : Int}

theorem isCanonical_carried (least : leastExponent ≤ exponent)
    (full : 2 ^ 52 ≤ rounded ∨ exponent = leastExponent) :
    (carried rounded exponent).IsCanonical := by
  unfold carried
  split
  · next short => exact ⟨short, least, full⟩
  · have short : 2 ^ 52 < 2 ^ 53 := by decide
    exact ⟨short, by dsimp only; omega, .inl (Nat.le_refl _)⟩

theorem place_carried_le : (carried rounded exponent).place ≤ exponent + 54 := by
  have log : (2 ^ 52).log2 = 52 := Nat.log2_two_pow
  unfold carried
  split
  · next short =>
    have bound := log2_le short
    simp only [place]
    omega
  · simp only [place, log]
    omega

theorem place_carried_of_short (short : rounded < 2 ^ 53) :
    (carried rounded exponent).place ≤ exponent + 53 := by
  have bound := log2_le short
  rw [carried, if_pos short]
  simp only [place]
  omega

theorem le_place_carried (full : 2 ^ 52 ≤ rounded) :
    (carried rounded exponent).mantissa ≠ 0 ∧
      exponent + 53 ≤ (carried rounded exponent).place := by
  have log : (2 ^ 52).log2 = 52 := Nat.log2_two_pow
  unfold carried
  split
  · next short =>
    refine ⟨Nat.ne_of_gt (Nat.lt_of_lt_of_le (by decide) full), ?_⟩
    simp only [place, log2_eq full short]
    omega
  · refine ⟨by simp, ?_⟩
    simp only [place, log]
    omega

theorem exponent_carried_of_zero (zero : (carried rounded exponent).mantissa = 0) :
    (carried rounded exponent).exponent = exponent := by
  unfold carried at zero ⊢
  split
  · rfl
  · next long =>
    rw [if_neg long] at zero
    simp at zero

end Carries

/-! ## Rounding -/

theorem mantissa_shiftRight (extended : ExtendedMantissa) (count : Nat) :
    (extended >>> count).mantissa = extended.mantissa / 2 ^ count := by
  induction count with
  | zero => exact (Nat.div_one _).symm
  | succ count induction =>
      have step : (extended >>> (count + 1)).mantissa = (extended >>> count).mantissa / 2 := rfl
      rw [step, induction, Nat.div_div_eq_div_mul, Nat.pow_succ]

theorem roundedMantissa_bounds (extended : ExtendedMantissa) :
    extended.mantissa ≤ extended.roundedMantissa ∧
      extended.roundedMantissa ≤ extended.mantissa + 1 := by
  rcases extended with ⟨mantissa, _ | _, _ | _⟩ <;>
    simp only [ExtendedMantissa.roundedMantissa, ExtendedMantissa.accuracy,
      Accuracy.roundToNearestEven] <;> omega

def targetExponent (mantissa : Nat) (exponent : Int) : Int :=
  max (mantissa.log2 + exponent - 52) leastExponent

theorem targetExponent_eq (mantissa : Nat) (exponent : Int) :
    Format.binary64.targetExponent (totalExponent mantissa exponent) =
      targetExponent mantissa exponent := by
  have constants : (Format.binary64.mantissaBits : Int) = 53 ∧
    Format.binary64.minExponent = leastExponent := ⟨rfl, rfl⟩
  rw [Format.targetExponent, totalExponent, targetExponent, constants.1, constants.2]
  congr 1
  omega

theorem shift_parts (mantissa : Nat) (exponent : Int) (accuracy : Accuracy) :
    (shiftToTargetExponent Format.binary64 mantissa exponent accuracy).1.mantissa =
        mantissa / 2 ^ (targetExponent mantissa exponent - exponent).toNat ∧
      (shiftToTargetExponent Format.binary64 mantissa exponent accuracy).2 =
        max exponent (targetExponent mantissa exponent) := by
  rw [shiftToTargetExponent, targetExponent_eq, shiftToExponent]
  refine ⟨?_, ?_⟩
  · rw [mantissa_shiftRight]
    congr 1
    rcases accuracy with _ | (_ | _ | _) <;> rfl
  · dsimp only
    omega

theorem shifted_bounds {mantissa : Nat} {exponent : Int}
    (enough : exponent ≤ targetExponent mantissa exponent) :
    mantissa / 2 ^ (targetExponent mantissa exponent - exponent).toNat < 2 ^ 53 ∧
      (leastExponent ≤ mantissa.log2 + exponent - 52 →
        2 ^ 52 ≤ mantissa / 2 ^ (targetExponent mantissa exponent - exponent).toNat) ∧
      (mantissa.log2 + exponent - 52 < leastExponent →
        mantissa / 2 ^ (targetExponent mantissa exponent - exponent).toNat < 2 ^ 52) := by
  generalize shift : (targetExponent mantissa exponent - exponent).toNat = count
  unfold targetExponent at shift enough
  have upper := @Nat.lt_log2_self mantissa
  have below : ∀ width, mantissa.log2 < width + count → mantissa / 2 ^ count < 2 ^ width := by
    intro width short
    rw [Nat.div_lt_iff_lt_mul (Nat.two_pow_pos count), ← Nat.pow_add]
    exact Nat.lt_of_lt_of_le upper (Nat.pow_le_pow_right (by decide) short)
  refine ⟨below 53 (by omega), fun normal => ?_, fun small => below 52 (by omega)⟩
  have positive : mantissa ≠ 0 := by
    rintro rfl
    simp at normal enough
    omega
  have lower := Nat.log2_self_le positive
  rw [Nat.le_div_iff_mul_le (Nat.two_pow_pos count), ← Nat.pow_add]
  exact Nat.le_trans (Nat.pow_le_pow_right (by decide) (by omega)) lower

theorem shift_rounded {rounded : Nat} {exponent : Int} (short : rounded ≤ 2 ^ 53)
    (least : leastExponent ≤ exponent) :
    (shiftToTargetExponent Format.binary64 rounded exponent .exact).1.mantissa =
        (carried rounded exponent).mantissa ∧
      (shiftToTargetExponent Format.binary64 rounded exponent .exact).2 =
        (carried rounded exponent).exponent := by
  have parts := shift_parts rounded exponent .exact
  unfold carried
  split
  · next small =>
    have kept : targetExponent rounded exponent ≤ exponent := by
      unfold targetExponent
      have log := log2_le small
      omega
    have noShift : (targetExponent rounded exponent - exponent).toNat = 0 := by omega
    rwa [noShift, Nat.pow_zero, Nat.div_one, Int.max_eq_left kept] at parts
  · next long =>
    have carry : rounded = 2 ^ 53 := by omega
    have log : rounded.log2 = 53 := by
      rw [carry]
      exact Nat.log2_two_pow
    have target : targetExponent rounded exponent = exponent + 1 := by
      unfold targetExponent
      omega
    have shift : (exponent + 1 - exponent).toNat = 1 := by omega
    have half : 2 ^ 53 / 2 ^ 1 = 2 ^ 52 := by decide
    rw [target, shift, Int.max_eq_right (by omega), carry, half] at parts
    rw [carry]
    exact parts

theorem ofFloat?_pack_dite {value : Binary} (canonical : value.IsCanonical)
    (least : value.mantissa = 0 → value.exponent = leastExponent) (sign : Sign) {mantissa : Nat}
    {exponent : Int} (sameMantissa : mantissa = value.mantissa)
    (sameExponent : exponent = value.exponent) :
    ofFloat? (Float.ofModel (Float.Model.pack (if zero : mantissa = 0 then .zero sign
        else .finite sign mantissa exponent (Nat.pos_of_ne_zero zero)))) =
      if value.exponent ≤ largestExponent then some value else none := by
  subst sameMantissa sameExponent
  by_cases zero : value.mantissa = 0
  · rw [dif_pos zero, ofFloat?_of_isMagnitude (.zero sign), if_pos (by rw [least zero]; decide)]
    rcases value with ⟨mantissa, exponent⟩
    rw [show mantissa = 0 from zero, show exponent = leastExponent from least zero]
  · rw [dif_neg zero]
    exact ofFloat?_pack_finite canonical sign _

/-- How the magnitude of a rounded double relates to the place of the first binary digit before
rounding: it keeps that place or moves it up by one, as far as the least exponent allows it. Beyond
the largest exponent there is no magnitude. -/
structure IsRounded (place : Int) (x : Float) (value : Binary) : Prop where
  canonical : value.IsCanonical
  upper : value.place ≤ max (place + 1) (-1021)
  lower : -1021 ≤ place → value.mantissa ≠ 0 ∧ place ≤ value.place
  read : ofFloat? x = if value.exponent ≤ largestExponent then some value else none

theorem isRounded_carried {place exponent : Int} {rounded : Nat} {x : Float}
    (least : leastExponent ≤ exponent)
    (forms : 2 ^ 52 ≤ rounded ∧ place = exponent + 53 ∨
      exponent = leastExponent ∧ rounded < 2 ^ 53 ∧ place < -1021)
    (read : ofFloat? x = if (carried rounded exponent).exponent ≤ largestExponent then
      some (carried rounded exponent) else none) :
    IsRounded place x (carried rounded exponent) := by
  rcases forms with ⟨full, rfl⟩ | ⟨isLeast, short, small⟩
  · have upper := @place_carried_le rounded exponent
    have lower := @le_place_carried rounded exponent full
    exact ⟨isCanonical_carried least (.inl full), by omega, fun _ => lower, read⟩
  · have upper := @place_carried_of_short rounded exponent short
    have leastEq : leastExponent = -1074 := rfl
    exact ⟨isCanonical_carried least (.inr isLeast), by omega, by omega, read⟩

theorem exists_isRounded (sign : Sign) {mantissa : Nat} {exponent : Int} (accuracy : Accuracy)
    (enough : exponent ≤ targetExponent mantissa exponent) :
    ∃ value, IsRounded (mantissa.log2 + 1 + exponent) (Float.ofModel (Float.Model.pack
      (roundWithAccuracy Format.binary64 sign mantissa exponent accuracy))) value := by
  have parts := shift_parts mantissa exponent accuracy
  have bounds := shifted_bounds enough
  have target : targetExponent mantissa exponent =
    max (mantissa.log2 + exponent - 52) leastExponent := rfl
  have leastEq : leastExponent = -1074 := rfl
  rw [Int.max_eq_right enough] at parts
  unfold roundWithAccuracy
  generalize shiftToTargetExponent Format.binary64 mantissa exponent accuracy = shifted at *
  rcases shifted with ⟨extended, shiftedExponent⟩
  dsimp only at parts ⊢
  have rounded := roundedMantissa_bounds extended
  rw [parts.1] at rounded
  rw [parts.2]
  generalize mantissa / 2 ^ (targetExponent mantissa exponent - exponent).toNat = shifted at *
  generalize targetExponent mantissa exponent = finalExponent at *
  have least : leastExponent ≤ finalExponent := by omega
  -- Rounding up may carry into a further digit, after which there is a second shift.
  have again := shift_rounded (by omega : extended.roundedMantissa ≤ 2 ^ 53) least
  generalize shiftToTargetExponent Format.binary64 extended.roundedMantissa finalExponent .exact =
    last at again
  have forms : 2 ^ 52 ≤ extended.roundedMantissa ∧
        mantissa.log2 + 1 + exponent = finalExponent + 53 ∨
      finalExponent = leastExponent ∧ extended.roundedMantissa < 2 ^ 53 ∧
        mantissa.log2 + 1 + exponent < -1021 := by
    by_cases normal : leastExponent ≤ mantissa.log2 + exponent - 52
    · exact .inl ⟨Nat.le_trans (bounds.2.1 normal) rounded.1, by omega⟩
    · exact .inr (by omega)
  have canonical : (carried extended.roundedMantissa finalExponent).IsCanonical :=
    isCanonical_carried least (forms.imp And.left And.left)
  refine ⟨_, isRounded_carried least forms
    (ofFloat?_pack_dite canonical (fun zero => ?_) sign again.1 again.2)⟩
  rcases forms with full | isLeast
  · exact absurd zero (le_place_carried full.1).1
  · exact (exponent_carried_of_zero zero).trans isLeast.1

theorem exponent_le_of_place {value : Binary} (canonical : value.IsCanonical)
    (small : value.place ≤ 1024) : value.exponent ≤ largestExponent := by
  have constants : leastExponent = -1074 ∧ largestExponent = 971 := ⟨rfl, rfl⟩
  rcases canonical.full with full | isLeast
  · have log := log2_eq full canonical.short
    unfold place at small
    omega
  · omega

theorem place_le_of_ofFloat? {x : Float} {value : Binary} (read : ofFloat? x = some value) :
    value.place ≤ 1024 := by
  rcases isCanonical_of_ofFloat? read with ⟨canonical, bounded⟩
  have log := log2_le canonical.short
  have largest : largestExponent = 971 := rfl
  unfold place
  omega

theorem mantissa_ne_zero_of_place {value : Binary} (canonical : value.IsCanonical)
    (large : -1021 ≤ value.place) : value.mantissa ≠ 0 := by
  intro zero
  have isLeast : value.exponent = -1074 := canonical.full.resolve_left (by omega)
  have log : Nat.log2 0 = 0 := by decide
  rw [place, zero, log, isLeast] at large
  omega

theorem IsRounded.read_of_place {place : Int} {x : Float} {value : Binary}
    (rounded : IsRounded place x value) (small : place ≤ 1023) : ofFloat? x = some value := by
  have upper := rounded.upper
  rw [rounded.read, if_pos (exponent_le_of_place rounded.canonical (by omega))]

theorem IsRounded.eq_of_read {place : Int} {x : Float} {value read : Binary}
    (rounded : IsRounded place x value) (found : ofFloat? x = some read) : value = read := by
  rw [rounded.read] at found
  split at found
  · exact Option.some.inj found
  · cases found

/-! ## Multiplication -/

theorem log2_mul_le {left right : Nat} (leftPositive : 0 < left) (rightPositive : 0 < right) :
    left.log2 + right.log2 ≤ (left * right).log2 ∧
      (left * right).log2 ≤ left.log2 + right.log2 + 1 := by
  have product : left * right ≠ 0 := Nat.ne_of_gt (Nat.mul_pos leftPositive rightPositive)
  have lower := Nat.mul_le_mul (Nat.log2_self_le (Nat.ne_of_gt leftPositive))
    (Nat.log2_self_le (Nat.ne_of_gt rightPositive))
  have upper := Nat.mul_lt_mul'' (@Nat.lt_log2_self left) (@Nat.lt_log2_self right)
  rw [← Nat.pow_add] at lower upper
  have below := (Nat.log2_lt product).mpr upper
  exact ⟨(Nat.le_log2 product).mpr lower, by omega⟩

theorem log2_mul_two_pow {number : Nat} (positive : 0 < number) (count : Nat) :
    (number * 2 ^ count).log2 = number.log2 + count := by
  have product := Nat.mul_pos positive (Nat.two_pow_pos count)
  have bounds := (Nat.log2_eq_iff (Nat.ne_of_gt positive)).mp rfl
  refine (Nat.log2_eq_iff (Nat.ne_of_gt product)).mpr ⟨?_, ?_⟩
  · rw [Nat.pow_add]
    exact Nat.mul_le_mul_right _ bounds.1
  · rw [Nat.add_right_comm, Nat.pow_add]
    exact Nat.mul_lt_mul_of_pos_right bounds.2 (Nat.two_pow_pos count)

theorem exists_ofFloat?_mul {x y : Float} {left right : Binary}
    (leftRead : ofFloat? x = some left) (rightRead : ofFloat? y = some right)
    (small : left.place + right.place ≤ 1023) :
    ∃ value, ofFloat? (x * y) = some value ∧
      value.place ≤ max (left.place + right.place + 1) (-1021) := by
  have product : x * y = Float.ofModel (Float.Model.pack
    (UnpackedFloat.mul Format.binary64 x.toModel.unpack y.toModel.unpack)) := rfl
  have leftParts := isMagnitude_ofFloat? x
  have rightParts := isMagnitude_ofFloat? y
  rw [leftRead] at leftParts
  rw [rightRead] at rightParts
  rw [product]
  generalize x.toModel.unpack = leftUnpacked at *
  generalize y.toModel.unpack = rightUnpacked at *
  have zero : ∀ sign, ∃ value, ofFloat? (Float.ofModel (Float.Model.pack (.zero sign))) =
      some value ∧ value.place ≤ max (left.place + right.place + 1) (-1021) := by
    intro sign
    have small : (⟨0, leastExponent⟩ : Binary).place ≤ -1021 := by decide
    exact ⟨_, ofFloat?_of_isMagnitude (.zero sign), by omega⟩
  cases leftParts with
  | zero leftSign =>
      cases rightParts with
      | zero rightSign => exact zero _
      | finite rightSign positive canonical bounded => exact zero _
  | finite leftSign leftPositive leftCanonical leftBounded =>
      cases rightParts with
      | zero rightSign => exact zero _
      | finite rightSign rightPositive rightCanonical rightBounded =>
          have logs := log2_mul_le leftPositive rightPositive
          have leastEq : leastExponent = -1074 := rfl
          unfold place at *
          -- The product has all digits of a full factor, or an exponent below the least one.
          have enough : left.exponent + right.exponent ≤
              targetExponent (left.mantissa * right.mantissa) (left.exponent + right.exponent) := by
            unfold targetExponent
            rcases leftCanonical.full with full | isLeast
            · have log := log2_eq full leftCanonical.short
              omega
            · rcases rightCanonical.full with full | isLeast
              · have log := log2_eq full rightCanonical.short
                omega
              · omega
          rcases exists_isRounded (leftSign * rightSign) .exact enough with ⟨value, rounded⟩
          have upper := rounded.upper
          exact ⟨value, rounded.read_of_place (by omega), by unfold place at upper; omega⟩

/-! ## Division -/

theorem log2_div_bounds {above below : Nat} (belowPositive : 0 < below)
    (aboveLarge : below ≤ above) :
    above.log2 ≤ (above / below).log2 + below.log2 + 1 ∧
      (above / below).log2 + below.log2 ≤ above.log2 := by
  have quotient : 0 < above / below := Nat.div_pos aboveLarge belowPositive
  have logs := log2_mul_le quotient belowPositive
  have aboveNe : above ≠ 0 := by omega
  have product : above / below * below ≠ 0 := Nat.ne_of_gt (Nat.mul_pos quotient belowPositive)
  constructor
  · have next : above < (above / below + 1) * below := Nat.lt_mul_of_div_lt (Nat.lt_succ_self _)
      belowPositive
    have upper : (above / below + 1) * below ≤
        2 ^ ((above / below).log2 + 1 + (below.log2 + 1)) := by
      rw [Nat.pow_add]
      exact Nat.mul_le_mul Nat.lt_log2_self (Nat.le_of_lt Nat.lt_log2_self)
    have bound := (Nat.log2_lt aboveNe).mpr (Nat.lt_of_lt_of_le next upper)
    omega
  · have lower := Nat.le_trans (Nat.log2_self_le product) (Nat.div_mul_le_self above below)
    have bound := (Nat.le_log2 aboveNe).mpr lower
    omega

theorem log2_scaled_div_bounds {above below : Nat} (abovePositive : 0 < above)
    (belowPositive : 0 < below) (count : Nat) :
    (below.log2 < above.log2 + count →
        above.log2 + count ≤ (above * 2 ^ count / below).log2 + below.log2 + 1) ∧
      (above * 2 ^ count / below).log2 + below.log2 ≤ max (above.log2 + count) below.log2 := by
  have log := log2_mul_two_pow abovePositive count
  rcases Nat.lt_or_ge (above * 2 ^ count) below with less | large
  · have none : (above * 2 ^ count / below).log2 = 0 := by
      rw [Nat.div_eq_of_lt less, Nat.log2_zero]
    have scaled : above * 2 ^ count ≠ 0 :=
      Nat.ne_of_gt (Nat.mul_pos abovePositive (Nat.two_pow_pos count))
    have shorter := (Nat.log2_lt scaled).mpr (Nat.lt_trans less Nat.lt_log2_self)
    omega
  · have bounds := log2_div_bounds belowPositive large
    omega

def quotientExponent (left right : Binary) : Int :=
  min (left.exponent - right.exponent) (max (left.place - right.place - 53) leastExponent)

theorem divCore_eq (left right : Binary) {count : Nat}
    (shift : (left.exponent - right.exponent - quotientExponent left right).toNat = count) :
    UnpackedFloat.divCore Format.binary64 left.mantissa left.exponent right.mantissa
        right.exponent =
      (left.mantissa * 2 ^ count / right.mantissa, quotientExponent left right,
        UnpackedFloat.accuracyOfFraction (left.mantissa * 2 ^ count % right.mantissa)
          right.mantissa) := by
  have bits : (Format.binary64.mantissaBits : Int) = 53 := rfl
  have least : Format.binary64.minExponent = leastExponent := rfl
  rw [← shift]
  simp only [UnpackedFloat.divCore, Format.targetExponent, totalExponent, bits, least,
    Nat.shiftLeft_eq, quotientExponent, place]

theorem exists_isRounded_div {x y : Float} {left right : Binary}
    (leftRead : ofFloat? x = some left) (rightRead : ofFloat? y = some right)
    (leftFilled : left.mantissa ≠ 0) (rightFilled : right.mantissa ≠ 0) :
    ∃ place value, IsRounded place (x / y) value ∧
      place ≤ max (left.place - right.place + 1) (-1022) ∧
      (-1021 ≤ left.place - right.place → left.place - right.place ≤ place) := by
  have quotient : x / y = Float.ofModel (Float.Model.pack
    (UnpackedFloat.div Format.binary64 x.toModel.unpack y.toModel.unpack)) := rfl
  have leftParts := isMagnitude_ofFloat? x
  have rightParts := isMagnitude_ofFloat? y
  rw [leftRead] at leftParts
  rw [rightRead] at rightParts
  rw [quotient]
  generalize x.toModel.unpack = leftUnpacked at *
  generalize y.toModel.unpack = rightUnpacked at *
  cases leftParts with
  | zero leftSign => exact absurd rfl leftFilled
  | finite leftSign leftPositive leftCanonical leftBounded =>
      cases rightParts with
      | zero rightSign => exact absurd rfl rightFilled
      | finite rightSign rightPositive rightCanonical rightBounded =>
          have parts : UnpackedFloat.div Format.binary64
              (.finite leftSign left.mantissa left.exponent leftPositive)
              (.finite rightSign right.mantissa right.exponent rightPositive) =
            roundWithAccuracy Format.binary64 (leftSign / rightSign)
              (UnpackedFloat.divCore Format.binary64 left.mantissa left.exponent
                right.mantissa right.exponent).1
              (UnpackedFloat.divCore Format.binary64 left.mantissa left.exponent
                right.mantissa right.exponent).2.1
              (UnpackedFloat.divCore Format.binary64 left.mantissa left.exponent
                right.mantissa right.exponent).2.2 := rfl
          have leastEq : leastExponent = -1074 := rfl
          rw [parts, divCore_eq left right rfl]
          dsimp only
          generalize target : quotientExponent left right = exponent
          unfold quotientExponent at target
          unfold place at *
          generalize shift : (left.exponent - right.exponent - exponent).toNat = count
          have bounds := log2_scaled_div_bounds leftPositive rightPositive count
          -- The dividend was scaled for the quotient to have digits enough.
          have enough : exponent ≤ targetExponent
              (left.mantissa * 2 ^ count / right.mantissa) exponent := by
            unfold targetExponent
            omega
          rcases exists_isRounded (leftSign / rightSign)
            (UnpackedFloat.accuracyOfFraction (left.mantissa * 2 ^ count % right.mantissa)
              right.mantissa) enough with ⟨value, rounded⟩
          exact ⟨_, value, rounded, by omega, by omega⟩

/-- A quotient that has a magnitude is zero unless both sides are finite and not zero, and its left
side is finite in any case. -/
theorem div_cases {x y : Float} {quotient : Binary} (read : ofFloat? (x / y) = some quotient) :
    ∃ left, ofFloat? x = some left ∧ (quotient.mantissa = 0 ∨
      left.mantissa ≠ 0 ∧ ∃ right, ofFloat? y = some right ∧ right.mantissa ≠ 0) := by
  have parts : x / y = Float.ofModel (Float.Model.pack
    (UnpackedFloat.div Format.binary64 x.toModel.unpack y.toModel.unpack)) := rfl
  have leftParts := isMagnitude_ofFloat? x
  have rightParts := isMagnitude_ofFloat? y
  rw [parts] at read
  generalize x.toModel.unpack = leftUnpacked at *
  generalize y.toModel.unpack = rightUnpacked at *
  generalize ofFloat? x = left at *
  generalize ofFloat? y = right at *
  have zero : ∀ sign, ofFloat? (Float.ofModel (Float.Model.pack (.zero sign))) = some quotient →
      quotient.mantissa = 0 := by
    intro sign read
    rw [ofFloat?_of_isMagnitude (.zero sign)] at read
    cases read
    rfl
  have none : ∀ {unpacked : UnpackedFloat}, IsMagnitude unpacked none →
      ofFloat? (Float.ofModel (Float.Model.pack unpacked)) ≠ some quotient := by
    intro unpacked magnitude read
    cases (ofFloat?_of_isMagnitude magnitude).symm.trans read
  cases leftParts with
  | notANumber => exact absurd read (none .notANumber)
  | infinity leftSign =>
      cases rightParts with
      | infinity rightSign => exact absurd read (none .notANumber)
      | notANumber => exact absurd read (none .notANumber)
      | zero rightSign => exact absurd read (none (.infinity _))
      | finite rightSign positive canonical bounded => exact absurd read (none (.infinity _))
  | zero leftSign =>
      refine ⟨_, rfl, .inl ?_⟩
      cases rightParts with
      | infinity rightSign => exact zero _ read
      | notANumber => exact absurd read (none .notANumber)
      | zero rightSign => exact absurd read (none .notANumber)
      | finite rightSign positive canonical bounded => exact zero _ read
  | finite leftSign leftPositive leftCanonical leftBounded =>
      refine ⟨_, rfl, ?_⟩
      cases rightParts with
      | infinity rightSign => exact .inl (zero _ read)
      | notANumber => exact absurd read (none .notANumber)
      | zero rightSign => exact absurd read (none (.infinity _))
      | finite rightSign positive canonical bounded =>
          exact .inr ⟨Nat.ne_of_gt leftPositive, _, rfl, Nat.ne_of_gt positive⟩

/-! ## Sizes -/

section Sizes

variable {value : Binary} {width : Nat}

theorem numerator_lt (small : value.place ≤ width) :
    value.numerator < 2 ^ width * value.denominator := by
  unfold place at small
  rw [numerator, denominator, ← Nat.pow_add]
  calc
    value.mantissa * 2 ^ value.exponent.toNat <
        2 ^ (value.mantissa.log2 + 1) * 2 ^ value.exponent.toNat :=
      Nat.mul_lt_mul_of_pos_right Nat.lt_log2_self (Nat.two_pow_pos _)
    _ ≤ 2 ^ (width + (-value.exponent).toNat) := by
      rw [← Nat.pow_add]
      exact Nat.pow_le_pow_right (by decide) (by omega)

theorem le_numerator (filled : value.mantissa ≠ 0) (large : (width : Int) < value.place) :
    2 ^ width * value.denominator ≤ value.numerator := by
  unfold place at large
  rw [numerator, denominator, ← Nat.pow_add]
  calc
    2 ^ (width + (-value.exponent).toNat) ≤
        2 ^ value.mantissa.log2 * 2 ^ value.exponent.toNat := by
      rw [← Nat.pow_add]
      exact Nat.pow_le_pow_right (by decide) (by omega)
    _ ≤ value.mantissa * 2 ^ value.exponent.toNat :=
      Nat.mul_le_mul_right _ (Nat.log2_self_le filled)

theorem denominator_pos (value : Binary) : 0 < value.denominator :=
  Nat.two_pow_pos _

theorem floor_le_ceil (value : Binary) : value.floor ≤ value.ceil :=
  Nat.div_le_div_right (by have := value.denominator_pos; omega)

theorem ceil_of_zero (zero : value.mantissa = 0) : value.ceil = 0 := by
  have positive := value.denominator_pos
  rw [ceil, numerator, zero, Nat.zero_mul, Nat.zero_add]
  exact Nat.div_eq_of_lt (by omega)

theorem ceil_le (small : value.place ≤ width) : value.ceil ≤ 2 ^ width := by
  have bound := numerator_lt small
  have positive := value.denominator_pos
  rw [ceil, ← Nat.lt_succ_iff, Nat.div_lt_iff_lt_mul positive, Nat.succ_mul]
  omega

theorem le_floor (filled : value.mantissa ≠ 0) (large : (width : Int) < value.place) :
    2 ^ width ≤ value.floor :=
  (Nat.le_div_iff_mul_le value.denominator_pos).mpr (le_numerator filled large)

theorem IsCanonical.two_pow_le {number : Nat} (canonical : value.IsCanonical)
    (positive : 0 < number) (below : value.floor ≤ number) :
    2 ^ (value.place - 1).toNat ≤ number := by
  by_cases tiny : value.place ≤ 1
  · have none : (value.place - 1).toNat = 0 := by omega
    rw [none]
    exact positive
  · have filled := mantissa_ne_zero_of_place canonical (by omega)
    exact Nat.le_trans (le_floor filled (by omega)) below

end Sizes

end Binary

end SymbolScript.Decimal
