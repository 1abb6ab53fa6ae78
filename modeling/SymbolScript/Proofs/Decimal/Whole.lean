import SymbolScript.Proofs.Decimal.Packing
import SymbolScript.Proofs.Decimal.Parts
import SymbolScript.Proofs.Number

/-!
Whole numbers as doubles. If magnitudes may be of any size, every positive fraction is in the
interval of one, and a double takes it up to a bound on the size. So a whole number below this bound
is rounded to a whole double, to the one that it is if there is one, and any other to infinity.
-/

namespace SymbolScript.Decimal

/-! ## Every fraction rounds to a magnitude -/

theorem isInside_roundHalfEven {denominator : Nat} (numerator : Nat) (positive : 0 < denominator) :
    IsInside (roundHalfEven numerator denominator % 2 == 0)
      ((2 * roundHalfEven numerator denominator - 1) * denominator)
      ((2 * roundHalfEven numerator denominator + 1) * denominator) (2 * numerator) := by
  have near := roundHalfEven_near numerator positive
  rw [Nat.sub_mul, Nat.add_mul, Nat.one_mul, Nat.mul_assoc, IsInside]
  split
  · omega
  · next odd =>
    -- A half goes to the even neighbour.
    have noHalf : 2 * (numerator % denominator) ≠ denominator := by
      intro half
      refine odd ?_
      rw [roundHalfEven, if_neg (by omega), if_neg (by omega), beq_iff_eq]
      omega
    have filled : denominator ≤ roundHalfEven numerator denominator * denominator :=
      Nat.le_mul_of_pos_left _ (Nat.pos_of_ne_zero fun zero => odd (by rw [zero]; rfl))
    have parts := Nat.div_add_mod' numerator denominator
    have small := Nat.mod_lt numerator positive
    have next := Nat.add_one_mul (numerator / denominator) denominator
    clear odd
    unfold roundHalfEven at filled ⊢
    dsimp only at filled ⊢
    split_ifs at filled ⊢ <;> omega

namespace Binary

section Existence

variable {numerator denominator : Nat}

theorem rounds_of_even {value : Binary} (even : value.mantissa % 2 = 0)
    (lower : (4 * value.mantissa - value.lowerGap) * (denominator * 2 ^ value.exponent.toNat) ≤
      4 * (numerator * 2 ^ (-value.exponent).toNat))
    (upper : 4 * (numerator * 2 ^ (-value.exponent).toNat) ≤
      (4 * value.mantissa + 2) * (denominator * 2 ^ value.exponent.toNat)) :
    value.Rounds numerator denominator := by
  rw [Rounds, even]
  exact ⟨lower, upper⟩

theorem rounds_of_carry {exponent : Int}
    (near : (2 * 2 ^ 53 - 1) * (denominator * 2 ^ exponent.toNat) ≤
      2 * (numerator * 2 ^ (-exponent).toNat))
    (small : numerator * 2 ^ (-exponent).toNat < denominator * 2 ^ (exponent.toNat + 53))
    (below : 0 < denominator) :
    (⟨2 ^ 52, exponent + 1⟩ : Binary).Rounds numerator denominator := by
  have unit : 0 < denominator * 2 ^ exponent.toNat := Nat.mul_pos below (Nat.two_pow_pos _)
  have gap := (⟨2 ^ 52, exponent + 1⟩ : Binary).lowerGap_cases
  have double := pow_toNat_mul 2 (show exponent + (1 : Nat) = exponent + 1 from rfl)
  -- Twice the fraction in the smaller unit is four times the fraction in the larger one.
  have scaled : 2 * (numerator * 2 ^ (-exponent).toNat) * (denominator * 2 ^ (exponent + 1).toNat) =
      4 * (numerator * 2 ^ (-(exponent + 1)).toNat) * (denominator * 2 ^ exponent.toNat) :=
    calc
      _ = 2 * numerator * denominator *
          (2 ^ (exponent + 1).toNat * 2 ^ (-exponent).toNat) := by ac_rfl
      _ = _ := by rw [double]; grind
  refine rounds_of_even (show 2 ^ 52 % 2 = 0 from rfl) ?_ ?_
  · refine Nat.le_of_mul_le_mul_right (c := denominator * 2 ^ exponent.toNat) ?_ unit
    rw [← scaled, Nat.mul_right_comm]
    refine Nat.mul_le_mul_right _ (Nat.le_trans (Nat.mul_le_mul_right _ ?_) near)
    dsimp only
    omega
  · refine Nat.le_of_mul_le_mul_right (c := denominator * 2 ^ exponent.toNat) ?_ unit
    rw [← scaled, Nat.mul_right_comm (4 * 2 ^ 52 + 2)]
    refine Nat.mul_le_mul_right _ ?_
    rw [Nat.pow_add, ← Nat.mul_assoc] at small
    omega

theorem exists_rounds (above : 0 < numerator) (below : 0 < denominator) :
    ∃ value : Binary, value.IsCanonical ∧ value.Rounds numerator denominator := by
  generalize chosen : binaryExponent numerator denominator = exponent
  rcases binaryExponent_cases above below chosen with ⟨least, short, forms⟩
  have unit : 0 < denominator * 2 ^ exponent.toNat := Nat.mul_pos below (Nat.two_pow_pos _)
  have small := (scaledFloor_lt_iff below).mp short
  have bounds := roundHalfEven_bounds (numerator * 2 ^ (-exponent).toNat)
    (denominator * 2 ^ exponent.toNat)
  have inside := isInside_roundHalfEven (numerator * 2 ^ (-exponent).toNat) unit
  change scaledFloor numerator denominator exponent ≤ _ ∧
    _ ≤ scaledFloor numerator denominator exponent + 1 at bounds
  have filled : exponent ≠ leastExponent → 2 ^ 52 * (denominator * 2 ^ exponent.toNat) ≤
      numerator * 2 ^ (-exponent).toNat := fun larger =>
    (Nat.le_div_iff_mul_le unit).mp (forms.resolve_right fun is => larger is.1).1
  generalize roundHalfEven (numerator * 2 ^ (-exponent).toNat)
    (denominator * 2 ^ exponent.toNat) = mantissa at bounds inside
  refine ⟨carried mantissa exponent, isCanonical_carried least (by omega), ?_⟩
  unfold carried
  split
  · rcases (⟨mantissa, exponent⟩ : Binary).lowerGap_cases with ⟨gap, power, larger⟩ | ⟨gap, _⟩
    -- Below a power of two the interval is half as wide, but the fraction is not below it.
    · dsimp only at power larger
      have atLeast := filled (Int.ne_of_gt larger)
      have bound := (IsInside.le inside).2
      rw [power] at gap bound ⊢
      refine rounds_of_even (show 2 ^ 52 % 2 = 0 from rfl) ?_ ?_
      · rw [gap, Nat.sub_mul]
        dsimp only
        omega
      · dsimp only
        omega
    · have doubled := (IsInside.mul_iff 2 (by decide)).mpr inside
      rw [Rounds, gap]
      dsimp only
      refine (show 4 * (numerator * 2 ^ (-exponent).toNat) =
        2 * (numerator * 2 ^ (-exponent).toNat) * 2 by omega) ▸ doubled.widen ?_ ?_
      · rw [Nat.mul_right_comm]
        exact Nat.mul_le_mul_right _ (by omega)
      · rw [Nat.mul_right_comm]
        exact Nat.mul_le_mul_right _ (by omega)
  · next long =>
    have power : mantissa = 2 ^ 53 := by omega
    rw [power] at inside
    exact rounds_of_carry (IsInside.le inside).1 small below

end Existence

/-! ## Whole numbers -/

/-- The least whole number that is rounded to infinity: half a step of the largest doubles below
two to the power of 1024. -/
def overflow : Nat :=
  2 ^ 1024 - 2 ^ 970

theorem overflow_eq : overflow = (2 ^ 54 - 1) * 2 ^ 970 := by
  decide +kernel

theorem overflow_pos : 0 < overflow := by
  decide +kernel

section Whole

variable {value : Binary} {number : Nat}

theorem Rounds.mantissa_pos (canonical : value.IsCanonical) (positive : 0 < number)
    (rounds : value.Rounds number 1) : 0 < value.mantissa := by
  refine Nat.pos_of_ne_zero fun zero => ?_
  have constants : leastExponent = -1074 ∧ largestExponent = 971 := ⟨rfl, rfl⟩
  have tiny := canonical.full.resolve_left (by omega)
  have upper := (IsInside.le rounds).2
  have noScale : value.exponent.toNat = 0 := by omega
  have scale : 2 ^ 1 ≤ 2 ^ (-value.exponent).toNat := Nat.pow_le_pow_right (by decide) (by omega)
  have enlarged := Nat.le_mul_of_pos_left (2 ^ (-value.exponent).toNat) positive
  rw [zero, noScale] at upper
  omega

theorem Rounds.exponent_le_iff (canonical : value.IsCanonical) (rounds : value.Rounds number 1) :
    value.exponent ≤ largestExponent ↔ number < overflow := by
  have short := canonical.short
  have gap := value.lowerGap_cases
  have scale : number ≤ number * 2 ^ (-value.exponent).toNat :=
    Nat.le_mul_of_pos_right _ (Nat.two_pow_pos _)
  obtain ⟨top, isTop⟩ : ∃ top, top = 970 := ⟨_, rfl⟩
  have constants : leastExponent = -1074 ∧ largestExponent = top + 1 := ⟨rfl, by rw [isTop]; rfl⟩
  rw [overflow_eq, ← isTop]
  constructor
  · intro bounded
    rcases Int.lt_or_eq_of_le bounded with less | equal
    · have below := rounds.lt canonical Nat.one_pos
      have power : 2 ^ (value.exponent.toNat + 53) ≤ 2 ^ (53 + top) :=
        Nat.pow_le_pow_right (by decide) (by omega)
      rw [Nat.pow_add 2 53 top] at power
      omega
    · have largest : value.exponent.toNat = top + 1 := by omega
      have noScale : (-value.exponent).toNat = 0 := by omega
      rw [Rounds, largest, noScale, Nat.pow_zero, Nat.mul_one, Nat.one_mul, Nat.pow_succ] at rounds
      by_cases last : value.mantissa = 2 ^ 53 - 1
      -- The largest mantissa is odd, so the end of its interval is rounded up.
      · rw [last] at rounds
        have strict := rounds.2
        omega
      · have product : (4 * value.mantissa + 2) * (2 ^ top * 2) ≤ (2 ^ 55 - 6) * (2 ^ top * 2) :=
          Nat.mul_le_mul_right _ (by omega)
        have upper := (IsInside.le rounds).2
        have unit := Nat.two_pow_pos top
        omega
  · intro small
    refine Int.not_lt.mp fun large => ?_
    have bounds := IsInside.le rounds
    have full := canonical.full.resolve_right (by omega)
    have noScale : (-value.exponent).toNat = 0 := by omega
    have atLeast : 2 ^ (top + 2) ≤ 2 ^ value.exponent.toNat :=
      Nat.pow_le_pow_right (by decide) (by omega)
    have product : (2 ^ 54 - 1) * 2 ^ (top + 2) ≤
        (4 * value.mantissa - value.lowerGap) * 2 ^ value.exponent.toNat :=
      Nat.mul_le_mul (by omega) atLeast
    rw [noScale, Nat.pow_zero, Nat.mul_one, Nat.one_mul] at bounds
    rw [Nat.pow_add] at product
    omega

theorem rounds_of_isWhole (whole : value.isWhole = true) (positive : 0 < value.mantissa) :
    value.Rounds value.floor 1 := by
  rw [isWhole, beq_iff_eq, numerator, denominator] at whole
  have exact : value.floor * 2 ^ (-value.exponent).toNat =
      value.mantissa * 2 ^ value.exponent.toNat :=
    Nat.div_mul_cancel (Nat.dvd_of_mod_eq_zero whole)
  have gap := value.lowerGap_cases
  have unit := Nat.two_pow_pos value.exponent.toNat
  rw [Rounds, exact, Nat.one_mul, ← Nat.mul_assoc]
  exact .of_lt (Nat.mul_lt_mul_of_pos_right (by omega) unit)
    (Nat.mul_lt_mul_of_pos_right (by omega) unit)

theorem floor_of_zero (zero : value.mantissa = 0) : value.floor = 0 := by
  rw [floor, numerator, zero, Nat.zero_mul, Nat.zero_div]

theorem floor_pos (whole : value.isWhole = true) (positive : 0 < value.mantissa) :
    0 < value.floor := by
  refine Nat.pos_of_ne_zero fun zero => ?_
  have rounds := rounds_of_isWhole whole positive
  rw [zero] at rounds
  exact absurd (rounds.numerator_pos positive Nat.one_pos) (Nat.lt_irrefl 0)

end Whole

end Binary

/-! ## Reading whole numbers -/

open Binary

def signed (negative : Bool) (number : Nat) : Int :=
  if negative then -(number : Int) else number

theorem natAbs_signed (negative : Bool) (number : Nat) : (signed negative number).natAbs = number := by
  cases negative with
  | true => exact Int.natAbs_neg _
  | false => rfl

theorem eq_false_of_natural {negative : Bool} {number : Nat} (positive : 0 < number)
    (natural : 0 ≤ signed negative number) : negative = false := by
  cases negative with
  | true =>
      rw [signed, if_pos rfl] at natural
      omega
  | false => rfl

theorem wholeOf?_of_ofFloat? {x : Float} {value : Binary} (read : ofFloat? x = some value)
    (whole : value.isWhole = true) :
    wholeOf? x = some (signed (isNegative x) value.floor) := by
  rw [wholeOf?, read]
  exact if_pos whole

theorem exists_of_wholeOf? {x : Float} {number : Int} (whole : wholeOf? x = some number) :
    ∃ value, ofFloat? x = some value ∧ value.isWhole = true ∧
      number = signed (isNegative x) value.floor := by
  unfold wholeOf? at whole
  split at whole
  · cases whole
  · next value read =>
    split at whole
    · next isWhole => exact ⟨value, read, isWhole, (Option.some.inj whole).symm⟩
    · cases whole

theorem nearestScaled_true (digits : Nat) (exponent : Int) :
    nearestScaled true digits exponent = -nearestScaled false digits exponent := by
  simp only [nearestScaled, nearest, if_true, Bool.false_eq_true, if_false]
  split_ifs <;> rfl

section Nearest

variable {number : Nat}

theorem nearestScaled_of_pos (positive : 0 < number) :
    nearestScaled false number 0 =
      if 310 < ((ofNat number).length : Int) + 0 then infinity else nearestMagnitude number 1 := by
  have same : nearest false (number * 10 ^ (0 : Int).toNat) (10 ^ (-(0 : Int)).toNat) =
      nearestMagnitude number 1 := by
    simp [nearest]
  rw [nearestScaled, if_neg (by omega), same]
  simp only [Bool.false_eq_true, if_false]

theorem nearestScaled_of_overflow (large : overflow ≤ number) :
    nearestScaled false number 0 = infinity := by
  have positive : 0 < number := Nat.lt_of_lt_of_le overflow_pos large
  rcases exists_rounds positive Nat.one_pos with ⟨value, canonical, rounds⟩
  have beyond := Int.not_le.mp (mt (rounds.exponent_le_iff canonical).mp (Nat.not_lt.mpr large))
  rw [nearestScaled_of_pos positive, nearestMagnitude_of_large canonical beyond
    (rounds.mantissa_pos canonical positive) Nat.one_pos rounds, ite_self]

theorem wholeOf?_nearestScaled_of_rounds {value : Binary} (canonical : value.IsCanonical)
    (bounded : value.exponent ≤ largestExponent) (positive : 0 < value.mantissa)
    (rounds : value.Rounds number 1) (negative : Bool) :
    wholeOf? (nearestScaled negative number 0) = some (signed negative value.floor) := by
  have magnitude : nearestScaled false number 0 = Float.ofBits (UInt64.ofNat value.bits) :=
    nearestScaled_of_rounds canonical bounded positive (by simpa using rounds)
  have read := ofFloat?_ofBits_bits canonical bounded positive
  have unsigned := isNegative_ofBits_bits canonical bounded positive
  have whole := isWhole_of_rounds rounds
  cases negative with
  | false => rw [magnitude, wholeOf?_of_ofFloat? read whole, unsigned]
  | true =>
      have negated := (ofFloat?_neg _).trans read
      rw [nearestScaled_true, magnitude, wholeOf?_of_ofFloat? negated whole,
        isNegative_neg read positive, unsigned]
      rfl

theorem wholeOf?_nearestScaled_zero (negative : Bool) :
    wholeOf? (nearestScaled negative 0 0) = some (signed negative 0) := by
  have read : ofFloat? (nearestScaled negative 0 0) = some ⟨0, leastExponent⟩ := by
    rw [nearestScaled, if_pos (.inl rfl), ofFloat?_nearest, nearestMagnitude, if_pos rfl,
      ofFloat?_ofBits]
    rfl
  rw [wholeOf?_of_ofFloat? read (isWhole_of_zero rfl), floor_of_zero rfl]
  cases negative <;> cases isNegative _ <;> rfl

theorem exists_wholeOf?_nearestScaled (small : number < overflow) (negative : Bool) :
    ∃ near : Nat, wholeOf? (nearestScaled negative number 0) = some (signed negative near) := by
  rcases Nat.eq_zero_or_pos number with rfl | positive
  · exact ⟨0, wholeOf?_nearestScaled_zero negative⟩
  · rcases exists_rounds positive Nat.one_pos with ⟨value, canonical, rounds⟩
    exact ⟨_, wholeOf?_nearestScaled_of_rounds canonical
      ((rounds.exponent_le_iff canonical).mpr small) (rounds.mantissa_pos canonical positive)
      rounds negative⟩

theorem wholeOf?_nearestScaled {x : Float} {negative : Bool}
    (whole : wholeOf? x = some (signed negative number)) :
    wholeOf? (nearestScaled negative number 0) = some (signed negative number) := by
  rcases exists_of_wholeOf? whole with ⟨value, read, isWhole, equal⟩
  have same := congrArg Int.natAbs equal
  rw [natAbs_signed, natAbs_signed] at same
  rcases isCanonical_of_ofFloat? read with ⟨canonical, bounded⟩
  rcases Nat.eq_zero_or_pos value.mantissa with zero | positive
  · rw [floor_of_zero zero] at same
    rw [same]
    exact wholeOf?_nearestScaled_zero negative
  · have rounds := rounds_of_isWhole isWhole positive
    rw [← same] at rounds
    rw [wholeOf?_nearestScaled_of_rounds canonical bounded positive rounds negative, same]

end Nearest

end SymbolScript.Decimal
