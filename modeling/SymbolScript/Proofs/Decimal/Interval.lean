import SymbolScript.Decimal.Shortest
import SymbolScript.Proofs.Decimal.Nearest

/-!
The interval of fractions around a double that round to it. A fraction inside the interval has the
double as its nearest one, whichever binary exponent the fraction itself has.
-/

namespace SymbolScript.Decimal

/-! ## Intervals -/

def IsInside (closed : Bool) (lower upper point : Nat) : Prop :=
  if closed then lower ≤ point ∧ point ≤ upper else lower < point ∧ point < upper

instance (closed : Bool) (lower upper point : Nat) :
    Decidable (IsInside closed lower upper point) :=
  inferInstanceAs (Decidable (if closed then _ else _))

namespace IsInside

variable {closed : Bool} {lower upper point : Nat}

theorem of_lt (above : lower < point) (below : point < upper) :
    IsInside closed lower upper point := by
  cases closed with
  | true => exact ⟨Nat.le_of_lt above, Nat.le_of_lt below⟩
  | false => exact ⟨above, below⟩

theorem le (inside : IsInside closed lower upper point) : lower ≤ point ∧ point ≤ upper := by
  cases closed with
  | true => exact inside
  | false => exact ⟨Nat.le_of_lt inside.1, Nat.le_of_lt inside.2⟩

theorem widen (inside : IsInside closed lower upper point) {lowest highest : Nat}
    (below : lowest ≤ lower) (above : upper ≤ highest) :
    IsInside closed lowest highest point := by
  cases closed with
  | true => exact ⟨Nat.le_trans below inside.1, Nat.le_trans inside.2 above⟩
  | false => exact ⟨Nat.lt_of_le_of_lt below inside.1, Nat.lt_of_lt_of_le inside.2 above⟩

theorem mul_iff (unit : Nat) (positive : 0 < unit) :
    IsInside closed (lower * unit) (upper * unit) (point * unit) ↔
      IsInside closed lower upper point := by
  cases closed with
  | true =>
      exact and_congr (Nat.mul_le_mul_right_iff positive) (Nat.mul_le_mul_right_iff positive)
  | false =>
      exact and_congr (Nat.mul_lt_mul_right positive) (Nat.mul_lt_mul_right positive)

end IsInside

/-! ## Rounding -/

section RoundHalfEven

variable {numerator denominator : Nat}

theorem roundHalfEven_near (numerator : Nat) (positive : 0 < denominator) :
    2 * (roundHalfEven numerator denominator * denominator) ≤ 2 * numerator + denominator ∧
      2 * numerator ≤ 2 * (roundHalfEven numerator denominator * denominator) + denominator := by
  have parts := Nat.div_add_mod' numerator denominator
  have small := Nat.mod_lt numerator positive
  have next := Nat.add_one_mul (numerator / denominator) denominator
  unfold roundHalfEven
  dsimp only
  split
  · omega
  · split
    · omega
    · have carry : numerator / denominator % 2 = 0 ∨ numerator / denominator % 2 = 1 := by omega
      rcases carry with even | odd
      · rw [even, Nat.add_zero]
        omega
      · rw [odd]
        omega

theorem roundHalfEven_of_inside (positive : 0 < denominator) {rounded : Nat}
    (inside : IsInside (rounded % 2 == 0) ((2 * rounded - 1) * denominator)
      ((2 * rounded + 1) * denominator) (2 * numerator)) :
    roundHalfEven numerator denominator = rounded := by
  have parts := Nat.div_add_mod' numerator denominator
  have small := Nat.mod_lt numerator positive
  have bounds := inside.le
  rw [Nat.sub_mul, Nat.add_mul, Nat.one_mul, Nat.mul_assoc] at bounds
  have atLeast : numerator / denominator ≤ rounded := by
    refine Nat.le_of_lt_succ (Nat.lt_of_mul_lt_mul_right (a := denominator) ?_)
    rw [Nat.succ_mul]
    omega
  have atMost : rounded ≤ numerator / denominator + 1 := by
    refine Nat.le_of_lt_succ (Nat.lt_of_mul_lt_mul_right (a := denominator) ?_)
    rw [Nat.succ_mul, Nat.succ_mul]
    omega
  have next := Nat.add_one_mul (numerator / denominator) denominator
  have strict : rounded % 2 = 1 → 2 * (rounded * denominator) < 2 * numerator + denominator ∧
      2 * numerator < 2 * (rounded * denominator) + denominator := by
    intro odd
    rw [odd] at inside
    have ends : (2 * rounded - 1) * denominator < 2 * numerator ∧
      2 * numerator < (2 * rounded + 1) * denominator := inside
    rw [Nat.sub_mul, Nat.add_mul, Nat.one_mul, Nat.mul_assoc] at ends
    omega
  unfold roundHalfEven
  dsimp only
  -- Only the floor and the number above it are near enough.
  rcases (show rounded = numerator / denominator ∨ rounded = numerator / denominator + 1 by omega)
    with rfl | rfl
  · split
    · rfl
    · rw [if_neg (by omega)]
      omega
  · rw [if_neg (by omega)]
    split
    · rfl
    · omega

end RoundHalfEven

namespace Binary

/-! ## Powers of signed exponents -/

theorem pow_toNat_mul (base : Nat) {low high : Int} {gap : Nat} (apart : low + gap = high) :
    base ^ high.toNat * base ^ (-low).toNat =
      base ^ gap * (base ^ low.toNat * base ^ (-high).toNat) := by
  rw [← Nat.pow_add, ← Nat.pow_add, ← Nat.pow_add]
  congr 1
  omega

section Rounds

variable {value : Binary} {numerator denominator : Nat}

/-- How far the interval that rounds to a magnitude reaches below it, in fourth parts of its last
binary place: half as far below a power of two, where the doubles stand closer together. -/
def lowerGap (value : Binary) : Nat :=
  if value.mantissa = 2 ^ 52 ∧ leastExponent < value.exponent then 1 else 2

/-- Whether a fraction is in the interval that rounds to a magnitude. Both are counted in fourth
parts of the last binary place of the magnitude, and the ends round to it if its mantissa is even. -/
def Rounds (value : Binary) (numerator denominator : Nat) : Prop :=
  IsInside (value.mantissa % 2 == 0)
    ((4 * value.mantissa - value.lowerGap) * (denominator * 2 ^ value.exponent.toNat))
    ((4 * value.mantissa + 2) * (denominator * 2 ^ value.exponent.toNat))
    (4 * (numerator * 2 ^ (-value.exponent).toNat))

theorem lowerGap_cases (value : Binary) :
    value.lowerGap = 1 ∧ value.mantissa = 2 ^ 52 ∧ leastExponent < value.exponent ∨
      value.lowerGap = 2 ∧ (value.mantissa = 2 ^ 52 → value.exponent ≤ leastExponent) := by
  unfold lowerGap
  split
  · next both => exact .inl ⟨rfl, both⟩
  · next either => exact .inr ⟨rfl, fun least => Int.not_lt.mp fun less => either ⟨least, less⟩⟩

theorem roundingInterval_eq (value : Binary) :
    value.roundingInterval =
      (4 * value.mantissa, 4 * value.mantissa - value.lowerGap, 4 * value.mantissa + 2) :=
  rfl

theorem Rounds.of_eq {otherNumerator otherDenominator : Nat} (positive : 0 < denominator)
    (otherPositive : 0 < otherDenominator)
    (equal : numerator * otherDenominator = otherNumerator * denominator)
    (rounds : value.Rounds numerator denominator) :
    value.Rounds otherNumerator otherDenominator := by
  have scaled := (IsInside.mul_iff _ otherPositive).mpr rounds
  refine (IsInside.mul_iff _ positive).mp ?_
  have ends : ∀ mark, mark * (denominator * 2 ^ value.exponent.toNat) * otherDenominator =
      mark * (otherDenominator * 2 ^ value.exponent.toNat) * denominator :=
    fun mark => by ac_rfl
  have middle : 4 * (numerator * 2 ^ (-value.exponent).toNat) * otherDenominator =
      4 * (otherNumerator * 2 ^ (-value.exponent).toNat) * denominator :=
    calc
      _ = 4 * (numerator * otherDenominator) * 2 ^ (-value.exponent).toNat := by ac_rfl
      _ = 4 * (otherNumerator * denominator) * 2 ^ (-value.exponent).toNat := by rw [equal]
      _ = _ := by ac_rfl
  rwa [ends, ends, middle] at scaled

theorem lt_of_coarser {exponent coarser : Int} {width : Nat} (narrower : Nat)
    (small : numerator * 2 ^ (-exponent).toNat < denominator * 2 ^ (exponent.toNat + width))
    (coarse : exponent ≤ coarser) (reach : exponent + width ≤ coarser + narrower) :
    numerator * 2 ^ (-coarser).toNat < denominator * 2 ^ (coarser.toNat + narrower) := by
  have split : (-exponent).toNat = (-coarser).toNat + ((-exponent).toNat - (-coarser).toNat) := by
    omega
  refine Nat.lt_of_mul_lt_mul_right (a := 2 ^ ((-exponent).toNat - (-coarser).toNat)) ?_
  calc
    _ = numerator * 2 ^ (-exponent).toNat := by rw [Nat.mul_assoc, ← Nat.pow_add, ← split]
    _ < denominator * 2 ^ (exponent.toNat + width) := small
    _ ≤ denominator * 2 ^ (coarser.toNat + narrower + ((-exponent).toNat - (-coarser).toNat)) :=
      Nat.mul_le_mul_left _ (Nat.pow_le_pow_right (by decide) (by omega))
    _ = _ := by rw [Nat.pow_add, Nat.mul_assoc]

theorem Rounds.lt (canonical : value.IsCanonical) (positive : 0 < denominator)
    (rounds : value.Rounds numerator denominator) :
    numerator * 2 ^ (-value.exponent).toNat < denominator * 2 ^ (value.exponent.toNat + 53) := by
  have short := canonical.short
  have unit : 0 < denominator * 2 ^ value.exponent.toNat :=
    Nat.mul_pos positive (Nat.two_pow_pos _)
  refine Nat.lt_of_mul_lt_mul_left (a := 4) ?_
  calc
    _ ≤ (4 * value.mantissa + 2) * (denominator * 2 ^ value.exponent.toNat) :=
      (IsInside.le rounds).2
    _ < 4 * 2 ^ 53 * (denominator * 2 ^ value.exponent.toNat) :=
      Nat.mul_lt_mul_of_pos_right (by omega) unit
    _ = _ := by rw [Nat.pow_add]; ac_rfl

theorem Rounds.mantissa_lt (rounds : value.Rounds numerator denominator) {width : Nat}
    (small : numerator * 2 ^ (-value.exponent).toNat <
      denominator * 2 ^ (value.exponent.toNat + width)) :
    4 * value.mantissa - value.lowerGap < 4 * 2 ^ width := by
  refine Nat.lt_of_mul_lt_mul_right (a := denominator * 2 ^ value.exponent.toNat) ?_
  calc
    _ ≤ 4 * (numerator * 2 ^ (-value.exponent).toNat) := (IsInside.le rounds).1
    _ < 4 * (denominator * 2 ^ (value.exponent.toNat + width)) :=
      Nat.mul_lt_mul_of_pos_left small (by decide)
    _ = _ := by rw [Nat.pow_add]; ac_rfl

theorem Rounds.binaryExponent_cases (canonical : value.IsCanonical) (above : 0 < numerator)
    (below : 0 < denominator) (rounds : value.Rounds numerator denominator) :
    binaryExponent numerator denominator = value.exponent ∨
      binaryExponent numerator denominator = value.exponent - 1 ∧ value.mantissa = 2 ^ 52 ∧
        leastExponent < value.exponent := by
  generalize chosen : binaryExponent numerator denominator = exponent
  rcases Binary.binaryExponent_cases above below chosen with ⟨least, short, forms⟩
  have valueLeast := canonical.least
  rcases Int.lt_trichotomy exponent value.exponent with finer | same | coarser
  -- A finer unit has room for fifty-three digits only below the least mantissa that fills them,
  -- and two steps finer it has none.
  · have small := (scaledFloor_lt_iff below).mp short
    have full := canonical.full.resolve_right (by omega)
    have gap := value.lowerGap_cases
    have mantissa := rounds.mantissa_lt
      (lt_of_coarser 52 small (Int.le_of_lt finer) (by omega))
    have next : value.exponent - 1 ≤ exponent := by
      refine Int.not_lt.mp fun further => ?_
      have smaller := rounds.mantissa_lt
        (lt_of_coarser 51 small (Int.le_of_lt finer) (by omega))
      omega
    exact .inr ⟨by omega, by omega, by omega⟩
  · exact .inl same
  -- A coarser unit leaves fewer than fifty-three digits, though it is not the least one.
  · have small := lt_of_coarser 52 (rounds.lt canonical below)
      (Int.le_of_lt coarser) (by omega)
    have tiny := (scaledFloor_lt_iff below).mpr small
    omega

theorem Rounds.roundHalfEven_eq (below : 0 < denominator)
    (rounds : value.Rounds numerator denominator) :
    roundHalfEven (numerator * 2 ^ (-value.exponent).toNat)
      (denominator * 2 ^ value.exponent.toNat) = value.mantissa := by
  have unit : 0 < denominator * 2 ^ value.exponent.toNat :=
    Nat.mul_pos below (Nat.two_pow_pos _)
  have gap := value.lowerGap_cases
  have halved : 4 * (numerator * 2 ^ (-value.exponent).toNat) =
      2 * (numerator * 2 ^ (-value.exponent).toNat) * 2 := by omega
  rw [Rounds, halved] at rounds
  refine roundHalfEven_of_inside unit ((IsInside.mul_iff 2 (by decide)).mp ?_)
  refine rounds.widen ?_ ?_
  · rw [Nat.mul_right_comm]
    exact Nat.mul_le_mul_right _ (by omega)
  · rw [Nat.mul_right_comm]
    exact Nat.mul_le_mul_right _ (by omega)

theorem Rounds.roundHalfEven_below (below : 0 < denominator)
    (rounds : value.Rounds numerator denominator) (power : value.mantissa = 2 ^ 52)
    (above : leastExponent < value.exponent)
    (small : numerator * 2 ^ (-(value.exponent - 1)).toNat <
      denominator * 2 ^ ((value.exponent - 1).toNat + 53)) :
    roundHalfEven (numerator * 2 ^ (-(value.exponent - 1)).toNat)
      (denominator * 2 ^ (value.exponent - 1).toNat) = 2 ^ 53 := by
  have unit : 0 < denominator * 2 ^ value.exponent.toNat :=
    Nat.mul_pos below (Nat.two_pow_pos _)
  have gap := value.lowerGap_cases
  have double := pow_toNat_mul 2 (show value.exponent - 1 + (1 : Nat) = value.exponent by omega)
  -- One fourth below the power of two is one half in the unit of half the size, and a half goes to
  -- the even neighbour.
  have lower : (2 * 2 ^ 53 - 1) * (denominator * 2 ^ (value.exponent - 1).toNat) ≤
      2 * (numerator * 2 ^ (-(value.exponent - 1)).toNat) := by
    refine Nat.le_of_mul_le_mul_right (c := denominator * 2 ^ value.exponent.toNat) ?_ unit
    calc
      _ = (4 * value.mantissa - value.lowerGap) * (denominator * 2 ^ value.exponent.toNat) *
          (denominator * 2 ^ (value.exponent - 1).toNat) := by
        rw [show 2 * 2 ^ 53 - 1 = 4 * value.mantissa - value.lowerGap by omega]
        ac_rfl
      _ ≤ 4 * (numerator * 2 ^ (-value.exponent).toNat) *
          (denominator * 2 ^ (value.exponent - 1).toNat) :=
        Nat.mul_le_mul_right _ (IsInside.le rounds).1
      _ = 2 * numerator * denominator *
          (2 ^ 1 * (2 ^ (value.exponent - 1).toNat * 2 ^ (-value.exponent).toNat)) := by
        grind
      _ = _ := by
        rw [← double]
        ac_rfl
  have upper : 2 * (numerator * 2 ^ (-(value.exponent - 1)).toNat) ≤
      (2 * 2 ^ 53 + 1) * (denominator * 2 ^ (value.exponent - 1).toNat) := by
    rw [Nat.pow_add, ← Nat.mul_assoc] at small
    omega
  exact roundHalfEven_of_inside (Nat.mul_pos below (Nat.two_pow_pos _)) ⟨lower, upper⟩

/-! ## The nearest double -/

def bits (value : Binary) : Nat :=
  (value.exponent - leastExponent).toNat * 2 ^ 52 + value.mantissa

theorem Rounds.numerator_pos (positive : 0 < value.mantissa) (below : 0 < denominator)
    (rounds : value.Rounds numerator denominator) : 0 < numerator := by
  have gap := value.lowerGap_cases
  have unit : 0 < denominator * 2 ^ value.exponent.toNat :=
    Nat.mul_pos below (Nat.two_pow_pos _)
  have lower := Nat.lt_of_lt_of_le (Nat.mul_pos (show 0 < 4 * value.mantissa - value.lowerGap by
    omega) unit) (IsInside.le rounds).1
  refine Nat.pos_of_ne_zero fun zero => ?_
  rw [zero, Nat.zero_mul] at lower
  exact absurd lower (Nat.lt_irrefl 0)

/-- What is put together for a fraction in the interval of a magnitude are the bits of the
magnitude, or those of infinity if they are fewer. -/
theorem Rounds.nearestMagnitude_eq (canonical : value.IsCanonical) (positive : 0 < value.mantissa)
    (below : 0 < denominator) (rounds : value.Rounds numerator denominator) :
    nearestMagnitude numerator denominator =
      Float.ofBits (UInt64.ofNat (min value.bits (2047 * 2 ^ 52))) := by
  have above := rounds.numerator_pos positive below
  have least := canonical.least
  rw [nearestMagnitude, if_neg (Nat.ne_of_gt above)]
  dsimp only
  suffices sameBits : (binaryExponent numerator denominator - leastExponent).toNat * 2 ^ 52 +
      roundHalfEven (numerator * 2 ^ (-binaryExponent numerator denominator).toNat)
        (denominator * 2 ^ (binaryExponent numerator denominator).toNat) = value.bits by
    rw [sameBits]
  rcases rounds.binaryExponent_cases canonical above below with same | ⟨next, power, larger⟩
  · rw [same, rounds.roundHalfEven_eq below, bits]
  · have small := (Binary.binaryExponent_cases above below next).2.1
    rw [next, rounds.roundHalfEven_below below power larger ((scaledFloor_lt_iff below).mp small),
      bits]
    omega

theorem nearestMagnitude_of_rounds (canonical : value.IsCanonical)
    (bounded : value.exponent ≤ largestExponent) (positive : 0 < value.mantissa)
    (below : 0 < denominator) (rounds : value.Rounds numerator denominator) :
    nearestMagnitude numerator denominator = Float.ofBits (UInt64.ofNat value.bits) := by
  have constants : leastExponent = -1074 ∧ largestExponent = 971 := ⟨rfl, rfl⟩
  have short := canonical.short
  have finite : value.bits ≤ 2047 * 2 ^ 52 := by
    rw [bits]
    omega
  rw [rounds.nearestMagnitude_eq canonical positive below, Nat.min_eq_left finite]

theorem nearestMagnitude_of_large (canonical : value.IsCanonical)
    (large : largestExponent < value.exponent) (positive : 0 < value.mantissa)
    (below : 0 < denominator) (rounds : value.Rounds numerator denominator) :
    nearestMagnitude numerator denominator = infinity := by
  have constants : leastExponent = -1074 ∧ largestExponent = 971 := ⟨rfl, rfl⟩
  have full := canonical.full.resolve_right (by omega)
  have infinite : 2047 * 2 ^ 52 ≤ value.bits := by
    rw [bits]
    omega
  rw [rounds.nearestMagnitude_eq canonical positive below, Nat.min_eq_right infinite]
  rfl

end Rounds

end Binary

end SymbolScript.Decimal
