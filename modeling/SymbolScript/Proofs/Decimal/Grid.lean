import SymbolScript.Proofs.Decimal.Interval
import SymbolScript.Proofs.Decimal.Shortest

/-!
The shortest decimal of a double is in the interval that rounds to the double. The grids of
multiples of powers of ten are searched for it, and the grid with seventeen digits is fine enough
to have a multiple in the interval.
-/

namespace SymbolScript.Decimal

/-! ## Numbers of digits -/

theorem lt_ten_pow_length (number : Nat) : number < 10 ^ (ofNat number).length := by
  have plain : ∀ c ∈ ofNat number, isPlainDigit c = true :=
    fun c member => isPlainDigit_of_mem_ofNat member
  have bound := readDigits_lt plain
  rwa [readDigits_ofNat] at bound

theorem length_ofNat_pos (number : Nat) : 0 < (ofNat number).length :=
  List.length_pos_of_ne_nil (ofNat_ne_nil number)

theorem ten_pow_le {number : Nat} (positive : 0 < number) :
    10 ^ ((ofNat number).length - 1) ≤ number := by
  refine Nat.not_lt.mp fun small => ?_
  have filled := length_ofNat_pos number
  cases width : (ofNat number).length - 1 with
  | zero =>
      rw [width, Nat.pow_zero] at small
      omega
  | succ shorter =>
      rw [width] at small
      have short := length_ofNat_le small
      omega

namespace Binary

/-! ## The position of the point -/

theorem pointPosition_le {numerator denominator : Nat} (above : 0 < numerator)
    (below : 0 < denominator) :
    10 ^ (pointPosition numerator denominator - 1).toNat * denominator ≤
      numerator * 10 ^ (-(pointPosition numerator denominator - 1)).toNat := by
  unfold pointPosition
  split
  · next large =>
    have filled := length_ofNat_pos (numerator / denominator)
    have exponents : ((ofNat (numerator / denominator)).length - 1 : Int).toNat =
        (ofNat (numerator / denominator)).length - 1 ∧
        (-((ofNat (numerator / denominator)).length - 1 : Int)).toNat = 0 := by omega
    rw [exponents.1, exponents.2, Nat.pow_zero, Nat.mul_one]
    exact (Nat.le_div_iff_mul_le below).mp (ten_pow_le (Nat.div_pos large below))
  · next small =>
    dsimp only
    generalize inverted : (denominator + numerator - 1) / numerator = inverse
    have quotient := Nat.div_add_mod (denominator + numerator - 1) numerator
    have rest := Nat.mod_lt (denominator + numerator - 1) above
    have digits := lt_ten_pow_length (inverse - 1)
    have filled := length_ofNat_pos (inverse - 1)
    have exponents : (1 - ((ofNat (inverse - 1)).length : Int) - 1).toNat = 0 ∧
        (-(1 - ((ofNat (inverse - 1)).length : Int) - 1)).toNat =
          (ofNat (inverse - 1)).length := by omega
    rw [exponents.1, exponents.2, Nat.pow_zero, Nat.one_mul]
    rw [inverted] at quotient
    calc
      denominator ≤ numerator * inverse := by omega
      _ ≤ numerator * 10 ^ (ofNat (inverse - 1)).length := Nat.mul_le_mul_left _ (by omega)

/-! ## Hits on a grid -/

section Grid

variable {closed : Bool} {middle lower upper spacing : Nat}

theorem onGrid?_eq (closed : Bool) (middle lower upper spacing : Nat) :
    onGrid? closed middle lower upper spacing =
      if IsInside closed lower upper (roundHalfEven middle spacing * spacing) then
        some (roundHalfEven middle spacing)
      else if IsInside closed lower upper (middle / spacing * spacing) then some (middle / spacing)
      else if IsInside closed lower upper ((middle / spacing + 1) * spacing) then
        some (middle / spacing + 1)
      else none := by
  cases closed <;> simp [onGrid?, IsInside]

theorem onGrid?_inside {digits : Nat}
    (found : onGrid? closed middle lower upper spacing = some digits) :
    IsInside closed lower upper (digits * spacing) := by
  rw [onGrid?_eq] at found
  split_ifs at found with nearer below above
  · cases found
    exact nearer
  · cases found
    exact below
  · cases found
    exact above

end Grid

section Shortest

variable {value : Binary} {exponent point : Int} {digits : Nat}

/-- The fourth part of the last binary place of a magnitude and the spacing of the grid of the
multiples of a power of ten, in one common unit. -/
def gridQuarter (value : Binary) (exponent : Int) : Nat :=
  2 ^ (value.exponent - 2).toNat * 10 ^ (-exponent).toNat

def gridSpacing (value : Binary) (exponent : Int) : Nat :=
  2 ^ (-(value.exponent - 2)).toNat * 10 ^ exponent.toNat

def hit? (value : Binary) (exponent : Int) : Option Nat :=
  onGrid? (value.mantissa % 2 == 0) (4 * value.mantissa * value.gridQuarter exponent)
    ((4 * value.mantissa - value.lowerGap) * value.gridQuarter exponent)
    ((4 * value.mantissa + 2) * value.gridQuarter exponent) (value.gridSpacing exponent)

theorem gridQuarter_pos : 0 < value.gridQuarter exponent :=
  Nat.mul_pos (Nat.two_pow_pos _) (Nat.pow_pos (by decide))

theorem gridSpacing_pos : 0 < value.gridSpacing exponent :=
  Nat.mul_pos (Nat.two_pow_pos _) (Nat.pow_pos (by decide))

theorem shortestOn_cons (value : Binary) (point : Int) (count : Nat) (counts : List Nat) :
    shortestOn value point (count :: counts) =
      ((value.hit? (point - count)).map fun digits => ⟨digits, point - count⟩).getD
        (shortestOn value point counts) := by
  rw [shortestOn, hit?]
  dsimp only
  rw [roundingInterval_eq]
  dsimp only [gridQuarter, gridSpacing]
  rw [Nat.mul_assoc, Nat.mul_assoc (_ - _), Nat.mul_assoc (_ + _)]
  split
  · next found => rw [found, Option.map_some, Option.getD_some]
  · next missed => rw [missed, Option.map_none, Option.getD_none]

theorem rounds_of_hit? (hit : value.hit? exponent = some digits) :
    value.Rounds (digits * 10 ^ exponent.toNat) (10 ^ (-exponent).toNat) := by
  have quarters := pow_toNat_mul 2
    (show value.exponent - 2 + (2 : Nat) = value.exponent by omega)
  have scaled := (IsInside.mul_iff _ (Nat.mul_pos (show 0 < 2 ^ 2 by decide)
    (Nat.two_pow_pos (-value.exponent).toNat))).mpr (onGrid?_inside hit)
  refine (IsInside.mul_iff _ (Nat.two_pow_pos (-(value.exponent - 2)).toNat)).mp ?_
  have ends : ∀ mark,
      mark * value.gridQuarter exponent * (2 ^ 2 * 2 ^ (-value.exponent).toNat) =
        mark * (10 ^ (-exponent).toNat * 2 ^ value.exponent.toNat) *
          2 ^ (-(value.exponent - 2)).toNat := by
    intro mark
    calc
      _ = mark * 10 ^ (-exponent).toNat *
          (2 ^ 2 * (2 ^ (value.exponent - 2).toNat * 2 ^ (-value.exponent).toNat)) := by
        rw [gridQuarter]
        ac_rfl
      _ = _ := by
        rw [← quarters]
        ac_rfl
  have middle :
      digits * value.gridSpacing exponent * (2 ^ 2 * 2 ^ (-value.exponent).toNat) =
        4 * (digits * 10 ^ exponent.toNat * 2 ^ (-value.exponent).toNat) *
          2 ^ (-(value.exponent - 2)).toNat := by
    rw [gridSpacing, show 2 ^ 2 = 4 from rfl]
    ac_rfl
  rwa [ends, ends, middle] at scaled

/-! ## Seventeen digits -/

variable (positive : 0 < value.mantissa) (short : value.mantissa < 2 ^ 53)
  (first : 10 ^ (point - 1).toNat * value.denominator ≤
    value.numerator * 10 ^ (-(point - 1)).toNat)

include positive short first

theorem gridSpacing_lt :
    value.gridSpacing (point - 17) < 2 * value.lowerGap * value.gridQuarter (point - 17) := by
  have quarters := pow_toNat_mul 2
    (show value.exponent - 2 + (2 : Nat) = value.exponent by omega)
  have places := pow_toNat_mul 10 (show point - 17 + (16 : Nat) = point - 1 by omega)
  have scale : 0 < 2 ^ value.exponent.toNat * 10 ^ (-(point - 1)).toNat :=
    Nat.mul_pos (Nat.two_pow_pos _) (Nat.pow_pos (by decide))
  have gap := value.lowerGap_cases
  -- The spacing is at most the value divided by ten to the sixteenth.
  have fine : value.gridSpacing (point - 17) * 10 ^ 16 ≤
      4 * value.mantissa * value.gridQuarter (point - 17) := by
    refine Nat.le_of_mul_le_mul_right ?_ scale
    calc
      _ = 2 ^ value.exponent.toNat * 2 ^ (-(value.exponent - 2)).toNat *
          (10 ^ 16 * (10 ^ (point - 17).toNat * 10 ^ (-(point - 1)).toNat)) := by
        rw [gridSpacing]
        ac_rfl
      _ = 4 * value.gridQuarter (point - 17) *
          (10 ^ (point - 1).toNat * 2 ^ (-value.exponent).toNat) := by
        rw [quarters, ← places, gridQuarter, show 2 ^ 2 = 4 from rfl]
        ac_rfl
      _ ≤ 4 * value.gridQuarter (point - 17) *
          (value.mantissa * 2 ^ value.exponent.toNat * 10 ^ (-(point - 1)).toNat) :=
        Nat.mul_le_mul_left _ first
      _ = _ := by ac_rfl
  refine Nat.lt_of_mul_lt_mul_right (a := 10 ^ 16) (Nat.lt_of_le_of_lt fine ?_)
  rw [Nat.mul_right_comm _ _ (10 ^ 16)]
  exact Nat.mul_lt_mul_of_pos_right (by omega) gridQuarter_pos

theorem exists_hit?_seventeen : ∃ digits, value.hit? (point - 17) = some digits := by
  have fine := gridSpacing_lt positive short first
  have gap := value.lowerGap_cases
  generalize quarter : value.gridQuarter (point - 17) = unit at fine
  have near := roundHalfEven_near (4 * value.mantissa * unit)
    (show 0 < value.gridSpacing (point - 17) from gridSpacing_pos)
  have widest : value.lowerGap * unit ≤ 2 * unit := Nat.mul_le_mul_right _ (by omega)
  have large : 4 * unit ≤ 4 * value.mantissa * unit := Nat.mul_le_mul_right _ (by omega)
  rw [Nat.mul_assoc] at fine
  rw [hit?, quarter, onGrid?_eq]
  refine ⟨_, if_pos (.of_lt ?_ ?_)⟩
  · rw [Nat.sub_mul]
    omega
  · rw [Nat.add_mul]
    omega

theorem shortestOn_rounds {counts : List Nat} (seventeen : 17 ∈ counts) :
    value.Rounds ((shortestOn value point counts).digits *
        10 ^ (shortestOn value point counts).exponent.toNat)
      (10 ^ (-(shortestOn value point counts).exponent).toNat) := by
  induction counts with
  | nil => cases seventeen
  | cons count counts induction =>
      rw [shortestOn_cons]
      cases hit : value.hit? (point - count) with
      | some digits => exact rounds_of_hit? hit
      | none =>
          rcases List.mem_cons.mp seventeen with rfl | later
          · rcases exists_hit?_seventeen positive short first with ⟨digits, found⟩
            cases found.symm.trans hit
          · exact induction later

omit first

theorem shortest_rounds :
    value.Rounds (value.shortest.digits * 10 ^ value.shortest.exponent.toNat)
      (10 ^ (-value.shortest.exponent).toNat) :=
  shortestOn_rounds positive short
    (pointPosition_le (Nat.mul_pos positive (Nat.two_pow_pos _)) value.denominator_pos)
    (by decide)

end Shortest

end Binary

end SymbolScript.Decimal
