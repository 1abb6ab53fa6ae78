import SymbolScript.Decimal.Shortest
import SymbolScript.Proofs.Decimal.Nearest
import SymbolScript.Proofs.Decimal.Reading

/-!
How many digits the shortest decimal of a double has in front of its point. The bounds are wide:
they only have to stay below the digit limit.
-/

namespace SymbolScript.Decimal

/-! ## Numbers of digits -/

theorem length_ofNat_le_of_two_pow {width number : Nat} (small : number < 2 ^ width)
    (positive : 0 < width) : (ofNat number).length ≤ width := by
  cases width with
  | zero => exact absurd positive (Nat.lt_irrefl 0)
  | succ width =>
      exact length_ofNat_le (Nat.lt_of_lt_of_le small (Nat.pow_le_pow_left (by decide) _))

namespace Binary

/-! ## The position of the point -/

theorem pointPosition_bounds {numerator denominator high low : Nat}
    (above : numerator < 2 ^ high) (below : denominator ≤ 2 ^ low) (positive : 0 < high) :
    -(low + 1 : Int) ≤ pointPosition numerator denominator ∧
      pointPosition numerator denominator ≤ high := by
  unfold pointPosition
  split
  · have quotient : (ofNat (numerator / denominator)).length ≤ high :=
      length_ofNat_le_of_two_pow (Nat.lt_of_le_of_lt (Nat.div_le_self _ _) above) positive
    omega
  · have inverse : (denominator + numerator - 1) / numerator - 1 < 2 ^ (low + 1) := by
      have quotient := Nat.div_le_self (denominator + numerator - 1) numerator
      have powerPositive := Nat.two_pow_pos low
      rw [Nat.pow_succ]
      omega
    have short := length_ofNat_le_of_two_pow inverse (Nat.succ_pos low)
    dsimp only
    omega

/-! ## Digits on a grid -/

theorem onGrid?_le {closed : Bool} {middle lower upper spacing digits : Nat}
    (found : onGrid? closed middle lower upper spacing = some digits) : digits ≤ middle + 1 := by
  have nearer := (roundHalfEven_bounds middle spacing).2
  have quotient := Nat.div_le_self middle spacing
  simp only [onGrid?] at found
  split_ifs at found <;> cases found <;> omega

section Shortest

variable {value : Binary} {high low : Nat}

theorem shortestOn_point_le (positive : 0 < high) (numerator : value.numerator < 2 ^ high)
    {point : Int} (least : -(low + 1 : Int) ≤ point) (most : point ≤ high) {limit : Nat}
    {counts : List Nat} (short : ∀ count ∈ counts, count ≤ limit) :
    ((ofNat (shortestOn value point counts).digits).length : Int) +
      (shortestOn value point counts).exponent ≤ 2 * high + low + limit + 4 := by
  induction counts with
  | nil =>
      have digits := length_ofNat_le_of_two_pow numerator positive
      rw [shortestOn]
      dsimp only
      omega
  | cons count counts induction =>
      rcases List.forall_mem_cons.mp short with ⟨countShort, countsShort⟩
      rw [shortestOn]
      dsimp only
      split
      · next digits found =>
        have mantissa : 4 * value.mantissa * 2 ^ (value.exponent - 2).toNat < 10 ^ (high + 2) :=
          calc
            4 * value.mantissa * 2 ^ (value.exponent - 2).toNat ≤
                4 * value.mantissa * 2 ^ value.exponent.toNat :=
              Nat.mul_le_mul_left _ (Nat.pow_le_pow_right (by decide) (by omega))
            _ < 2 ^ (high + 2) := by
              rw [Nat.mul_assoc, Nat.pow_add, Nat.mul_comm]
              exact Nat.mul_lt_mul_of_pos_right numerator (by decide)
            _ ≤ 10 ^ (high + 2) := Nat.pow_le_pow_left (by decide) _
        have scale : 10 ^ (-(point - count)).toNat ≤ 10 ^ (low + limit + 1) :=
          Nat.pow_le_pow_right (by decide) (by omega)
        have scaled := Nat.mul_lt_mul_of_lt_of_le mantissa scale (Nat.pow_pos (by decide))
        rw [← Nat.pow_add] at scaled
        have digitsBound := Nat.le_trans (onGrid?_le found) scaled
        have shown : (ofNat digits).length ≤ high + 2 + (low + limit + 1) + 1 :=
          length_ofNat_le (Nat.lt_of_le_of_lt digitsBound
            (Nat.pow_lt_pow_right (by decide) (Nat.lt_succ_self _)))
        dsimp only
        omega
      · exact induction countsShort

theorem shortest_point_le (positive : 0 < high) (numerator : value.numerator < 2 ^ high)
    (denominator : value.denominator ≤ 2 ^ low) :
    ((ofNat value.shortest.digits).length : Int) + value.shortest.exponent ≤
      2 * high + low + 21 := by
  have bounds := pointPosition_bounds numerator denominator positive
  have short : ∀ count ∈ (List.range 17).map (· + 1), count ≤ 17 := by decide
  have bound := shortestOn_point_le positive numerator bounds.1 bounds.2 short
  rw [← shortest] at bound
  omega

end Shortest

end Binary

/-! ## Digits in front of the point -/

namespace Scaled

variable {value : Scaled}

theorem length_parts_le {width : Nat} (positive : 0 < width)
    (small : ((ofNat value.digits).length : Int) + value.exponent ≤ width) :
    value.parts.1.length ≤ width := by
  unfold parts
  dsimp only
  split
  · exact positive
  · have taken := List.length_take_le
      (((ofNat value.digits).length : Int) + value.exponent).toNat
      (ofNat value.digits ++ List.replicate
        ((((ofNat value.digits).length : Int) + value.exponent).toNat -
          (ofNat value.digits).length) '0')
    dsimp only
    omega

theorem isPlainDigit_of_mem_parts {c : Char} (member : c ∈ value.parts.1) :
    isPlainDigit c = true := by
  unfold parts at member
  dsimp only at member
  split at member
  · rw [List.mem_singleton.mp member]
    decide
  · rcases List.mem_append.mp (List.mem_of_mem_take member) with inDigits | inZeros
    · exact isPlainDigit_of_mem_ofNat inDigits
    · rw [List.eq_of_mem_replicate inZeros]
      decide

end Scaled

theorem readDigits_parts_lt {x : Float} {value : Binary} (read : Binary.ofFloat? x = some value) :
    readDigits value.shortest.parts.1 < 10 ^ digitLimit := by
  rcases Binary.isCanonical_of_ofFloat? read with ⟨canonical, bounded⟩
  have constants : Binary.leastExponent = -1074 ∧ Binary.largestExponent = 971 := ⟨rfl, rfl⟩
  have numerator : value.numerator < 2 ^ (53 + value.exponent.toNat) := by
    rw [Binary.numerator, Nat.pow_add]
    exact Nat.mul_lt_mul_of_pos_right canonical.short (Nat.two_pow_pos _)
  have denominator : value.denominator ≤ 2 ^ (-value.exponent).toNat := Nat.le_refl _
  have least := canonical.least
  have short : value.shortest.parts.1.length ≤ digitLimit := by
    apply Scaled.length_parts_le (by decide)
    have point := Binary.shortest_point_le (by omega) numerator denominator
    rw [digitLimit]
    omega
  exact Nat.lt_of_lt_of_le (readDigits_lt fun c member => Scaled.isPlainDigit_of_mem_parts member)
    (Nat.pow_le_pow_right (by decide) short)

end SymbolScript.Decimal
