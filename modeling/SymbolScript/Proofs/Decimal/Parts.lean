import SymbolScript.Proofs.Decimal.Grid

/-!
The digits around the point of a decimal. They spell the decimal exactly, the whole part without
needless zeros, and those of the shortest decimal of a double are read as the double.
-/

namespace SymbolScript.Decimal

/-! ## First digits -/

theorem ofNat_eq_cons {number : Nat} (positive : 0 < number) :
    ∃ first rest, ofNat number = first :: rest ∧ first ≠ '0' := by
  have small : ∀ digit ∈ Positional.digits 10 number, digit < 10 :=
    fun digit member => Positional.lt_of_mem_digits (by decide) member
  rcases Positional.digits_cases (show 1 < 10 by decide) number with
    zero | ⟨first, rest, shown, nonzero⟩
  · have isZero := Positional.read_digits 10 number
    rw [zero] at isZero
    exact absurd isZero.symm (Nat.ne_of_gt positive)
  · rw [shown] at small
    refine ⟨digitChar first, rest.map digitChar, by rw [ofNat, shown, List.map_cons], ?_⟩
    exact fun isZero => nonzero (digitChar_eq_zero first (small first List.mem_cons_self) isZero)

namespace Scaled

/-! ## The digits around the point -/

theorem exists_stripZeros_append (digits : Text) :
    ∃ zeros, stripZeros digits ++ List.replicate zeros '0' = digits := by
  have ending : ∀ c ∈ digits.reverse.takeWhile (· == '0'), c = '0' := by
    intro c member
    exact eq_of_beq (List.mem_takeWhile_imp (p := (· == '0')) member)
  refine ⟨(digits.reverse.takeWhile (· == '0')).length, ?_⟩
  rw [stripZeros, ← List.reverse_replicate, ← List.reverse_append,
    ← List.eq_replicate_of_mem ending, List.takeWhile_append_dropWhile, List.reverse_reverse]

variable {value : Scaled}

theorem exists_parts_append (value : Scaled) :
    ∃ zeros, readDigits (value.parts.1 ++ value.parts.2) * 10 ^ zeros =
        value.digits * 10 ^ value.exponent.toNat ∧
      value.parts.2.length + zeros = (-value.exponent).toNat := by
  have filled := length_ofNat_pos value.digits
  unfold parts
  dsimp only
  split
  · next small =>
    rcases exists_stripZeros_append (ofNat value.digits) with ⟨zeros, stripped⟩
    have lengths := congrArg List.length stripped
    rw [List.length_append, List.length_replicate] at lengths
    have noScale : value.exponent.toNat = 0 := by omega
    refine ⟨zeros, ?_, ?_⟩
    · rw [← readDigits_append_zeros, List.append_assoc, List.append_assoc, stripped,
        ← List.replicate_one, readDigits_zeros_append, readDigits_zeros_append, readDigits_ofNat,
        noScale, Nat.pow_zero, Nat.mul_one]
    · rw [List.length_append, List.length_replicate]
      omega
  · next large =>
    generalize position : ((ofNat value.digits).length : Int) + value.exponent = point at large ⊢
    generalize shown : ofNat value.digits ++
      List.replicate (point.toNat - (ofNat value.digits).length) '0' = text
    rcases exists_stripZeros_append (text.drop point.toNat) with ⟨zeros, stripped⟩
    have lengths := congrArg List.length stripped
    have shownLength := congrArg List.length shown
    rw [List.length_append, List.length_replicate] at lengths shownLength
    rw [List.length_drop] at lengths
    have scale : point.toNat - (ofNat value.digits).length = value.exponent.toNat := by omega
    refine ⟨zeros, ?_, ?_⟩
    · rw [← readDigits_append_zeros, List.append_assoc, stripped, List.take_append_drop, ← shown,
        readDigits_append_zeros, readDigits_ofNat, scale]
    · dsimp only
      omega

theorem isPlainDigit_of_mem_fraction {c : Char} (member : c ∈ value.parts.2) :
    isPlainDigit c = true := by
  have zeroOrDigit : ∀ count, c ∈ List.replicate count '0' ∨ c ∈ ofNat value.digits →
      isPlainDigit c = true := by
    rintro count (inZeros | inDigits)
    · rw [List.eq_of_mem_replicate inZeros]
      decide
    · exact isPlainDigit_of_mem_ofNat inDigits
  unfold parts at member
  dsimp only at member
  split at member
  · exact zeroOrDigit _ ((List.mem_append.mp member).imp_right mem_of_mem_stripZeros)
  · exact zeroOrDigit _
      (List.mem_append.mp (List.mem_of_mem_drop (mem_of_mem_stripZeros member))).symm

theorem readDigits_parts (value : Scaled) :
    readDigits (value.parts.1 ++ value.parts.2) * 10 ^ (-value.exponent).toNat =
      value.digits * 10 ^ value.exponent.toNat * 10 ^ value.parts.2.length := by
  rcases value.exists_parts_append with ⟨zeros, digits, places⟩
  rw [← digits, ← places, Nat.pow_add]
  ac_rfl

theorem ofNat_readDigits_whole (positive : 0 < value.digits) :
    ofNat (readDigits value.parts.1) = value.parts.1 := by
  have plain : ∀ c ∈ value.parts.1, isPlainDigit c = true :=
    fun c member => isPlainDigit_of_mem_parts member
  unfold parts at plain ⊢
  dsimp only at plain ⊢
  split at plain
  · next small =>
    rw [if_pos small]
    exact ofNat_readDigits plain (.inl rfl)
  · next large =>
    rw [if_neg large]
    rcases ofNat_eq_cons positive with ⟨first, rest, shown, nonzero⟩
    rw [shown] at plain large ⊢
    obtain ⟨point, isPoint⟩ : ∃ point : Nat,
        (((first :: rest).length : Int) + value.exponent).toNat = point + 1 :=
      ⟨(((first :: rest).length : Int) + value.exponent).toNat - 1, by omega⟩
    rw [isPoint, List.cons_append, List.take_succ_cons] at plain ⊢
    exact ofNat_readDigits plain (.inr nonzero)

/-- The spelling of a decimal without an exponent: a whole part without needless zeros, a point and
a fraction, which together have exactly the digits of the decimal. -/
structure IsSpelled (value : Scaled) (whole fraction : Text) : Prop where
  positional : value.positional = whole ++ '.' :: fraction
  plain : ∀ c ∈ whole ++ fraction, isPlainDigit c = true
  shortest : ofNat (readDigits whole) = whole
  sameDigits : readDigits (whole ++ fraction) * 10 ^ (-value.exponent).toNat =
    value.digits * 10 ^ value.exponent.toNat * 10 ^ fraction.length

theorem isSpelled_parts (positive : 0 < value.digits) (filled : value.parts.2 ≠ []) :
    value.IsSpelled value.parts.1 value.parts.2 where
  positional := by
    simp only [positional, List.isEmpty_eq_false_iff.mpr filled, Bool.false_eq_true, if_false]
  plain c member := (List.mem_append.mp member).elim isPlainDigit_of_mem_parts
    isPlainDigit_of_mem_fraction
  shortest := ofNat_readDigits_whole positive
  sameDigits := value.readDigits_parts

end Scaled

/-! ## Reading the digits back -/

namespace Binary

variable {value : Binary}

theorem Rounds.denominator_le {numerator denominator : Nat} (positive : 0 < value.mantissa)
    (rounds : value.Rounds numerator denominator) :
    denominator ≤ numerator * 2 ^ ((-value.exponent).toNat + 1) := by
  have gap := value.lowerGap_cases
  refine Nat.le_of_mul_le_mul_left (c := 2) ?_ Nat.two_pos
  calc
    2 * denominator ≤ 2 * (denominator * 2 ^ value.exponent.toNat) :=
      Nat.mul_le_mul_left _ (Nat.le_mul_of_pos_right _ (Nat.two_pow_pos _))
    _ ≤ (4 * value.mantissa - value.lowerGap) * (denominator * 2 ^ value.exponent.toNat) :=
      Nat.mul_le_mul_right _ (by omega)
    _ ≤ 4 * (numerator * 2 ^ (-value.exponent).toNat) := (IsInside.le rounds).1
    _ = 2 * (numerator * 2 ^ ((-value.exponent).toNat + 1)) := by
      rw [Nat.pow_succ, ← Nat.mul_assoc numerator]
      omega

section Scaled

variable {digits : Nat} {exponent : Int}

theorem Rounds.position_bounds (canonical : value.IsCanonical) (positive : 0 < value.mantissa)
    (above : 0 < digits)
    (rounds : value.Rounds (digits * 10 ^ exponent.toNat) (10 ^ (-exponent).toNat))
    {high low : Nat} (large : 2 ^ (value.exponent.toNat + 53) ≤ 10 ^ high)
    (small : 2 ^ ((-value.exponent).toNat + 1) ≤ 10 ^ low) :
    -(low : Int) < (ofNat digits).length + exponent ∧
      (ofNat digits).length + exponent ≤ high := by
  have filled := length_ofNat_pos digits
  have scale : 0 < 10 ^ exponent.toNat := Nat.pow_pos (by decide)
  have upper : 10 ^ ((ofNat digits).length - 1 + exponent.toNat) <
      10 ^ ((-exponent).toNat + high) :=
    calc
      _ = 10 ^ ((ofNat digits).length - 1) * 10 ^ exponent.toNat := Nat.pow_add ..
      _ ≤ digits * 10 ^ exponent.toNat := Nat.mul_le_mul_right _ (ten_pow_le above)
      _ ≤ digits * 10 ^ exponent.toNat * 2 ^ (-value.exponent).toNat :=
        Nat.le_mul_of_pos_right _ (Nat.two_pow_pos _)
      _ < 10 ^ (-exponent).toNat * 2 ^ (value.exponent.toNat + 53) :=
        rounds.lt canonical (Nat.pow_pos (by decide))
      _ ≤ 10 ^ (-exponent).toNat * 10 ^ high := Nat.mul_le_mul_left _ large
      _ = _ := (Nat.pow_add ..).symm
  have lower : 10 ^ (-exponent).toNat < 10 ^ ((ofNat digits).length + exponent.toNat + low) :=
    calc
      _ ≤ digits * 10 ^ exponent.toNat * 2 ^ ((-value.exponent).toNat + 1) :=
        rounds.denominator_le positive
      _ < 10 ^ (ofNat digits).length * 10 ^ exponent.toNat *
          2 ^ ((-value.exponent).toNat + 1) :=
        Nat.mul_lt_mul_of_pos_right
          (Nat.mul_lt_mul_of_pos_right (lt_ten_pow_length digits) scale) (Nat.two_pow_pos _)
      _ ≤ 10 ^ (ofNat digits).length * 10 ^ exponent.toNat * 10 ^ low :=
        Nat.mul_le_mul_left _ small
      _ = _ := by rw [Nat.pow_add, Nat.pow_add]
  have upperExponents := (Nat.pow_lt_pow_iff_right (a := 10) (by decide)).mp upper
  have lowerExponents := (Nat.pow_lt_pow_iff_right (a := 10) (by decide)).mp lower
  omega

/-- A decimal in the interval of a double is read as the double: none of them is so large or so
small that it is settled without computing it. -/
theorem nearestScaled_of_rounds (canonical : value.IsCanonical)
    (bounded : value.exponent ≤ largestExponent) (positive : 0 < value.mantissa)
    (rounds : value.Rounds (digits * 10 ^ exponent.toNat) (10 ^ (-exponent).toNat)) :
    nearestScaled false digits exponent = Float.ofBits (UInt64.ofNat value.bits) := by
  have constants : leastExponent = -1074 ∧ largestExponent = 971 := ⟨rfl, rfl⟩
  have least := canonical.least
  have below : 0 < 10 ^ (-exponent).toNat := Nat.pow_pos (by decide)
  have above : 0 < digits := Nat.pos_of_mul_pos_right (rounds.numerator_pos positive below)
  have large : 2 ^ (value.exponent.toNat + 53) ≤ 10 ^ 309 :=
    Nat.le_trans (Nat.pow_le_pow_right (by decide) (show _ ≤ 1024 by omega)) (by decide +kernel)
  have small : 2 ^ ((-value.exponent).toNat + 1) ≤ 10 ^ 324 :=
    Nat.le_trans (Nat.pow_le_pow_right (by decide) (show _ ≤ 1075 by omega)) (by decide +kernel)
  have position := rounds.position_bounds canonical positive above large small
  have unsigned : nearest false (digits * 10 ^ exponent.toNat) (10 ^ (-exponent).toNat) =
      nearestMagnitude (digits * 10 ^ exponent.toNat) (10 ^ (-exponent).toNat) := by
    simp only [nearest, Bool.false_eq_true, if_false]
  rw [nearestScaled, if_neg (by omega), if_neg (by omega), unsigned]
  exact nearestMagnitude_of_rounds canonical bounded positive below rounds

end Scaled

/-! ## The shortest decimal -/

theorem isWhole_of_zero (zero : value.mantissa = 0) : value.isWhole = true := by
  rw [isWhole, numerator, zero, Nat.zero_mul, Nat.zero_mod]
  rfl

theorem isWhole_of_rounds {number : Nat} (rounds : value.Rounds number 1) :
    value.isWhole = true := by
  rw [isWhole, beq_iff_eq, numerator, denominator]
  rcases Int.lt_or_le value.exponent 0 with negative | natural
  · have gap := value.lowerGap_cases
    have noScale : value.exponent.toNat = 0 := by omega
    have bounds := IsInside.le rounds
    rw [noScale] at bounds ⊢
    have exact : value.mantissa = number * 2 ^ (-value.exponent).toNat := by omega
    rw [exact, Nat.pow_zero, Nat.mul_one, Nat.mul_mod_left]
  · have noScale : (-value.exponent).toNat = 0 := by omega
    rw [noScale, Nat.pow_zero, Nat.mod_one]

section Shortest

variable (canonical : value.IsCanonical) (positive : 0 < value.mantissa)

include canonical positive

theorem shortest_digits_pos : 0 < value.shortest.digits :=
  Nat.pos_of_mul_pos_right ((shortest_rounds positive canonical.short).numerator_pos positive
    (Nat.pow_pos (by decide)))

theorem parts_rounds :
    value.Rounds (readDigits (value.shortest.parts.1 ++ value.shortest.parts.2))
      (10 ^ value.shortest.parts.2.length) := by
  exact (shortest_rounds positive canonical.short).of_eq (Nat.pow_pos (by decide))
    (Nat.pow_pos (by decide)) value.shortest.readDigits_parts.symm

theorem fraction_ne_nil (fractional : value.isWhole = false) : value.shortest.parts.2 ≠ [] := by
  intro empty
  have rounds := parts_rounds canonical positive
  rw [empty, List.length_nil, Nat.pow_zero] at rounds
  rw [isWhole_of_rounds rounds] at fractional
  cases fractional

theorem readFloat_parts (bounded : value.exponent ≤ largestExponent) :
    readFloat (value.shortest.parts.1 ++ '.' :: value.shortest.parts.2) =
      .ok (Float.ofBits (UInt64.ofNat value.bits)) := by
  have filled : value.shortest.parts.1 ≠ [] := by
    rw [← Scaled.ofNat_readDigits_whole (shortest_digits_pos canonical positive)]
    exact ofNat_ne_nil _
  rw [readFloat_of_point (fun c member => Scaled.isPlainDigit_of_mem_parts member) filled
    (fun c member => Scaled.isPlainDigit_of_mem_fraction member)]
  congr 1
  refine nearestScaled_of_rounds canonical bounded positive ?_
  have exponents : (0 - (value.shortest.parts.2.length : Int)).toNat = 0 ∧
      (-(0 - (value.shortest.parts.2.length : Int))).toNat = value.shortest.parts.2.length := by
    omega
  rw [exponents.1, exponents.2, Nat.pow_zero, Nat.mul_one]
  exact parts_rounds canonical positive

end Shortest

end Binary

end SymbolScript.Decimal
