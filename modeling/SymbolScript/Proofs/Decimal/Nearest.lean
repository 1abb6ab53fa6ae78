import SymbolScript.Proofs.Decimal.Place

/-!
Where the first binary digit of the double nearest to a fraction stands: at the place that the
fraction has it, or one above.
-/

namespace SymbolScript.Decimal

namespace Binary

/-! ## Bits -/

theorem roundHalfEven_bounds (numerator denominator : Nat) :
    numerator / denominator ≤ roundHalfEven numerator denominator ∧
      roundHalfEven numerator denominator ≤ numerator / denominator + 1 := by
  unfold roundHalfEven
  dsimp only
  split
  · omega
  · split <;> omega

theorem ofBits?_carried {above rounded : Nat} (short : rounded ≤ 2 ^ 53)
    (full : 2 ^ 52 ≤ rounded ∨ above = 0) :
    ofBits? (min (above * 2 ^ 52 + rounded) (2047 * 2 ^ 52)) =
      if (carried rounded (leastExponent + above)).exponent ≤ largestExponent then
        some (carried rounded (leastExponent + above)) else none := by
  have constants : leastExponent = -1074 ∧ largestExponent = 971 := ⟨rfl, rfl⟩
  have parts : ∃ biased fraction, biased < 2 ^ 11 ∧ fraction < 2 ^ 52 ∧
      min (above * 2 ^ 52 + rounded) (2047 * 2 ^ 52) = 0 * 2 ^ 63 + (biased * 2 ^ 52 + fraction) ∧
      (biased = 2047 ∧ 971 < (carried rounded (leastExponent + above)).exponent ∨
        biased = 0 ∧ carried rounded (leastExponent + above) = ⟨fraction, leastExponent⟩ ∨
        0 < biased ∧ biased < 2047 ∧ carried rounded (leastExponent + above) =
          ⟨fraction + 2 ^ 52, leastExponent + (biased - 1 : Nat)⟩) := by
    unfold carried
    split
    · by_cases filled : 2 ^ 52 ≤ rounded
      · by_cases large : 2047 ≤ above + 1
        · exact ⟨2047, 0, by decide, by decide, by omega, .inl ⟨rfl, by dsimp only; omega⟩⟩
        · refine ⟨above + 1, rounded - 2 ^ 52, by omega, by omega, by omega, .inr (.inr ?_)⟩
          rw [Nat.sub_add_cancel filled, Nat.add_sub_cancel]
          exact ⟨by omega, by omega, rfl⟩
      · have noneAbove : above = 0 := full.resolve_left filled
        refine ⟨0, rounded, by decide, by omega, by omega, .inr (.inl ⟨rfl, ?_⟩)⟩
        rw [noneAbove]
        rfl
    · by_cases large : 2047 ≤ above + 2
      · exact ⟨2047, 0, by decide, by decide, by omega, .inl ⟨rfl, by dsimp only; omega⟩⟩
      · refine ⟨above + 2, 0, by omega, by decide, by omega, .inr (.inr ⟨by omega, by omega, ?_⟩)⟩
        rw [Nat.zero_add, Int.add_assoc]
        rfl
  rcases parts with ⟨biased, fraction, small, part, bits, forms⟩
  rw [bits, ofBits?_fields 0 small part]
  rcases forms with ⟨rfl, large⟩ | ⟨rfl, equal⟩ | ⟨positive, below, equal⟩
  · rw [if_pos rfl, if_neg (by omega)]
  · have least : leastExponent ≤ largestExponent := by decide
    rw [equal, if_neg (by decide), if_pos rfl, if_pos least]
  · rw [equal, if_neg (Nat.ne_of_lt below), if_neg (Nat.ne_of_gt positive),
      if_pos (by dsimp only; omega)]

theorem div_lt_two_pow {above below : Nat} (belowPositive : 0 < below) {width : Nat}
    (longer : above.log2 + 1 ≤ below.log2 + width) : above / below < 2 ^ width := by
  rw [Nat.div_lt_iff_lt_mul belowPositive]
  calc
    above < 2 ^ (above.log2 + 1) := Nat.lt_log2_self
    _ ≤ 2 ^ width * 2 ^ below.log2 := by
      rw [← Nat.pow_add]
      exact Nat.pow_le_pow_right (by decide) (by omega)
    _ ≤ 2 ^ width * below := Nat.mul_le_mul_left _ (Nat.log2_self_le (Nat.ne_of_gt belowPositive))

theorem two_pow_le_div {above below : Nat} (abovePositive : 0 < above) (belowPositive : 0 < below)
    {width : Nat} (shorter : below.log2 + 1 + width ≤ above.log2) : 2 ^ width ≤ above / below := by
  rw [Nat.le_div_iff_mul_le belowPositive]
  calc
    2 ^ width * below ≤ 2 ^ width * 2 ^ (below.log2 + 1) :=
      Nat.mul_le_mul_left _ (Nat.le_of_lt Nat.lt_log2_self)
    _ ≤ 2 ^ above.log2 := by
      rw [← Nat.pow_add]
      exact Nat.pow_le_pow_right (by decide) (by omega)
    _ ≤ above := Nat.log2_self_le (Nat.ne_of_gt abovePositive)

def scaledFloor (numerator denominator : Nat) (exponent : Int) : Nat :=
  numerator * 2 ^ (-exponent).toNat / (denominator * 2 ^ exponent.toNat)

section Scaled

variable {numerator denominator : Nat} {exponent : Int} {width : Nat}

theorem scaledFloor_lt (above : 0 < numerator) (below : 0 < denominator)
    (longer : (numerator.log2 : Int) - denominator.log2 + 1 ≤ exponent + width) :
    scaledFloor numerator denominator exponent < 2 ^ width := by
  refine div_lt_two_pow (Nat.mul_pos below (Nat.two_pow_pos _)) ?_
  rw [log2_mul_two_pow above, log2_mul_two_pow below]
  omega

theorem le_scaledFloor (above : 0 < numerator) (below : 0 < denominator)
    (shorter : exponent + width + 1 ≤ (numerator.log2 : Int) - denominator.log2) :
    2 ^ width ≤ scaledFloor numerator denominator exponent := by
  refine two_pow_le_div (Nat.mul_pos above (Nat.two_pow_pos _))
    (Nat.mul_pos below (Nat.two_pow_pos _)) ?_
  rw [log2_mul_two_pow above, log2_mul_two_pow below]
  omega

theorem scaledFloor_lt_iff (below : 0 < denominator) :
    scaledFloor numerator denominator exponent < 2 ^ width ↔
      numerator * 2 ^ (-exponent).toNat < denominator * 2 ^ (exponent.toNat + width) := by
  rw [scaledFloor, Nat.div_lt_iff_lt_mul (Nat.mul_pos below (Nat.two_pow_pos _)), Nat.pow_add,
    Nat.mul_comm (2 ^ width), Nat.mul_assoc]

theorem scaledFloor_pred_lt (below : 0 < denominator)
    (small : scaledFloor numerator denominator exponent < 2 ^ width) :
    scaledFloor numerator denominator (exponent - 1) < 2 ^ (width + 1) := by
  rw [scaledFloor_lt_iff below] at small ⊢
  by_cases positive : 0 < exponent
  · have noScale : (-(exponent - 1)).toNat = (-exponent).toNat := by omega
    have same : (exponent - 1).toNat + (width + 1) = exponent.toNat + width := by omega
    rwa [noScale, same]
  · have double : (-(exponent - 1)).toNat = (-exponent).toNat + 1 := by omega
    have same : (exponent - 1).toNat + (width + 1) = exponent.toNat + width + 1 := by omega
    rw [double, same, Nat.pow_succ, Nat.pow_succ, ← Nat.mul_assoc, ← Nat.mul_assoc]
    exact Nat.mul_lt_mul_of_pos_right small (by decide)

theorem binaryExponent_cases (above : 0 < numerator) (below : 0 < denominator)
    (chosen : binaryExponent numerator denominator = exponent) :
    leastExponent ≤ exponent ∧ scaledFloor numerator denominator exponent < 2 ^ 53 ∧
      (2 ^ 52 ≤ scaledFloor numerator denominator exponent ∧
          (numerator.log2 : Int) - denominator.log2 ≤ exponent + 53 ∧
          exponent + 53 ≤ numerator.log2 - denominator.log2 + 1 ∨
        exponent = leastExponent ∧ scaledFloor numerator denominator exponent < 2 ^ 52 ∧
          (numerator.log2 : Int) - denominator.log2 < -1021) := by
  have leastEq : leastExponent = -1074 := rfl
  unfold binaryExponent at chosen
  dsimp only at chosen
  generalize estimated : (numerator.log2 : Int) - denominator.log2 - 52 = estimate at chosen
  split at chosen
  · next low =>
    have short := (scaledFloor_lt_iff below).mpr low
    have next := scaledFloor_pred_lt below short
    by_cases normal : leastExponent ≤ estimate - 1
    · rw [Int.max_eq_right normal] at chosen
      rw [← chosen]
      exact ⟨normal, next, .inl ⟨le_scaledFloor above below (by omega), by omega, by omega⟩⟩
    · have isLeast : exponent = leastExponent := by omega
      have tiny : scaledFloor numerator denominator exponent < 2 ^ 52 := by
        by_cases same : estimate = leastExponent
        · rwa [isLeast, ← same]
        · exact scaledFloor_lt above below (by omega)
      exact ⟨by omega, Nat.lt_trans tiny (by decide), .inr ⟨isLeast, tiny, by omega⟩⟩
  · next low =>
    have high := Nat.not_lt.mp (mt (scaledFloor_lt_iff below).mp low)
    refine ⟨by omega, scaledFloor_lt above below (by omega), ?_⟩
    by_cases normal : leastExponent ≤ estimate
    · rw [Int.max_eq_right normal] at chosen
      rw [← chosen]
      exact .inl ⟨high, by omega, by omega⟩
    · exact .inr ⟨by omega, scaledFloor_lt above below (by omega), by omega⟩

end Scaled

theorem ofFloat?_nearest (negative : Bool) (numerator denominator : Nat) :
    ofFloat? (nearest negative numerator denominator) =
      ofFloat? (nearestMagnitude numerator denominator) := by
  unfold nearest
  split
  · exact ofFloat?_neg _
  · rfl

theorem exists_isRounded_nearest (negative : Bool) {numerator denominator : Nat}
    (above : 0 < numerator) (below : 0 < denominator) :
    ∃ place value, IsRounded place (nearest negative numerator denominator) value ∧
      place ≤ max (numerator.log2 - denominator.log2 + 1 : Int) (-1022) ∧
      (-1021 ≤ (numerator.log2 - denominator.log2 : Int) →
        (numerator.log2 - denominator.log2 : Int) ≤ place) := by
  generalize chosen : binaryExponent numerator denominator = exponent
  rcases binaryExponent_cases above below chosen with ⟨least, short, forms⟩
  have rounded := roundHalfEven_bounds (numerator * 2 ^ (-exponent).toNat)
    (denominator * 2 ^ exponent.toNat)
  change scaledFloor numerator denominator exponent ≤ _ ∧
    _ ≤ scaledFloor numerator denominator exponent + 1 at rounded
  have magnitude : ofFloat? (nearestMagnitude numerator denominator) = ofBits? (min
      ((exponent - leastExponent).toNat * 2 ^ 52 +
        roundHalfEven (numerator * 2 ^ (-exponent).toNat) (denominator * 2 ^ exponent.toNat))
      (2047 * 2 ^ 52)) := by
    rw [nearestMagnitude, if_neg (Nat.ne_of_gt above), chosen]
    dsimp only
    rw [ofFloat?_ofBits, UInt64.toNat_ofNat', Nat.mod_eq_of_lt]
    exact Nat.lt_of_le_of_lt (Nat.min_le_right _ _) (by decide)
  generalize roundHalfEven (numerator * 2 ^ (-exponent).toNat)
    (denominator * 2 ^ exponent.toNat) = mantissa at *
  generalize scaledFloor numerator denominator exponent = floor at *
  obtain ⟨raised, rfl⟩ : ∃ raised : Nat, exponent = leastExponent + raised :=
    ⟨(exponent - leastExponent).toNat, by omega⟩
  have full : 2 ^ 52 ≤ mantissa ∨ raised = 0 := by omega
  have digits : (leastExponent + (raised : Int) - leastExponent).toNat = raised := by omega
  rw [digits, ofBits?_carried (by omega) full] at magnitude
  have read := (ofFloat?_nearest negative numerator denominator).trans magnitude
  rcases forms with ⟨filled, upper, lower⟩ | ⟨isLeast, tiny, small⟩
  · exact ⟨leastExponent + raised + 53, _,
      isRounded_carried least (.inl ⟨by omega, rfl⟩) read, by omega, by omega⟩
  · exact ⟨-1022, _, isRounded_carried least (.inr ⟨isLeast, by omega, by decide⟩) read, by omega,
      by omega⟩

theorem exists_ofFloat?_nearest (negative : Bool) {numerator denominator width : Nat}
    (below : 0 < denominator) (small : numerator < 2 ^ width * denominator)
    (bounded : width ≤ 1022) :
    ∃ value, ofFloat? (nearest negative numerator denominator) = some value ∧
      value.place ≤ width + 2 := by
  rcases Nat.eq_zero_or_pos numerator with rfl | above
  · have zero : (⟨0, leastExponent⟩ : Binary).place ≤ width + 2 :=
      Int.le_trans (show (⟨0, leastExponent⟩ : Binary).place ≤ 0 by decide) (by omega)
    have read : ofFloat? (nearest negative 0 denominator) = some ⟨0, leastExponent⟩ := by
      rw [ofFloat?_nearest, nearestMagnitude, if_pos rfl, ofFloat?_ofBits]
      rfl
    exact ⟨_, read, zero⟩
  · have shorter : numerator.log2 < width + (denominator.log2 + 1) := by
      rw [Nat.log2_lt (Nat.ne_of_gt above), Nat.pow_add]
      exact Nat.lt_of_lt_of_le small (Nat.mul_le_mul_left _ (Nat.le_of_lt Nat.lt_log2_self))
    rcases exists_isRounded_nearest negative above below with ⟨place, value, rounded, upper, _⟩
    have limit := rounded.upper
    exact ⟨value, rounded.read_of_place (by omega), by omega⟩

end Binary

end SymbolScript.Decimal
