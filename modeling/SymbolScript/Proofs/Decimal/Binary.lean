import SymbolScript.Decimal.Binary

/-!
Doubles as magnitudes. The bits of a double are unpacked into its sign and its magnitude and are
packed again from them, so that the magnitude of a result can be read off the parts that it is
packed from.
-/

namespace SymbolScript.Decimal

open Float.Model (Format UnpackedFloat)
open Float.Model.UnpackedFloat (Sign packComponents unpackMantissa unpackExponent)

namespace Binary

def ofBits? (bits : Nat) : Option Binary :=
  let fraction := bits % 2 ^ 52
  let biased := bits / 2 ^ 52 % 2 ^ 11
  if biased = 2047 then none
  else if biased = 0 then some ⟨fraction, leastExponent⟩
  else some ⟨fraction + 2 ^ 52, leastExponent + (biased - 1 : Nat)⟩

def largestExponent : Int := 971

/-- Whether a magnitude uses all binary digits that a double has, as long as the least exponent
allows it. -/
structure IsCanonical (value : Binary) : Prop where
  short : value.mantissa < 2 ^ 53
  least : leastExponent ≤ value.exponent
  full : 2 ^ 52 ≤ value.mantissa ∨ value.exponent = leastExponent

/-! ## Bits -/

theorem toNat_packComponents (sign : Sign) (exponent : BitVec 11) (fraction : BitVec 52) :
    (packComponents Format.binary64 sign exponent fraction).toNat =
      sign.toBitVec.toNat * 2 ^ 63 + (exponent.toNat * 2 ^ 52 + fraction.toNat) := by
  have lower := fraction.isLt
  have upper := exponent.isLt
  rw [packComponents, BitVec.toNat_append, ← Nat.shiftLeft_add_eq_or_of_lt lower,
    BitVec.toNat_append, ← Nat.shiftLeft_add_eq_or_of_lt upper]
  simp only [Nat.shiftLeft_eq]
  omega

theorem ofBits?_fields (sign : Nat) {biased fraction : Nat} (small : biased < 2 ^ 11)
    (part : fraction < 2 ^ 52) :
    ofBits? (sign * 2 ^ 63 + (biased * 2 ^ 52 + fraction)) =
      if biased = 2047 then none
      else if biased = 0 then some ⟨fraction, leastExponent⟩
      else some ⟨fraction + 2 ^ 52, leastExponent + (biased - 1 : Nat)⟩ := by
  have fields : (sign * 2 ^ 63 + (biased * 2 ^ 52 + fraction)) % 2 ^ 52 = fraction ∧
      (sign * 2 ^ 63 + (biased * 2 ^ 52 + fraction)) / 2 ^ 52 % 2 ^ 11 = biased := by
    omega
  rw [ofBits?, fields.1, fields.2]

theorem ofBits?_packComponents (sign : Sign) (exponent : BitVec 11) (fraction : BitVec 52) :
    ofBits? (packComponents Format.binary64 sign exponent fraction).toNat =
      if exponent.toNat = 2047 then none
      else if exponent.toNat = 0 then some ⟨fraction.toNat, leastExponent⟩
      else some ⟨fraction.toNat + 2 ^ 52, leastExponent + (exponent.toNat - 1 : Nat)⟩ := by
  rw [toNat_packComponents, ofBits?_fields _ exponent.isLt fraction.isLt]

theorem toNat_unpackMantissa (bits : BitVec 64) :
    (@unpackMantissa Format.binary64 bits).toNat = bits.toNat % 2 ^ 52 := by
  simp [unpackMantissa, BitVec.extractLsb]

theorem toNat_unpackExponent (bits : BitVec 64) :
    (@unpackExponent Format.binary64 bits).toNat = bits.toNat / 2 ^ 52 % 2 ^ 11 := by
  simp [unpackExponent, BitVec.extractLsb, Nat.shiftRight_eq_div_pow]

inductive IsMagnitude : UnpackedFloat → Option Binary → Prop
  | infinity (sign : Sign) : IsMagnitude (.infinity sign) none
  | notANumber : IsMagnitude .notANumber none
  | zero (sign : Sign) : IsMagnitude (.zero sign) (some ⟨0, leastExponent⟩)
  | finite {value : Binary} (sign : Sign) (positive : 0 < value.mantissa)
      (canonical : value.IsCanonical) (bounded : value.exponent ≤ largestExponent) :
      IsMagnitude (.finite sign value.mantissa value.exponent positive) (some value)

theorem IsMagnitude.of_eq {value : Binary} (canonical : value.IsCanonical)
    (bounded : value.exponent ≤ largestExponent) {mantissa : Nat} {exponent : Int}
    (sameMantissa : mantissa = value.mantissa) (sameExponent : exponent = value.exponent)
    (sign : Sign) (positive : 0 < mantissa) :
    IsMagnitude (.finite sign mantissa exponent positive) (some value) := by
  subst sameMantissa sameExponent
  exact .finite sign positive canonical bounded

theorem IsMagnitude.neg {parts : UnpackedFloat} {value : Option Binary}
    (magnitude : IsMagnitude parts value) : IsMagnitude parts.neg value := by
  cases magnitude with
  | infinity sign => exact .infinity _
  | notANumber => exact .notANumber
  | zero sign => exact .zero _
  | finite sign positive canonical bounded => exact .finite _ positive canonical bounded

theorem IsMagnitude.abs {parts : UnpackedFloat} {value : Option Binary}
    (magnitude : IsMagnitude parts value) : IsMagnitude parts.abs value := by
  cases magnitude with
  | infinity sign => exact .infinity _
  | notANumber => exact .notANumber
  | zero sign => exact .zero _
  | finite sign positive canonical bounded => exact .finite _ positive canonical bounded

theorem isMagnitude_unpack (bits : BitVec 64) :
    IsMagnitude (UnpackedFloat.unpack Format.binary64 bits) (ofBits? bits.toNat) := by
  have small := Nat.mod_lt bits.toNat (show 0 < 2 ^ 52 by decide)
  have biased := Nat.mod_lt (bits.toNat / 2 ^ 52) (show 0 < 2 ^ 11 by decide)
  have ones : @unpackExponent Format.binary64 bits = -1#_ ↔
      bits.toNat / 2 ^ 52 % 2 ^ 11 = 2047 := by
    rw [← BitVec.toNat_inj, toNat_unpackExponent]
    exact Iff.rfl
  have zeros : @unpackExponent Format.binary64 bits = 0#_ ↔
      bits.toNat / 2 ^ 52 % 2 ^ 11 = 0 := by
    rw [← BitVec.toNat_inj, toNat_unpackExponent]
    exact Iff.rfl
  have whole : @unpackMantissa Format.binary64 bits = 0#_ ↔
      bits.toNat % 2 ^ 52 = 0 := by
    rw [← BitVec.toNat_inj, toNat_unpackMantissa]
    exact Iff.rfl
  have implicit : (1#1 ++ @unpackMantissa Format.binary64 bits).toNat =
      bits.toNat % 2 ^ 52 + 2 ^ 52 := by
    rw [BitVec.toNat_append, ← Nat.shiftLeft_add_eq_or_of_lt (BitVec.isLt _),
      toNat_unpackMantissa, Nat.add_comm]
    rfl
  have bias : (Format.binary64.exponentBias : Int) = 1023 := rfl
  unfold UnpackedFloat.unpack ofBits?
  dsimp only
  -- The exponent field is full for what has no magnitude, and empty below the normal doubles.
  by_cases full : @unpackExponent Format.binary64 bits = -1#_
  · rw [if_pos full, if_pos (ones.mp full)]
    by_cases noFraction : @unpackMantissa Format.binary64 bits = 0#_
    · rw [if_pos noFraction]
      exact .infinity _
    · rw [if_neg noFraction]
      exact .notANumber
  rw [if_neg full, if_neg (mt ones.mpr full)]
  by_cases empty : @unpackExponent Format.binary64 bits = 0#_
  · rw [if_pos empty, if_pos (zeros.mp empty)]
    by_cases noFraction : @unpackMantissa Format.binary64 bits = 0#_
    · rw [dif_pos noFraction, whole.mp noFraction]
      exact .zero _
    · rw [dif_neg noFraction]
      have canonical : (⟨bits.toNat % 2 ^ 52, leastExponent⟩ : Binary).IsCanonical :=
        ⟨Nat.lt_trans small (by decide), Int.le_refl _, .inr rfl⟩
      have bounded : leastExponent ≤ largestExponent := by decide
      refine .of_eq canonical bounded (toNat_unpackMantissa bits) ?_ _ _
      rw [toNat_unpackExponent, zeros.mp empty, bias]
      rfl
  · have below := mt ones.mpr full
    have filled := mt zeros.mpr empty
    rw [if_neg empty, if_neg filled]
    have canonical : (⟨bits.toNat % 2 ^ 52 + 2 ^ 52,
        leastExponent + (bits.toNat / 2 ^ 52 % 2 ^ 11 - 1 : Nat)⟩ : Binary).IsCanonical :=
      ⟨Nat.add_lt_add_right small _, Int.le_add_of_nonneg_right (Int.natCast_nonneg _),
        .inl (Nat.le_add_left _ _)⟩
    refine .of_eq canonical ?_ implicit ?_ _ _
    · simp only [leastExponent, largestExponent]
      omega
    · rw [toNat_unpackExponent, bias]
      simp only [leastExponent]
      omega

/-! ## Packing -/

theorem log2_eq_iff_full {mantissa : Nat} (positive : 0 < mantissa) (short : mantissa < 2 ^ 53) :
    mantissa.log2 + 1 = 53 ↔ 2 ^ 52 ≤ mantissa := by
  rw [← Nat.le_log2 (Nat.ne_of_gt positive)]
  have top := (Nat.log2_lt (Nat.ne_of_gt positive)).mpr short
  omega

theorem ofBits?_packedInfinity (sign : Sign) :
    ofBits? (UnpackedFloat.packedInfinity Format.binary64 sign).toNat = none := by
  rw [UnpackedFloat.packedInfinity, ofBits?_packComponents]
  rfl

theorem ofBits?_pack_finite {value : Binary} (canonical : value.IsCanonical) (sign : Sign)
    (positive : 0 < value.mantissa) :
    ofBits? (UnpackedFloat.pack Format.binary64
        (.finite sign value.mantissa value.exponent positive)).toNat =
      if value.exponent ≤ largestExponent then some value else none := by
  rcases value with ⟨mantissa, exponent⟩
  rcases canonical with ⟨short, least, full⟩
  dsimp only at short least full positive ⊢
  have bounds : leastExponent = -1074 ∧ largestExponent = 971 := ⟨rfl, rfl⟩
  have bias : (Format.binary64.exponentBias : Int) = 1023 := rfl
  have width : Format.binary64.mantissaBits = 53 := rfl
  unfold UnpackedFloat.pack
  dsimp only
  simp only [bias, width, log2_eq_iff_full positive short]
  split
  · rw [ofBits?_packedInfinity, if_neg (by omega)]
  · split
    · next fits large =>
      have field : (exponent + 1023 + ((52 : Nat) : Int)).toNat % 2 ^ 11 =
          (exponent + 1075).toNat := by omega
      have value : mantissa % 2 ^ 52 + 2 ^ 52 = mantissa ∧
          leastExponent + (((exponent + 1075).toNat - 1 : Nat) : Int) = exponent := by omega
      rw [ofBits?_packComponents, BitVec.toNat_ofNat, BitVec.toNat_ofNat, field, value.1, value.2,
        if_neg (by omega), if_neg (by omega), if_pos (by omega)]
    · next fits small =>
      have least : exponent = leastExponent := full.resolve_left small
      rw [ofBits?_packComponents, if_neg (by decide), if_pos (by decide), BitVec.toNat_ofNat,
        Nat.mod_eq_of_lt (by omega), if_pos (by omega), least]

theorem IsMagnitude.ofBits?_pack {parts : UnpackedFloat} {value : Option Binary}
    (magnitude : IsMagnitude parts value) :
    ofBits? (UnpackedFloat.pack Format.binary64 parts).toNat = value := by
  cases magnitude with
  | infinity sign => exact ofBits?_packedInfinity sign
  | notANumber => decide
  | zero sign => cases sign <;> decide
  | finite sign positive canonical bounded =>
      rw [ofBits?_pack_finite canonical sign positive, if_pos bounded]

/-! ## Doubles -/

theorem isMagnitude_ofFloat? (x : Float) : IsMagnitude x.toModel.unpack (ofFloat? x) :=
  isMagnitude_unpack x.toModel.toBits.toBitVec

theorem ofFloat?_of_isMagnitude {parts : UnpackedFloat} {value : Option Binary}
    (magnitude : IsMagnitude parts value) :
    ofFloat? (Float.ofModel (Float.Model.pack parts)) = value :=
  magnitude.ofBits?_pack

theorem ofFloat?_pack_finite {value : Binary} (canonical : value.IsCanonical) (sign : Sign)
    (positive : 0 < value.mantissa) :
    ofFloat? (Float.ofModel (Float.Model.pack
        (.finite sign value.mantissa value.exponent positive))) =
      if value.exponent ≤ largestExponent then some value else none :=
  ofBits?_pack_finite canonical sign positive

theorem ofFloat?_ofBits (bits : UInt64) : ofFloat? (Float.ofBits bits) = ofBits? bits.toNat :=
  ofFloat?_of_isMagnitude (isMagnitude_unpack bits.toBitVec)

theorem ofFloat?_neg (x : Float) : ofFloat? (-x) = ofFloat? x :=
  ofFloat?_of_isMagnitude (isMagnitude_ofFloat? x).neg

theorem ofFloat?_abs (x : Float) : ofFloat? x.abs = ofFloat? x :=
  ofFloat?_of_isMagnitude (isMagnitude_ofFloat? x).abs

theorem ofFloat?_eq_none_iff (x : Float) :
    ofFloat? x = none ↔ x.isNaN = true ∨ x.isInf = true := by
  have magnitude := isMagnitude_ofFloat? x
  have parts : x.isNaN = x.toModel.unpack.isNaN ∧ x.isInf = x.toModel.unpack.isInf := ⟨rfl, rfl⟩
  rw [parts.1, parts.2]
  revert magnitude
  generalize x.toModel.unpack = parts
  generalize ofFloat? x = value
  intro magnitude
  cases magnitude with
  | infinity sign => exact iff_of_true rfl (.inr rfl)
  | notANumber => exact iff_of_true rfl (.inl rfl)
  | zero sign => exact iff_of_false (Option.some_ne_none _) (by rintro (both | both) <;> cases both)
  | finite sign positive canonical bounded =>
      exact iff_of_false (Option.some_ne_none _) (by rintro (both | both) <;> cases both)

theorem isNaN_of_isInf {x : Float} (infinite : x.isInf = true) : x.isNaN = false := by
  have parts : x.isNaN = x.toModel.unpack.isNaN ∧ x.isInf = x.toModel.unpack.isInf := ⟨rfl, rfl⟩
  rw [parts.2] at infinite
  rw [parts.1]
  generalize x.toModel.unpack = unpacked at infinite
  cases unpacked with
  | infinity sign => rfl
  | _ => cases infinite

theorem beq_abs_of_isNaN {x : Float} (notNumber : x.isNaN = true) (y : Float) :
    (y == x.abs) = false := by
  have parts : (y == x.abs) =
    y.toModel.unpack.beq (Float.Model.pack x.toModel.unpack.abs).unpack := rfl
  have unpacked : x.toModel.unpack.isNaN = true := notNumber
  have packed : (Float.Model.pack .notANumber).unpack = .notANumber := rfl
  rw [parts]
  generalize x.toModel.unpack = right at unpacked
  cases right with
  | notANumber =>
      have same : UnpackedFloat.abs .notANumber = .notANumber := rfl
      rw [same, packed]
      cases y.toModel.unpack <;> rfl
  | infinity => cases unpacked
  | zero => cases unpacked
  | finite => cases unpacked

theorem le_of_beq {x y : Float} (equal : (x == y) = true) : x ≤ y := by
  have same : x.toModel.unpack.compare y.toModel.unpack = some .eq := eq_of_beq equal
  change Float.le x y = true
  rw [Float.le, decide_eq_true_iff]
  change (x.toModel.unpack.compare y.toModel.unpack).any _ = true
  rw [same]
  rfl

theorem eq_of_compare {left right : Binary}
    (equal : (compare left.exponent right.exponent).then
      (compare left.mantissa right.mantissa) = .eq) : left = right := by
  rcases Ordering.then_eq_eq.mp equal with ⟨exponents, mantissas⟩
  rcases left with ⟨mantissa, exponent⟩
  cases Std.LawfulEqCmp.eq_of_compare exponents
  cases Std.LawfulEqCmp.eq_of_compare mantissas
  rfl

theorem ofFloat?_eq_of_beq {x y : Float} (equal : (x == y) = true) :
    ofFloat? x = ofFloat? y := by
  have same : x.toModel.unpack.compare y.toModel.unpack = some .eq := eq_of_beq equal
  have left := isMagnitude_ofFloat? x
  have right := isMagnitude_ofFloat? y
  generalize x.toModel.unpack = leftParts at left same
  generalize y.toModel.unpack = rightParts at right same
  generalize ofFloat? x = leftValue at left ⊢
  generalize ofFloat? y = rightValue at right ⊢
  cases left with
  | notANumber => cases same
  | infinity sign =>
      cases right with
      | notANumber => cases same
      | infinity other => rfl
      | zero other => cases sign <;> cases same
      | finite other => cases sign <;> cases same
  | zero sign =>
      cases right with
      | notANumber => cases same
      | infinity other => cases other <;> cases same
      | zero other => rfl
      | finite other => cases other <;> cases same
  | finite sign =>
      cases right with
      | notANumber => cases same
      | infinity other => cases sign <;> cases other <;> cases same
      | zero other => cases sign <;> cases same
      | finite other =>
          cases sign <;> cases other
          · exact congrArg some (eq_of_compare (Ordering.swap_eq_eq.mp (Option.some.inj same)))
          · cases same
          · cases same
          · exact congrArg some (eq_of_compare (Option.some.inj same))

theorem isCanonical_of_ofFloat? {x : Float} {value : Binary} (read : ofFloat? x = some value) :
    value.IsCanonical ∧ value.exponent ≤ largestExponent := by
  have magnitude := isMagnitude_ofFloat? x
  rw [read] at magnitude
  generalize x.toModel.unpack = parts at magnitude
  cases magnitude with
  | zero sign => exact ⟨⟨by decide, Int.le_refl _, .inr rfl⟩, by decide⟩
  | finite sign positive canonical bounded => exact ⟨canonical, bounded⟩

end Binary

end SymbolScript.Decimal
