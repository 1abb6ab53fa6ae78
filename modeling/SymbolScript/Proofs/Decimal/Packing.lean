import Mathlib
import SymbolScript.Proofs.Decimal.Interval

/-!
Doubles that are put together from their magnitude. Unpacking undoes packing, and with it a double
is its absolute value with its sign.
-/

namespace SymbolScript.Decimal

open Float.Model (Format UnpackedFloat)
open Float.Model.UnpackedFloat (Sign)

namespace Binary

section Packing

variable {value : Binary}

/-! ## Parts -/

theorem toNat_pack_finite (canonical : value.IsCanonical)
    (bounded : value.exponent ≤ largestExponent) (sign : Sign) (positive : 0 < value.mantissa) :
    (UnpackedFloat.pack Format.binary64
        (.finite sign value.mantissa value.exponent positive)).toNat =
      sign.toBitVec.toNat * 2 ^ 63 + value.bits := by
  rcases value with ⟨mantissa, exponent⟩
  rcases canonical with ⟨short, least, full⟩
  rw [bits]
  dsimp only at short least full positive bounded ⊢
  have bounds : leastExponent = -1074 ∧ largestExponent = 971 := ⟨rfl, rfl⟩
  have bias : (Format.binary64.exponentBias : Int) = 1023 := rfl
  have width : Format.binary64.mantissaBits = 53 := rfl
  unfold UnpackedFloat.pack
  dsimp only
  simp only [bias, width, log2_eq_iff_full positive short]
  rw [if_neg (by omega)]
  split
  · rw [toNat_packComponents, BitVec.toNat_ofNat, BitVec.toNat_ofNat]
    omega
  · next small =>
    rw [toNat_packComponents, BitVec.toNat_ofNat, full.resolve_left small]
    simp only [BitVec.toNat_ofNat, Int.sub_self]
    omega

theorem unpack_pack_finite (canonical : value.IsCanonical)
    (bounded : value.exponent ≤ largestExponent) (sign : Sign) (positive : 0 < value.mantissa) :
    (Float.Model.pack (.finite sign value.mantissa value.exponent positive)).unpack =
      .finite sign value.mantissa value.exponent positive := by
  have magnitude := isMagnitude_unpack (UnpackedFloat.pack Format.binary64
    (.finite sign value.mantissa value.exponent positive))
  rw [ofBits?_pack_finite canonical sign positive, if_pos bounded] at magnitude
  have valid : Format.binary64.Valid (UnpackedFloat.pack Format.binary64
      (.finite sign value.mantissa value.exponent positive)) := UnpackedFloat.valid_pack
  have packed := congrArg BitVec.toNat (UnpackedFloat.pack_unpack_of_valid valid)
  rw [toNat_pack_finite canonical bounded] at packed
  change UnpackedFloat.unpack Format.binary64 (UnpackedFloat.pack Format.binary64 _) = _
  generalize UnpackedFloat.unpack Format.binary64 _ = parts at magnitude packed ⊢
  cases magnitude with
  | zero other => exact absurd positive (Nat.lt_irrefl 0)
  | finite other =>
      rw [toNat_pack_finite canonical bounded] at packed
      cases sign <;> cases other <;> simp [Sign.toBitVec] at packed ⊢

/-! ## Doubles -/

theorem ofModel_pack_unpack (x : Float) :
    Float.ofModel (Float.Model.pack x.toModel.unpack) = x :=
  Float.ofBits_toBits x

variable {x : Float}

theorem exists_unpack_eq (read : ofFloat? x = some value) (positive : 0 < value.mantissa) :
    ∃ sign, x.toModel.unpack = .finite sign value.mantissa value.exponent positive := by
  have magnitude := isMagnitude_ofFloat? x
  rw [read] at magnitude
  generalize x.toModel.unpack = parts at magnitude
  cases magnitude with
  | zero sign => exact absurd positive (Nat.lt_irrefl 0)
  | finite sign => exact ⟨sign, rfl⟩

theorem lt_zero_iff {sign : Sign} (positive : 0 < value.mantissa)
    (parts : x.toModel.unpack = .finite sign value.mantissa value.exponent positive) :
    x < 0 ↔ sign = .negative := by
  have zero : (0 : Float).toModel.unpack = .zero .positive := rfl
  change Float.lt x 0 = true ↔ _
  rw [Float.lt, decide_eq_true_iff]
  change x.toModel.unpack.lt (0 : Float).toModel.unpack = true ↔ _
  rw [parts, zero]
  cases sign <;> simp [UnpackedFloat.lt, UnpackedFloat.compare]

theorem not_lt_zero_of_zero (read : ofFloat? x = some value) (zero : value.mantissa = 0) :
    ¬x < 0 := by
  have magnitude := isMagnitude_ofFloat? x
  rw [read] at magnitude
  change ¬Float.lt x 0 = true
  rw [Float.lt, decide_eq_true_iff]
  change ¬x.toModel.unpack.lt (0 : Float).toModel.unpack = true
  have parts : (0 : Float).toModel.unpack = .zero .positive := rfl
  rw [parts]
  generalize x.toModel.unpack = unpacked at magnitude
  cases magnitude with
  | zero sign => exact Bool.false_ne_true
  | finite sign positive => exact absurd zero (Nat.ne_of_gt positive)

theorem ofModel_pack_finite (canonical : value.IsCanonical)
    (bounded : value.exponent ≤ largestExponent) (positive : 0 < value.mantissa) :
    Float.ofModel (Float.Model.pack (.finite .positive value.mantissa value.exponent positive)) =
      Float.ofBits (UInt64.ofNat value.bits) := by
  have packed := toNat_pack_finite canonical bounded .positive positive
  rw [show (Sign.positive).toBitVec.toNat = 0 from rfl, Nat.zero_mul, Nat.zero_add] at packed
  rw [← packed, UInt64.ofNat_bitVecToNat]
  exact (Float.ofBits_toBits _).symm

theorem ofFloat?_ofBits_bits (canonical : value.IsCanonical)
    (bounded : value.exponent ≤ largestExponent) (positive : 0 < value.mantissa) :
    ofFloat? (Float.ofBits (UInt64.ofNat value.bits)) = some value := by
  rw [← ofModel_pack_finite canonical bounded positive,
    ofFloat?_pack_finite canonical .positive positive, if_pos bounded]

theorem abs_eq_ofBits (read : ofFloat? x = some value) (positive : 0 < value.mantissa) :
    x.abs = Float.ofBits (UInt64.ofNat value.bits) := by
  rcases isCanonical_of_ofFloat? read with ⟨canonical, bounded⟩
  rcases exists_unpack_eq read positive with ⟨sign, parts⟩
  have absolute : x.abs = Float.ofModel (Float.Model.pack x.toModel.unpack.abs) := rfl
  rw [absolute, parts]
  exact ofModel_pack_finite canonical bounded positive

/-! ## Signs -/

theorem isNegative_pack_finite_iff (canonical : value.IsCanonical)
    (bounded : value.exponent ≤ largestExponent) (sign : Sign) (positive : 0 < value.mantissa) :
    isNegative (Float.ofModel (Float.Model.pack
      (.finite sign value.mantissa value.exponent positive))) = true ↔ sign = .negative := by
  have constants : leastExponent = -1074 ∧ largestExponent = 971 := ⟨rfl, rfl⟩
  have short := canonical.short
  have packed := toNat_pack_finite canonical bounded sign positive
  have finite : value.bits < 2 ^ 63 := by
    rw [bits]
    omega
  change decide (2 ^ 63 ≤ (UnpackedFloat.pack Format.binary64 _).toNat) = true ↔ _
  rw [decide_eq_true_iff, packed]
  cases sign with
  | negative => exact iff_of_true (Nat.le_add_right _ _) rfl
  | positive =>
      rw [show (Sign.positive).toBitVec.toNat = 0 from rfl]
      exact iff_of_false (by omega) (by simp)

theorem isNegative_iff {sign : Sign} (read : ofFloat? x = some value)
    (positive : 0 < value.mantissa)
    (parts : x.toModel.unpack = .finite sign value.mantissa value.exponent positive) :
    isNegative x = true ↔ sign = .negative := by
  rcases isCanonical_of_ofFloat? read with ⟨canonical, bounded⟩
  have original := ofModel_pack_unpack x
  rw [parts] at original
  rw [← original, isNegative_pack_finite_iff canonical bounded]

theorem isNegative_iff_lt_zero (read : ofFloat? x = some value) (positive : 0 < value.mantissa) :
    isNegative x = true ↔ x < 0 := by
  rcases exists_unpack_eq read positive with ⟨sign, parts⟩
  rw [isNegative_iff read positive parts, lt_zero_iff positive parts]

theorem isNegative_neg (read : ofFloat? x = some value) (positive : 0 < value.mantissa) :
    isNegative (-x) = !isNegative x := by
  rcases isCanonical_of_ofFloat? read with ⟨canonical, bounded⟩
  rcases exists_unpack_eq read positive with ⟨sign, parts⟩
  have negated : -x = Float.ofModel (Float.Model.pack x.toModel.unpack.neg) := rfl
  rw [parts] at negated
  have original := isNegative_iff read positive parts
  cases sign with
  | negative =>
      have other := mt (isNegative_pack_finite_iff canonical bounded .positive positive).mp nofun
      rw [original.mpr rfl, negated]
      exact Bool.eq_false_iff.mpr other
  | positive =>
      have other := (isNegative_pack_finite_iff canonical bounded .negative positive).mpr rfl
      rw [Bool.eq_false_iff.mpr (mt original.mp nofun), negated]
      exact other

theorem isNegative_ofBits_bits (canonical : value.IsCanonical)
    (bounded : value.exponent ≤ largestExponent) (positive : 0 < value.mantissa) :
    isNegative (Float.ofBits (UInt64.ofNat value.bits)) = false := by
  rw [← ofModel_pack_finite canonical bounded positive, Bool.eq_false_iff]
  exact mt (isNegative_pack_finite_iff canonical bounded .positive positive).mp nofun

theorem isNegative_abs (read : ofFloat? x = some value) (positive : 0 < value.mantissa) :
    isNegative x.abs = false := by
  rcases isCanonical_of_ofFloat? read with ⟨canonical, bounded⟩
  rw [abs_eq_ofBits read positive]
  exact isNegative_ofBits_bits canonical bounded positive

theorem signed_abs (read : ofFloat? x = some value) (positive : 0 < value.mantissa) :
    (if x < 0 then -x.abs else x.abs) = x := by
  rcases isCanonical_of_ofFloat? read with ⟨canonical, bounded⟩
  rcases exists_unpack_eq read positive with ⟨sign, parts⟩
  have original := ofModel_pack_unpack x
  have absolute : x.abs = Float.ofModel (Float.Model.pack x.toModel.unpack.abs) := rfl
  rw [parts] at original absolute
  have signIff := lt_zero_iff positive parts
  cases sign with
  | negative =>
      rw [if_pos (signIff.mpr rfl), absolute]
      have negated := unpack_pack_finite canonical bounded .positive positive
      change Float.ofModel (Float.Model.pack (UnpackedFloat.neg (Float.Model.pack
        (.finite .positive value.mantissa value.exponent positive)).unpack)) = x
      rw [negated]
      exact original
  | positive =>
      rw [if_neg fun negative => nomatch signIff.mp negative]
      exact absolute.trans original

end Packing

end Binary

theorem ofFloat_abs {x : Float} {value : Binary} (read : Binary.ofFloat? x = some value)
    (positive : 0 < value.mantissa) : ofFloat x.abs = value.shortest.text := by
  rw [ofFloat, Binary.ofFloat?_abs, read, Binary.isNegative_abs read positive]
  simp only [Bool.false_eq_true, if_false, List.nil_append, if_neg (Nat.ne_of_gt positive)]

end SymbolScript.Decimal
