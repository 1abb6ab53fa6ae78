import SymbolScript.Proofs.Decimal.Packing
import SymbolScript.Proofs.Decimal.Parts
import SymbolScript.Proofs.VectorNumber.Decoding

/-!
Vector numbers of doubles that are not whole. They spell the shortest decimal of the double digit by
digit, however small or large it is, and reading rebuilds the text of this decimal.
-/

namespace SymbolScript.VectorNumber

open Decimal

/-! ## Digits after the point -/

theorem mem_encodeFraction {digits : Text} (plain : ∀ c ∈ digits, isPlainDigit c = true) :
    ∀ c ∈ encodeFraction digits, c ∈ wholeGlyphs := by
  intro c member
  rcases List.mem_map.mp member with ⟨digit, inDigits, rfl⟩
  exact digitGlyph_mem _ (plainDigitValue_lt (plain digit inDigits))

theorem fractionDigits_encodeFraction {digits : Text}
    (plain : ∀ c ∈ digits, isPlainDigit c = true) :
    fractionDigits (encodeFraction digits) = .ok digits := by
  induction digits with
  | nil => rfl
  | cons c rest induction =>
      rcases List.forall_mem_cons.mp plain with ⟨first, later⟩
      have shown : encodeFraction (c :: rest) =
          digitGlyph (plainDigitValue c) :: encodeFraction rest := rfl
      rw [shown, fractionDigits, plainValue?_digitGlyph _ (plainDigitValue_lt first)]
      simp only [induction later, digitChar_plainDigitValue first]
      rfl

theorem fractionText_encodeFraction {number : Nat} {glyphs digits : Text}
    (form : WholeForm number glyphs) (bounded : number < 10 ^ digitLimit)
    (plain : ∀ c ∈ digits, isPlainDigit c = true) :
    fractionText glyphs (encodeFraction digits) = .ok (ofNat number ++ '.' :: digits) := by
  have written := write_natCast_eq_ok_iff.mpr ⟨bounded, rfl⟩
  rw [fractionText, fractionDigits_encodeFraction plain, form.decodeWhole_eq]
  simp only [bind, Except.bind, written]
  rfl

/-! ## Literals with a point -/

section Literal

variable {number : Nat} {glyphs digits sign : Text}

def pointedChars : Text :=
  cross :: minus :: '.' :: wholeGlyphs

theorem mem_pointed (form : WholeForm number glyphs)
    (plain : ∀ c ∈ digits, isPlainDigit c = true) :
    ∀ c ∈ glyphs ++ '.' :: encodeFraction digits, c ∈ '.' :: wholeGlyphs := by
  intro c member
  rcases List.mem_append.mp member with inGlyphs | inRest
  · exact List.mem_cons_of_mem _ (form.mem_wholeGlyphs c inGlyphs)
  · rcases List.mem_cons.mp inRest with rfl | inDigits
    · exact List.mem_cons_self
    · exact List.mem_cons_of_mem _ (mem_encodeFraction plain c inDigits)

theorem mem_pointedChars (form : WholeForm number glyphs)
    (plain : ∀ c ∈ digits, isPlainDigit c = true) (signed : sign = [] ∨ sign = [minus]) :
    ∀ c ∈ cross :: sign ++ (glyphs ++ '.' :: encodeFraction digits), c ∈ pointedChars := by
  have front : ∀ c ∈ cross :: sign, c ∈ pointedChars := by
    rcases signed with rfl | rfl <;> decide
  intro c member
  rcases List.mem_append.mp member with inFront | inBody
  · exact front c inFront
  · exact List.mem_cons_of_mem _ (List.mem_cons_of_mem _ (mem_pointed form plain c inBody))

theorem pointedChars_not_blank : ∀ c ∈ pointedChars, Text.isBlank c = false := by
  decide

theorem pointed_solid : ∀ c ∈ '.' :: wholeGlyphs, c ≠ cross ∧ c ≠ minus := by
  decide

theorem decode_of_pointed (form : WholeForm number glyphs) (bounded : number < 10 ^ digitLimit)
    (filled : digits ≠ []) (plain : ∀ c ∈ digits, isPlainDigit c = true)
    (signed : sign = [] ∨ sign = [minus]) :
    decode (cross :: sign ++ (glyphs ++ '.' :: encodeFraction digits)) =
      (readFloat (ofNat number ++ '.' :: digits)).map fun magnitude =>
        (if sign = [] then id else Number.negate) (.real magnitude) := by
  have solid : ∀ c ∈ glyphs ++ '.' :: encodeFraction digits, c ≠ cross ∧ c ≠ minus :=
    fun c member => pointed_solid c (mem_pointed form plain c member)
  have noPoint : '.' ∉ glyphs := fun member =>
    (wholeGlyphs_solid '.' (form.mem_wholeGlyphs '.' member)).2.2.2 rfl
  have noBlank : ∀ c ∈ cross :: sign ++ (glyphs ++ '.' :: encodeFraction digits),
      Text.isBlank c = false :=
    fun c member => pointedChars_not_blank c (mem_pointedChars form plain signed c member)
  have stripped : withoutCrosses (cross :: sign ++ (glyphs ++ '.' :: encodeFraction digits)) =
      sign ++ (glyphs ++ '.' :: encodeFraction digits) := by
    rw [withoutCrosses_append, withoutCrosses_eq_self fun c member => (solid c member).1]
    rcases signed with rfl | rfl <;> rfl
  have bodyFilled : glyphs ++ '.' :: encodeFraction digits ≠ [] := by simp
  have unsigned : ∀ c, (glyphs ++ '.' :: encodeFraction digits).head? = some c → c ≠ minus :=
    fun c isHead => (solid c (List.mem_of_head? isHead)).2
  have digitsFilled : encodeFraction digits ≠ [] := by simpa [encodeFraction] using filled
  rw [decode_of_signed noBlank signed stripped bodyFilled unsigned,
    decodeBody_of_point noPoint form.ne_nil digitsFilled,
    fractionText_encodeFraction form bounded plain]
  simp only [bind, Except.bind]
  cases readFloat (ofNat number ++ '.' :: digits) <;> rfl

end Literal

/-! ## Doubles that are not whole -/

section Fractional

variable {x : Float} {value : Binary}

theorem mantissa_pos_of_fractional (fractional : value.isWhole = false) : 0 < value.mantissa := by
  refine Nat.pos_of_ne_zero fun zero => ?_
  rw [Binary.isWhole_of_zero zero] at fractional
  cases fractional

theorem encode_of_fractional (read : Binary.ofFloat? x = some value)
    (fractional : value.isWhole = false)
    (noGlyph : ∀ constant ∈ writtenConstants, (constant.1 == x.abs) = false) {glyphs : Text}
    (written : encodeWhole (readDigits value.shortest.parts.1) = .ok glyphs) :
    encode (.real x) = .ok (cross :: (if x < 0 then [minus] else []) ++
      (glyphs ++ '.' :: encodeFraction value.shortest.parts.2)) := by
  have unknown : writtenConstants.find? (·.1 == x.abs) = none := by
    rw [List.find?_eq_none]
    intro constant isConstant
    rw [noGlyph constant isConstant]
    exact Bool.false_ne_true
  have magnitude : encodeMagnitude value =
      .ok (glyphs ++ '.' :: encodeFraction value.shortest.parts.2) := by
    rw [encodeMagnitude, fractional]
    simp only [Bool.false_eq_true, if_false, written]
    rfl
  have unsigned : encodeReal x =
      .ok (glyphs ++ '.' :: encodeFraction value.shortest.parts.2) := by
    rw [encodeReal, unknown, read]
    exact magnitude
  rw [encode, unsigned]
  rfl

/-- A finite double that is not whole and has no glyph of its own is written as a cross, a minus
mark exactly if it is negative, and the shortest decimal of its magnitude without an exponent: a
form of the whole part, a point and the glyphs of the fraction. Reading rebuilds the text of this
decimal, and the double from it. -/
theorem decode_encode_fractional (read : Binary.ofFloat? x = some value)
    (fractional : value.isWhole = false)
    (noGlyph : ∀ constant ∈ writtenConstants, (constant.1 == x.abs) = false) :
    ∃ whole fraction glyphs literal,
      ofFloat x.abs = value.shortest.text ∧ value.shortest.IsSpelled whole fraction ∧
      encodeWhole (readDigits whole) = .ok glyphs ∧
      literal = cross :: (if x < 0 then [minus] else []) ++
        (glyphs ++ '.' :: encodeFraction fraction) ∧
      encode (.real x) = .ok literal ∧ (∀ c ∈ literal, c ∈ pointedChars) ∧
      fractionText glyphs (encodeFraction fraction) = .ok (whole ++ '.' :: fraction) ∧
      decode literal = (readFloat (whole ++ '.' :: fraction)).map
        (fun magnitude => .real (if x < 0 then -magnitude else magnitude)) ∧
      readFloat (whole ++ '.' :: fraction) = .ok x.abs ∧ decode literal = .ok (.real x) := by
  have positive := mantissa_pos_of_fractional fractional
  rcases Binary.isCanonical_of_ofFloat? read with ⟨canonical, bounded⟩
  have filled := Binary.fraction_ne_nil canonical positive fractional
  have spelled := Scaled.isSpelled_parts (Binary.shortest_digits_pos canonical positive) filled
  have short := readDigits_parts_lt read
  have plain : ∀ c ∈ value.shortest.parts.2, isPlainDigit c = true :=
    fun c member => Scaled.isPlainDigit_of_mem_fraction member
  rcases exists_encodeWhole short with ⟨glyphs, written⟩
  have form := wholeForm_of_encodeWhole written
  have rebuilt := fractionText_encodeFraction form short plain
  have magnitude := Binary.readFloat_parts canonical positive bounded
  rw [← Binary.abs_eq_ofBits read positive] at magnitude
  -- The minus mark is read first, so the magnitude is all that has to be rebuilt.
  have signed : (if x < 0 then [minus] else []) = [] ∨
      (if x < 0 then [minus] else []) = [minus] := by
    split <;> simp
  have decoded : decode (cross :: (if x < 0 then [minus] else []) ++
      (glyphs ++ '.' :: encodeFraction value.shortest.parts.2)) =
      (readFloat (value.shortest.parts.1 ++ '.' :: value.shortest.parts.2)).map
        (fun magnitude => .real (if x < 0 then -magnitude else magnitude)) := by
    rw [decode_of_pointed form short filled plain signed, spelled.shortest]
    split <;> simp [Number.negate]
  rw [spelled.shortest] at rebuilt
  refine ⟨_, _, glyphs, _, ofFloat_abs read positive, spelled, written, rfl,
    encode_of_fractional read fractional noGlyph written, mem_pointedChars form plain signed,
    rebuilt, decoded, magnitude, ?_⟩
  rw [decoded, magnitude]
  exact congrArg (fun y => Except.ok (Number.real y)) (Binary.signed_abs read positive)

theorem decode_encode_fractional_ten :
    Binary.ofFloat? (Float.ofBits 0xc025000000000000) = some ⟨5910974510923776, -49⟩ ∧
      (⟨5910974510923776, -49⟩ : Binary).isWhole = false ∧
      (∀ constant ∈ writtenConstants,
        (constant.1 == (Float.ofBits 0xc025000000000000).abs) = false) ∧
      encode (.real (Float.ofBits 0xc025000000000000)) = .ok "⊗⁻χ.ε".toList ∧
      decode "⊗⁻χ.ε".toList = .ok (.real (Float.ofBits 0xc025000000000000)) := by
  have read : Binary.ofFloat? (Float.ofBits 0xc025000000000000) = some ⟨5910974510923776, -49⟩ := by
    rw [Binary.ofFloat?_ofBits]
    decide +kernel
  have fractional : (⟨5910974510923776, -49⟩ : Binary).isWhole = false := by decide +kernel
  have noGlyph : ∀ constant ∈ writtenConstants,
      (constant.1 == (Float.ofBits 0xc025000000000000).abs) = false := by decide +kernel
  have shown : encode (.real (Float.ofBits 0xc025000000000000)) = .ok "⊗⁻χ.ε".toList := by
    decide +kernel
  rcases decode_encode_fractional read fractional noGlyph with
    ⟨_, _, _, literal, -, -, -, -, encoded, -, -, -, -, decoded⟩
  have same : literal = "⊗⁻χ.ε".toList := Except.ok.inj (encoded.symm.trans shown)
  exact ⟨read, fractional, noGlyph, shown, same ▸ decoded⟩

end Fractional

end SymbolScript.VectorNumber
