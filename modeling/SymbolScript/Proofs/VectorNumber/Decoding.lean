import SymbolScript.Proofs.Decimal.Reading
import SymbolScript.Proofs.VectorNumber.Part

/-!
Which vector literals are read. A literal that is cut out of a text stands for a number as long as
its digits stay within the digit limit, apart from a constant with a fraction behind it.
-/

namespace SymbolScript.VectorNumber

/-! ## Digits -/

theorem plainValue?_lt {c : Char} {value : Nat} (isValue : plainValue? c = some value) :
    value < 10 := by
  rcases List.idxOf?_eq_some_iff.mp isValue with ⟨inside, -, -⟩
  exact inside

theorem value?_lt {c : Char} {value : Nat} (isValue : value? c = some value) : value < 10 := by
  unfold value? at isValue
  split at isValue
  · next plain =>
    cases isValue
    exact plainValue?_lt plain
  · rcases Option.map_eq_some_iff.mp isValue with ⟨position, circled, rfl⟩
    rcases List.idxOf?_eq_some_iff.mp circled with ⟨inside, -, -⟩
    exact Nat.succ_lt_succ inside

theorem exists_readGlyphs {glyphs : Text} (all : ∀ c ∈ glyphs, isGlyph c = true) (high : Nat) :
    ∃ number, readGlyphs value? high glyphs = .ok number ∧
      number < (high + 1) * 10 ^ glyphs.length := by
  induction glyphs generalizing high with
  | nil => exact ⟨high, rfl, by simp⟩
  | cons c rest induction =>
      rcases Option.isSome_iff_exists.mp (all c List.mem_cons_self) with ⟨value, isValue⟩
      have small := value?_lt isValue
      have later := induction (fun d member => all d (List.mem_cons_of_mem c member))
      rcases later (high * 10 + value) with ⟨number, read, bounded⟩
      refine ⟨number, ?_, ?_⟩
      · rw [readGlyphs, isValue]
        exact read
      · calc number < (high * 10 + value + 1) * 10 ^ rest.length := bounded
          _ ≤ ((high + 1) * 10) * 10 ^ rest.length := Nat.mul_le_mul_right _ (by omega)
          _ = (high + 1) * 10 ^ (c :: rest).length := by
              rw [List.length_cons, Nat.pow_succ', Nat.mul_assoc]

theorem exists_fractionDigits {glyphs : Text} (plain : ∀ c ∈ glyphs, isPlainGlyph c = true) :
    ∃ digits, fractionDigits glyphs = .ok digits ∧
      ∀ c ∈ digits, Decimal.isPlainDigit c = true := by
  induction glyphs with
  | nil => exact ⟨[], rfl, by simp⟩
  | cons c rest induction =>
      rcases Option.isSome_iff_exists.mp (plain c List.mem_cons_self) with ⟨value, isValue⟩
      rcases induction fun d member => plain d (List.mem_cons_of_mem c member) with
        ⟨digits, read, plainDigits⟩
      refine ⟨Decimal.digitChar value :: digits, ?_, ?_⟩
      · rw [fractionDigits, isValue, read]
        rfl
      · intro d member
        rcases List.mem_cons.mp member with rfl | later
        · exact Decimal.isPlainDigit_digitChar value (plainValue?_lt isValue)
        · exact plainDigits d later

/-! ## Fractions -/

theorem ne_cross_of_isGlyph {c : Char} (glyph : isGlyph c = true) : c ≠ cross := by
  rintro rfl
  have noGlyph : isGlyph cross = false := by decide
  rw [noGlyph] at glyph
  cases glyph

theorem IsFraction.exists_digits {fraction : Text} (isFraction : IsFraction fraction) :
    ∃ digits, withoutCrosses fraction = '.' :: digits ∧ digits ≠ [] ∧
      ∀ c ∈ digits, isPlainGlyph c = true := by
  cases isFraction with
  | @intro front digits crossed filled plain =>
      have kept : withoutCrosses digits = digits := withoutCrosses_eq_self fun c member =>
        ne_cross_of_isGlyph (isGlyph_of_isPlainGlyph (plain c member))
      have noFront : withoutCrosses front = [] := by rcases crossed with rfl | rfl <;> rfl
      refine ⟨digits, ?_, filled, plain⟩
      rw [← List.singleton_append, withoutCrosses_append, withoutCrosses_append, noFront, kept]
      rfl

/-! ## Numerals -/

theorem numeralGlyphs_solid :
    ∀ c ∈ numeralGlyphs, c ∉ constantGlyphs ∧ c ≠ minus ∧ c ≠ '.' := by
  decide

theorem IsNumeral.solid {whole : Text} (numeral : IsNumeral whole) :
    ∀ c ∈ withoutCrosses whole, c ∉ constantGlyphs ∧ c ≠ minus ∧ c ≠ '.' := by
  intro c member
  rcases mem_withoutCrosses.mp member with ⟨inWhole, notCross⟩
  exact numeralGlyphs_solid c (numeral.mem_numeralGlyphs inWhole notCross)

theorem IsNumeral.withoutCrosses_ne_nil {whole : Text} (numeral : IsNumeral whole) :
    withoutCrosses whole ≠ [] := by
  have first : ∃ c ∈ whole, c ≠ cross := by
    cases numeral with
    | ten => exact ⟨VectorNumber.ten, List.mem_cons_self, by decide⟩
    | teen plain => exact ⟨VectorNumber.ten, List.mem_cons_self, by decide⟩
    | hundred => exact ⟨VectorNumber.hundred, List.mem_cons_self, by decide⟩
    | @digits first rest glyph inside =>
        exact ⟨first, List.mem_cons_self, ne_cross_of_isGlyph glyph⟩
  rcases first with ⟨c, member, notCross⟩
  exact List.ne_nil_of_mem (mem_withoutCrosses.mpr ⟨member, notCross⟩)

theorem exists_decodeWhole_of_glyphs {first : Char} {rest : Text}
    (all : ∀ c ∈ first :: rest, isGlyph c = true) :
    ∃ number, decodeWhole (first :: rest) = .ok number ∧
      number < 10 ^ (first :: rest).length := by
  have noForm : isGlyph ten = false ∧ isGlyph hundred = false := by decide
  have isFirst := all first List.mem_cons_self
  have notTen : first ≠ ten := by
    rintro rfl
    simp [noForm.1] at isFirst
  have notHundred : first ≠ hundred := by
    rintro rfl
    simp [noForm.2] at isFirst
  rcases exists_readGlyphs all 0 with ⟨number, read, small⟩
  rw [Nat.zero_add, Nat.one_mul] at small
  exact ⟨number, (decodeWhole_of_digit notTen notHundred rest).trans read, small⟩

theorem IsNumeral.exists_decodeWhole {whole : Text} (numeral : IsNumeral whole)
    (bounded : whole.countP isGlyph ≤ Decimal.digitLimit) :
    ∃ number, decodeWhole (withoutCrosses whole) = .ok number ∧
      number < 10 ^ Decimal.digitLimit := by
  have hundredSmall : 100 < 10 ^ Decimal.digitLimit := by decide +kernel
  cases numeral with
  | ten => exact ⟨10, rfl, by omega⟩
  | @teen unit plain =>
      rcases Option.isSome_iff_exists.mp plain with ⟨value, isValue⟩
      have small := plainValue?_lt isValue
      have kept : withoutCrosses [VectorNumber.ten, unit] = [VectorNumber.ten, unit] := by
        apply withoutCrosses_eq_self
        intro c member
        rcases List.mem_pair.mp member with rfl | rfl
        · decide
        · exact ne_cross_of_isGlyph (isGlyph_of_isPlainGlyph plain)
      exact ⟨10 + value, by rw [kept, decodeWhole_of_teen isValue], by omega⟩
  | hundred => exact ⟨100, rfl, hundredSmall⟩
  | @digits first rest glyph inside =>
      have starts : withoutCrosses (first :: rest) = first :: withoutCrosses rest :=
        List.filter_cons_of_pos (bne_iff_ne.mpr (ne_cross_of_isGlyph glyph))
      have onlyGlyphs : ∀ c ∈ withoutCrosses (first :: rest), isGlyph c = true := by
        intro c member
        rcases mem_withoutCrosses.mp member with ⟨inWhole, notCross⟩
        rcases List.mem_cons.mp inWhole with rfl | later
        · exact glyph
        · exact (inside c later).resolve_right notCross
      have short : (withoutCrosses (first :: rest)).length ≤ Decimal.digitLimit := by
        rw [withoutCrosses, ← List.countP_eq_length_filter]
        refine Nat.le_trans (List.countP_mono_left fun c member notCross => ?_) bounded
        exact onlyGlyphs c (List.mem_filter.mpr ⟨member, notCross⟩)
      rw [starts] at onlyGlyphs short ⊢
      rcases exists_decodeWhole_of_glyphs onlyGlyphs with ⟨number, read, small⟩
      exact ⟨number, read, Nat.lt_of_lt_of_le small (Nat.pow_le_pow_right (by decide) short)⟩

/-! ## What follows the cross and the minus mark -/

theorem exists_decodeBody_constant {glyph : Char} (isConstant : glyph ∈ constantGlyphs)
    (encoded : Text) : ∃ number, decodeBody encoded [glyph] = .ok number := by
  rcases List.mem_map.mp isConstant with ⟨entry, isEntry, rfl⟩
  cases sought : constants.find? (fun other => [entry.1] == [other.1]) with
  | none =>
      have missing := List.find?_eq_none.mp sought entry isEntry
      simp at missing
  | some found =>
      rw [decodeBody, sought]
      exact ⟨found.2, rfl⟩

theorem IsNumeral.exists_decodeBody {whole : Text} (numeral : IsNumeral whole)
    (bounded : whole.countP isGlyph ≤ Decimal.digitLimit) (encoded : Text) :
    ∃ number, decodeBody encoded (withoutCrosses whole) = .ok number := by
  have noConstant : ∀ entry ∈ constants, withoutCrosses whole ≠ [entry.1] := by
    intro entry isConstant equal
    refine (numeral.solid entry.1 ?_).1 (List.mem_map_of_mem isConstant)
    rw [equal]
    exact List.mem_singleton_self entry.1
  have noPoint : '.' ∉ withoutCrosses whole := fun member => (numeral.solid '.' member).2.2 rfl
  rcases numeral.exists_decodeWhole bounded with ⟨number, read, -⟩
  rw [decodeBody_of_whole noConstant noPoint, read]
  exact ⟨.whole number, rfl⟩

theorem decodeBody_of_point {whole digits : Text} (noPoint : '.' ∉ whole) (filled : whole ≠ [])
    (digitsFilled : digits ≠ []) (encoded : Text) :
    decodeBody encoded (whole ++ '.' :: digits) = do
      let shown ← fractionText whole digits
      let value ← Decimal.readFloat shown
      return .real value := by
  have unknown : constants.find? (fun entry => whole ++ '.' :: digits == [entry.1]) = none := by
    rw [List.find?_eq_none]
    intro entry _ equal
    have lengths := congrArg List.length (eq_of_beq equal)
    have positive := List.length_pos_iff.mpr filled
    simp at lengths
    omega
  rw [decodeBody, unknown, Text.cutAt_append noPoint]
  simp only [List.isEmpty_eq_false_iff.mpr filled, List.isEmpty_eq_false_iff.mpr digitsFilled,
    Bool.or_false]
  rfl

theorem IsNumeral.exists_decodeBody_point {whole digits : Text} (numeral : IsNumeral whole)
    (bounded : whole.countP isGlyph ≤ Decimal.digitLimit) (filled : digits ≠ [])
    (plain : ∀ c ∈ digits, isPlainGlyph c = true) (encoded : Text) :
    ∃ number, decodeBody encoded (withoutCrosses whole ++ '.' :: digits) = .ok number := by
  have noPoint : '.' ∉ withoutCrosses whole := fun member => (numeral.solid '.' member).2.2 rfl
  rcases numeral.exists_decodeWhole bounded with ⟨number, read, small⟩
  rcases exists_fractionDigits plain with ⟨shown, readDigits, plainDigits⟩
  have written : Decimal.write (number : Int) = .ok (Decimal.ofNat number) :=
    Decimal.write_of_bounded (by rwa [Int.natAbs_natCast])
  have decimal : fractionText (withoutCrosses whole) digits =
      .ok (Decimal.ofNat number ++ '.' :: shown) := by
    rw [fractionText, readDigits, read]
    simp only [bind, Except.bind, written]
    rfl
  have float := Decimal.readFloat_of_point
    (fun c member => Decimal.isPlainDigit_of_mem_ofNat member) (Decimal.ofNat_ne_nil number)
    plainDigits
  rw [decodeBody_of_point noPoint numeral.withoutCrosses_ne_nil filled, decimal]
  simp only [bind, Except.bind, float]
  exact ⟨_, rfl⟩

theorem decodeWhole_constant {glyph : Char} (isConstant : glyph ∈ constantGlyphs) :
    decodeWhole [glyph] = .error (.number (.vectorDigit glyph)) := by
  have noDigit : ∀ constant ∈ constantGlyphs,
      constant ≠ ten ∧ constant ≠ hundred ∧ value? constant = none := by
    decide
  rcases noDigit glyph isConstant with ⟨notTen, notHundred, noValue⟩
  rw [decodeWhole_of_digit notTen notHundred, readGlyphs, noValue]

theorem decodeBody_constant_point {glyph : Char} {digits : Text}
    (isConstant : glyph ∈ constantGlyphs) (filled : digits ≠ [])
    (plain : ∀ c ∈ digits, isPlainGlyph c = true) (encoded : Text) :
    decodeBody encoded ([glyph] ++ '.' :: digits) = .error (.number (.vectorDigit glyph)) := by
  have different : ∀ other ∈ constantGlyphs, '.' ≠ other := by decide
  have noPoint : '.' ∉ [glyph] := fun member =>
    different glyph isConstant (List.mem_singleton.mp member)
  rcases exists_fractionDigits plain with ⟨shown, readDigits, -⟩
  rw [decodeBody_of_point noPoint (List.cons_ne_nil glyph []) filled, fractionText, readDigits,
    decodeWhole_constant isConstant]
  rfl

/-! ## Literals -/

/-- The literals in which a fraction follows the glyph of a constant. -/
inductive IsConstantWithFraction : Text → Prop
  | intro {sign : Text} {glyph : Char} {fraction : Text} (signed : sign = [] ∨ sign = [minus])
      (isConstant : glyph ∈ constantGlyphs) (isFraction : IsFraction fraction) :
      IsConstantWithFraction (cross :: (sign ++ glyph :: fraction))

theorem literalChars_not_blank : ∀ c ∈ literalChars, Text.isBlank c = false := by
  decide

theorem constantGlyphs_solid : ∀ glyph ∈ constantGlyphs, glyph ≠ cross ∧ glyph ≠ minus := by
  decide

theorem decode_of_parts {sign whole fraction : Text}
    (noBlank : ∀ c ∈ cross :: (sign ++ (whole ++ fraction)), Text.isBlank c = false)
    (signed : sign = [] ∨ sign = [minus]) (filled : withoutCrosses whole ≠ [])
    (unsigned : ∀ c ∈ withoutCrosses whole, c ≠ minus) :
    decode (cross :: (sign ++ (whole ++ fraction))) =
      (decodeBody (cross :: (sign ++ (whole ++ fraction)))
        (withoutCrosses whole ++ withoutCrosses fraction)).map
          (if sign = [] then id else Number.negate) := by
  have keptSign : withoutCrosses sign = sign := by rcases signed with rfl | rfl <;> rfl
  have stripped : withoutCrosses (cross :: (sign ++ (whole ++ fraction))) =
      sign ++ (withoutCrosses whole ++ withoutCrosses fraction) := by
    rw [← List.singleton_append, withoutCrosses_append, withoutCrosses_append,
      withoutCrosses_append, keptSign]
    rfl
  apply decode_of_signed noBlank signed stripped
  · exact List.append_ne_nil_of_left_ne_nil filled _
  · intro c isHead
    rw [List.head?_append_of_ne_nil _ filled] at isHead
    exact unsigned c (List.mem_of_head? isHead)

theorem withoutCrosses_constant {glyph : Char} (isConstant : glyph ∈ constantGlyphs) :
    withoutCrosses [glyph] = [glyph] := by
  apply withoutCrosses_eq_self
  intro c member
  rw [List.mem_singleton.mp member]
  exact (constantGlyphs_solid glyph isConstant).1

theorem whole_solid {whole : Text}
    (number : (∃ glyph ∈ constantGlyphs, whole = [glyph]) ∨ IsNumeral whole) :
    withoutCrosses whole ≠ [] ∧ ∀ c ∈ withoutCrosses whole, c ≠ minus := by
  rcases number with ⟨glyph, isConstant, rfl⟩ | numeral
  · rw [withoutCrosses_constant isConstant]
    refine ⟨List.cons_ne_nil glyph [], fun c member => ?_⟩
    rw [List.mem_singleton.mp member]
    exact (constantGlyphs_solid glyph isConstant).2
  · exact ⟨numeral.withoutCrosses_ne_nil, fun c member => (numeral.solid c member).2.1⟩

theorem exists_decodeBody {whole fraction : Text} (encoded : Text)
    (bounded : whole.countP isGlyph ≤ Decimal.digitLimit)
    (number : (∃ glyph ∈ constantGlyphs, whole = [glyph]) ∨ IsNumeral whole)
    (ending : fraction = [] ∨ IsFraction fraction)
    (regular : IsFraction fraction → ∀ glyph ∈ constantGlyphs, whole ≠ [glyph]) :
    ∃ number, decodeBody encoded (withoutCrosses whole ++ withoutCrosses fraction) =
      .ok number := by
  rcases number with ⟨glyph, isConstant, rfl⟩ | numeral
  · rcases ending with rfl | isFraction
    · rw [withoutCrosses_constant isConstant, withoutCrosses_nil, List.append_nil]
      exact exists_decodeBody_constant isConstant encoded
    · exact absurd rfl (regular isFraction glyph isConstant)
  · rcases ending with rfl | isFraction
    · rw [withoutCrosses_nil, List.append_nil]
      exact numeral.exists_decodeBody bounded encoded
    · rcases isFraction.exists_digits with ⟨digits, shown, filled, plain⟩
      rw [shown]
      exact numeral.exists_decodeBody_point bounded filled plain encoded

theorem IsConstantWithFraction.decode_eq_error {literal : Text}
    (irregular : IsConstantWithFraction literal)
    (noBlank : ∀ c ∈ literal, Text.isBlank c = false) :
    ∃ glyph ∈ constantGlyphs, decode literal = .error (.number (.vectorDigit glyph)) := by
  cases irregular with
  | @intro sign glyph fraction signed isConstant isFraction =>
      rcases whole_solid (.inl ⟨glyph, isConstant, rfl⟩) with ⟨filled, unsigned⟩
      rcases isFraction.exists_digits with ⟨digits, shown, digitsFilled, plain⟩
      have read := decode_of_parts noBlank signed filled unsigned
      rw [withoutCrosses_constant isConstant, shown,
        decodeBody_constant_point isConstant digitsFilled plain] at read
      exact ⟨glyph, isConstant, read⟩

/-- Every literal that is cut out of a text within the digit limit is read as a number, unless a
fraction follows the glyph of a constant: that glyph is then refused as a digit. -/
theorem decode_literal {text literal : Text} (found : literal ∈ literals.all text)
    (bounded : literal.countP isGlyph ≤ Decimal.digitLimit) :
    (¬ IsConstantWithFraction literal → ∃ number, decode literal = .ok number) ∧
    (IsConstantWithFraction literal →
      ∃ glyph ∈ constantGlyphs, decode literal = .error (.number (.vectorDigit glyph))) := by
  rcases literals.exists_take_of_mem_all text found with ⟨rest, after, taken⟩
  have noBlank : ∀ c ∈ literal, Text.isBlank c = false := fun c member =>
    literalChars_not_blank c (mem_takeLiteral? taken member)
  refine ⟨fun regular => ?_, fun irregular => irregular.decode_eq_error noBlank⟩
  rcases takeLiteral?_parts taken with ⟨sign, whole, fraction, rfl, signed, number, ending⟩
  have wholeBounded : whole.countP isGlyph ≤ Decimal.digitLimit := by
    simp only [List.countP_cons, List.countP_append] at bounded
    omega
  have noConstant : IsFraction fraction → ∀ glyph ∈ constantGlyphs, whole ≠ [glyph] := by
    rintro isFraction glyph isConstant rfl
    exact regular (.intro signed isConstant isFraction)
  rcases whole_solid number with ⟨filled, unsigned⟩
  rcases exists_decodeBody (cross :: (sign ++ (whole ++ fraction))) wholeBounded number ending
    noConstant with ⟨value, read⟩
  rw [decode_of_parts noBlank signed filled unsigned, read]
  exact ⟨_, rfl⟩

theorem decode_literal_pair :
    ("⊗χε.γ".toList ∈ literals.all "a⊗χε.γ+⊗⁻π.α".toList ∧
      "⊗χε.γ".toList.countP isGlyph ≤ Decimal.digitLimit ∧
      ¬ IsConstantWithFraction "⊗χε.γ".toList ∧
      ∃ number, decode "⊗χε.γ".toList = .ok number) ∧
    "⊗⁻π.α".toList ∈ literals.all "a⊗χε.γ+⊗⁻π.α".toList ∧
      "⊗⁻π.α".toList.countP isGlyph ≤ Decimal.digitLimit ∧
      IsConstantWithFraction "⊗⁻π.α".toList ∧
      ∃ glyph ∈ constantGlyphs,
        decode "⊗⁻π.α".toList = .error (.number (.vectorDigit glyph)) := by
  have cutOut : literals.all "a⊗χε.γ+⊗⁻π.α".toList = ["⊗χε.γ".toList, "⊗⁻π.α".toList] := by
    decide +kernel
  have first : "⊗χε.γ".toList ∈ literals.all "a⊗χε.γ+⊗⁻π.α".toList := by
    rw [cutOut]
    exact List.mem_cons_self
  have second : "⊗⁻π.α".toList ∈ literals.all "a⊗χε.γ+⊗⁻π.α".toList := by
    rw [cutOut]
    exact List.mem_cons_of_mem _ List.mem_cons_self
  have firstShort : "⊗χε.γ".toList.countP isGlyph ≤ Decimal.digitLimit := by decide +kernel
  have secondShort : "⊗⁻π.α".toList.countP isGlyph ≤ Decimal.digitLimit := by decide +kernel
  -- The parts of a literal are no function of it, so that each way to cut it is ruled out.
  have apart : ∀ literal, IsConstantWithFraction literal → literal ≠ "⊗χε.γ".toList := by
    intro literal irregular equal
    cases irregular with
    | @intro sign glyph fraction signed isConstant isFraction =>
        rcases signed with rfl | rfl
        · have isTen : glyph = 'χ' := (List.cons.inj (List.cons.inj equal).2).1
          rw [isTen] at isConstant
          revert isConstant
          decide
        · have isTen : minus = 'χ' := (List.cons.inj (List.cons.inj equal).2).1
          revert isTen
          decide
  have regular : ¬ IsConstantWithFraction "⊗χε.γ".toList := fun constant => apart _ constant rfl
  have isFraction : IsFraction ".α".toList :=
    @IsFraction.intro [] ['α'] (.inl rfl) (by decide) (by decide)
  have irregular : IsConstantWithFraction "⊗⁻π.α".toList :=
    .intro (.inr rfl) (by decide) isFraction
  exact ⟨⟨first, firstShort, regular, (decode_literal first firstShort).1 regular⟩,
    second, secondShort, irregular, (decode_literal second secondShort).2 irregular⟩

end SymbolScript.VectorNumber
