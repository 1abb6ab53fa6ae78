import SymbolScript.Proofs.VectorNumber.Glyphs

/-!
The grammar of vector numbers. Without blanks around it, without crosses and without a minus mark in
front a text is read exactly if it is the glyph of a constant, a form of a whole number, or such a
form with a fraction behind it. Every other text is refused for its form.
-/

namespace SymbolScript.VectorNumber

/-! ## Forms -/

/-- The forms of a whole number and the number that each stands for. Digits may start with zeros,
and circled glyphs have the values of plain ones. -/
inductive StandsFor : Text → Nat → Prop
  | ten : StandsFor [ten] 10
  | hundred : StandsFor [hundred] 100
  | teen {unit : Char} {value : Nat} (plain : plainValue? unit = some value) :
      StandsFor [VectorNumber.ten, unit] (10 + value)
  | digits {glyphs : Text} (filled : glyphs ≠ []) (inside : ∀ c ∈ glyphs, isGlyph c = true) :
      StandsFor glyphs (Positional.read 10 (values glyphs))

/-- What may follow the minus mark of a vector number. -/
inductive IsBody : Text → Prop
  | constant {glyph : Char} (isConstant : glyph ∈ constantGlyphs) : IsBody [glyph]
  | whole {glyphs : Text} {number : Nat} (stands : StandsFor glyphs number) : IsBody glyphs
  | fraction {glyphs digits : Text} {number : Nat} (stands : StandsFor glyphs number)
      (filled : digits ≠ []) (plain : ∀ c ∈ digits, isPlainGlyph c = true) :
      IsBody (glyphs ++ '.' :: digits)

def signOf (encoded : Text) : Text :=
  (takeMinus (withoutCrosses (Text.trim encoded))).1

/-- A text without blanks around it, without crosses and without a minus mark in front. -/
def bodyOf (encoded : Text) : Text :=
  (takeMinus (withoutCrosses (Text.trim encoded))).2

example : bodyOf " ⊗⁻χ⊗ε".toList = "χε".toList ∧ signOf " ⊗⁻χ⊗ε".toList = [minus] := by decide

namespace StandsFor

variable {glyphs : Text} {number : Nat}

theorem ne_nil (stands : StandsFor glyphs number) : glyphs ≠ [] := by
  cases stands with
  | ten => exact List.cons_ne_nil _ _
  | hundred => exact List.cons_ne_nil _ _
  | teen => exact List.cons_ne_nil _ _
  | digits filled => exact filled

theorem mem_numeralGlyphs (stands : StandsFor glyphs number) : ∀ c ∈ glyphs, c ∈ numeralGlyphs := by
  intro c member
  cases stands with
  | ten =>
      rw [List.mem_singleton.mp member]
      exact List.mem_cons_self
  | hundred =>
      rw [List.mem_singleton.mp member]
      exact List.mem_cons_of_mem _ List.mem_cons_self
  | teen plain =>
      rcases List.mem_pair.mp member with rfl | rfl
      · exact List.mem_cons_self
      · exact mem_of_isGlyph (isGlyph_of_isPlainGlyph (Option.isSome_iff_exists.mpr ⟨_, plain⟩))
  | digits _ inside => exact mem_of_isGlyph (inside c member)

theorem ne_constant (stands : StandsFor glyphs number) {constant : Char}
    (isConstant : constant ∈ constantGlyphs) : glyphs ≠ [constant] := by
  rintro rfl
  have inNumeral := stands.mem_numeralGlyphs constant List.mem_cons_self
  exact (numeralGlyphs_solid constant inNumeral).1 isConstant

theorem no_point (stands : StandsFor glyphs number) : '.' ∉ glyphs := fun member =>
  (numeralGlyphs_solid '.' (stands.mem_numeralGlyphs '.' member)).2.2 rfl

end StandsFor

theorem constantGlyphs_no_point : '.' ∉ constantGlyphs := by
  decide

theorem isBody_point_iff {whole fraction : Text} (noPoint : '.' ∉ whole) :
    IsBody (whole ++ '.' :: fraction) ↔
      (∃ number, StandsFor whole number) ∧ fraction ≠ [] ∧
        ∀ c ∈ fraction, isPlainGlyph c = true := by
  have point : '.' ∈ whole ++ '.' :: fraction :=
    List.mem_append_right whole List.mem_cons_self
  constructor
  · intro isBody
    generalize equal : whole ++ '.' :: fraction = body at isBody point
    cases isBody with
    | constant isConstant =>
        rw [← List.mem_singleton.mp point] at isConstant
        exact absurd isConstant constantGlyphs_no_point
    | whole stands => exact absurd point stands.no_point
    | @fraction glyphs digits number stands filled plain =>
        -- The first point splits a text in one way only.
        have same : Text.cutAt '.' (whole ++ '.' :: fraction) =
            Text.cutAt '.' (glyphs ++ '.' :: digits) := by rw [equal]
        rw [Text.cutAt_append noPoint, Text.cutAt_append stands.no_point] at same
        cases same
        exact ⟨⟨number, stands⟩, filled, plain⟩
  · rintro ⟨⟨number, stands⟩, filled, plain⟩
    exact .fraction stands filled plain

theorem isBody_iff_of_no_point {body : Text} (noPoint : '.' ∉ body) :
    IsBody body ↔
      (∃ glyph ∈ constantGlyphs, body = [glyph]) ∨ ∃ number, StandsFor body number := by
  constructor
  · intro isBody
    cases isBody with
    | @constant glyph isConstant => exact .inl ⟨glyph, isConstant, rfl⟩
    | @whole _ number stands => exact .inr ⟨number, stands⟩
    | @fraction glyphs => exact absurd (List.mem_append_right glyphs List.mem_cons_self) noPoint
  · rintro (⟨glyph, isConstant, rfl⟩ | ⟨number, stands⟩)
    · exact .constant isConstant
    · exact .whole stands

/-! ## Whole numbers -/

theorem readGlyphs_cases (glyphs : Text) (high : Nat) :
    (∀ c ∈ glyphs, isGlyph c = true) ∧
        readGlyphs value? high glyphs = .ok (Positional.readFrom 10 high (values glyphs)) ∨
      ∃ c ∈ glyphs, isGlyph c = false ∧
        readGlyphs value? high glyphs = .error (.number (.vectorDigit c)) := by
  induction glyphs generalizing high with
  | nil => exact .inl ⟨by simp, rfl⟩
  | cons c rest induction =>
      rw [readGlyphs]
      cases isValue : value? c with
      | none => exact .inr ⟨c, List.mem_cons_self, by rw [isGlyph, isValue]; rfl, rfl⟩
      | some value =>
          have glyph : isGlyph c = true := Option.isSome_iff_exists.mpr ⟨value, isValue⟩
          rcases induction (high * 10 + value) with ⟨inside, read⟩ | ⟨d, member, foreign, failed⟩
          · refine .inl ⟨List.forall_mem_cons.mpr ⟨glyph, inside⟩, ?_⟩
            rw [values_cons_of_some isValue, Positional.readFrom_cons]
            exact read
          · exact .inr ⟨d, List.mem_cons_of_mem c member, foreign, failed⟩

theorem decodeWhole_of_standsFor {glyphs : Text} {number : Nat}
    (stands : StandsFor glyphs number) : decodeWhole glyphs = .ok number := by
  cases stands with
  | ten => rfl
  | hundred => rfl
  | teen plain => exact decodeWhole_of_teen plain
  | digits filled inside =>
      rcases List.exists_cons_of_ne_nil filled with ⟨first, rest, rfl⟩
      have form := glyphs_no_form first (mem_digits_of_isGlyph (inside first List.mem_cons_self))
      rw [decodeWhole_of_digit form.2.2.2.1 form.2.1]
      rcases readGlyphs_cases (first :: rest) 0 with ⟨-, read⟩ | ⟨c, member, foreign, -⟩
      · exact read
      · rw [inside c member] at foreign
        cases foreign

theorem decodeWhole_of_not_standsFor {glyphs : Text} (filled : glyphs ≠ [])
    (foreign : ∀ number, ¬ StandsFor glyphs number) :
    ∃ c, decodeWhole glyphs = .error (.number (.vectorDigit c)) := by
  have refused : ∃ c, readGlyphs value? 0 glyphs = .error (.number (.vectorDigit c)) := by
    rcases readGlyphs_cases glyphs 0 with ⟨inside, -⟩ | ⟨c, -, -, failed⟩
    · exact absurd (.digits filled inside) (foreign _)
    · exact ⟨c, failed⟩
  unfold decodeWhole
  split
  · exact absurd .ten (foreign 10)
  · exact absurd .hundred (foreign 100)
  · split
    · next plain => exact absurd (.teen plain) (foreign _)
    · exact refused
  · exact refused

theorem StandsFor.lt {glyphs : Text} {number : Nat} (stands : StandsFor glyphs number)
    (short : glyphs.length ≤ Decimal.digitLimit) : number < 10 ^ Decimal.digitLimit := by
  have hundredSmall : 100 < 10 ^ Decimal.digitLimit := by decide +kernel
  cases stands with
  | ten => omega
  | hundred => exact hundredSmall
  | teen plain =>
      have small := plainValue?_lt plain
      omega
  | digits =>
      have fewer : (values glyphs).length ≤ glyphs.length := List.length_filterMap_le value? glyphs
      exact Nat.lt_of_lt_of_le (Positional.read_lt (values_lt glyphs))
        (Nat.pow_le_pow_right (by decide) (Nat.le_trans fewer short))

/-! ## Bodies -/

theorem fractionDigits_of_foreign {glyphs : Text}
    (foreign : ¬ ∀ c ∈ glyphs, isPlainGlyph c = true) :
    ∃ fault, fractionDigits glyphs = .error (.number fault) := by
  induction glyphs with
  | nil => exact absurd (by simp) foreign
  | cons c rest induction =>
      rw [fractionDigits]
      cases isValue : plainValue? c with
      | none => exact ⟨_, rfl⟩
      | some value =>
          have plain : isPlainGlyph c = true := Option.isSome_iff_exists.mpr ⟨value, isValue⟩
          rw [List.forall_mem_cons, not_and] at foreign
          rcases induction (foreign plain) with ⟨fault, failed⟩
          exact ⟨fault, by simp only [failed]; rfl⟩

theorem decodeBody_of_no_point {body : Text} (filled : body ≠ []) (noPoint : '.' ∉ body)
    (encoded : Text) :
    IsBody body ∧ (∃ number, decodeBody encoded body = .ok number) ∨
      ¬ IsBody body ∧ ∃ fault, decodeBody encoded body = .error (.number fault) := by
  rw [isBody_iff_of_no_point noPoint]
  by_cases constant : ∃ glyph ∈ constantGlyphs, body = [glyph]
  · rcases constant with ⟨glyph, isConstant, rfl⟩
    exact .inl ⟨.inl ⟨glyph, isConstant, rfl⟩, exists_decodeBody_constant isConstant encoded⟩
  have noConstant : ∀ entry ∈ constants, body ≠ [entry.1] := fun entry isConstant equal =>
    constant ⟨entry.1, List.mem_map_of_mem isConstant, equal⟩
  rw [decodeBody_of_whole noConstant noPoint]
  by_cases stands : ∃ number, StandsFor body number
  · rcases stands with ⟨number, stands⟩
    rw [decodeWhole_of_standsFor stands]
    exact .inl ⟨.inr ⟨number, stands⟩, _, rfl⟩
  · rcases decodeWhole_of_not_standsFor filled (not_exists.mp stands) with ⟨c, failed⟩
    rw [failed]
    exact .inr ⟨not_or.mpr ⟨constant, stands⟩, _, rfl⟩

theorem decodeBody_of_bare_point {whole fraction : Text} (noPoint : '.' ∉ whole)
    (bare : whole = [] ∨ fraction = []) (encoded : Text) :
    decodeBody encoded (whole ++ '.' :: fraction) =
      .error (.number (.malformedFraction encoded)) := by
  have unknown : constants.find? (fun entry => whole ++ '.' :: fraction == [entry.1]) = none := by
    rw [List.find?_eq_none]
    intro entry isConstant equal
    have point : '.' ∈ [entry.1] := by
      rw [← eq_of_beq equal]
      exact List.mem_append_right whole List.mem_cons_self
    rw [List.mem_singleton] at point
    exact constantGlyphs_no_point (point ▸ List.mem_map_of_mem isConstant)
  rw [decodeBody, unknown, Text.cutAt_append noPoint]
  rcases bare with rfl | rfl
  · rfl
  · simp

theorem decodeBody_of_first_point {whole fraction : Text} (noPoint : '.' ∉ whole)
    (short : whole.length ≤ Decimal.digitLimit) (encoded : Text) :
    IsBody (whole ++ '.' :: fraction) ∧
        (∃ number, decodeBody encoded (whole ++ '.' :: fraction) = .ok number) ∨
      ¬ IsBody (whole ++ '.' :: fraction) ∧
        ∃ fault, decodeBody encoded (whole ++ '.' :: fraction) = .error (.number fault) := by
  rw [isBody_point_iff noPoint]
  by_cases bare : whole = [] ∨ fraction = []
  · rw [decodeBody_of_bare_point noPoint bare]
    refine .inr ⟨?_, _, rfl⟩
    rintro ⟨⟨number, stands⟩, filled, -⟩
    exact bare.elim stands.ne_nil filled
  rcases not_or.mp bare with ⟨filled, digitsFilled⟩
  rw [decodeBody_of_point noPoint filled digitsFilled, fractionText]
  by_cases plain : ∀ c ∈ fraction, isPlainGlyph c = true
  · rcases exists_fractionDigits plain with ⟨digits, read, plainDigits⟩
    by_cases stands : ∃ number, StandsFor whole number
    · rcases stands with ⟨number, stands⟩
      have written := Decimal.write_natCast_eq_ok_iff.mpr ⟨stands.lt short, rfl⟩
      have float := Decimal.readFloat_of_point
        (fun c member => Decimal.isPlainDigit_of_mem_ofNat member) (Decimal.ofNat_ne_nil number)
        plainDigits
      refine .inl ⟨⟨⟨number, stands⟩, digitsFilled, plain⟩, ?_⟩
      simp only [read, decodeWhole_of_standsFor stands, written, bind, Except.bind, pure,
        Except.pure, float]
      exact ⟨_, rfl⟩
    · rcases decodeWhole_of_not_standsFor filled (not_exists.mp stands) with ⟨c, failed⟩
      refine .inr ⟨fun parts => stands parts.1, ?_⟩
      simp only [read, failed, bind, Except.bind]
      exact ⟨_, rfl⟩
  · rcases fractionDigits_of_foreign plain with ⟨fault, failed⟩
    refine .inr ⟨fun parts => plain parts.2.2, ?_⟩
    simp only [failed, bind, Except.bind]
    exact ⟨_, rfl⟩

/-! ## Vector numbers -/

theorem decode_eq (encoded : Text) :
    decode encoded =
      if bodyOf encoded = [] then .error (.number (.emptyVector encoded))
      else (decodeBody encoded (bodyOf encoded)).map
        (if signOf encoded = [] then id else Number.negate) := by
  rw [decode, bodyOf, signOf, withoutCrosses]
  cases (Text.trim encoded).filter (· != cross) with
  | nil => rfl
  | cons c rest =>
      by_cases isMinus : c = minus
      · subst isMinus
        cases rest <;> rfl
      · rw [takeMinus_of_other (by simpa using isMinus)]
        simp only [if_neg isMinus, List.cons_ne_nil, if_false, if_true]
        cases decodeBody encoded (c :: rest) <;> rfl

theorem length_bodyOf_le (encoded : Text) : (bodyOf encoded).length ≤ encoded.length := by
  have parts := takeMinus_append (withoutCrosses (Text.trim encoded))
  calc
    (bodyOf encoded).length ≤ (withoutCrosses (Text.trim encoded)).length := by
      rw [← parts, List.length_append]
      exact Nat.le_add_left _ _
    _ ≤ (Text.trim encoded).length := List.length_filter_le _ _
    _ ≤ encoded.length := (Text.trimBy_isInfix Text.isBlank encoded).length_le

theorem decodeBody_cases {body : Text} (filled : body ≠ [])
    (short : body.length ≤ Decimal.digitLimit) (encoded : Text) :
    IsBody body ∧ (∃ number, decodeBody encoded body = .ok number) ∨
      ¬ IsBody body ∧ ∃ fault, decodeBody encoded body = .error (.number fault) := by
  by_cases point : '.' ∈ body
  · rcases List.eq_append_cons_of_mem point with ⟨whole, fraction, rfl, noPoint⟩
    rw [List.length_append] at short
    exact decodeBody_of_first_point noPoint (by omega) encoded
  · exact decodeBody_of_no_point filled point encoded

theorem not_isBody_nil : ¬ IsBody [] := by
  intro isBody
  rcases (isBody_iff_of_no_point (by simp)).mp isBody with ⟨glyph, -, equal⟩ | ⟨number, stands⟩
  · cases equal
  · exact stands.ne_nil rfl

theorem decodeBody_of_standsFor {body : Text} {number : Nat} (stands : StandsFor body number)
    (encoded : Text) : decodeBody encoded body = .ok (.whole number) := by
  have noConstant : ∀ entry ∈ constants, body ≠ [entry.1] := fun entry isConstant =>
    stands.ne_constant (List.mem_map_of_mem isConstant)
  rw [decodeBody_of_whole noConstant stands.no_point, decodeWhole_of_standsFor stands]
  rfl

/-- A text within the digit limit is read exactly if its body is in the grammar, and is refused for
its form otherwise. A form of a whole number is read as that number, negated exactly if there is a
minus mark. -/
theorem decode_grammar (encoded : Text) (short : encoded.length ≤ Decimal.digitLimit) :
    ((∃ number, decode encoded = .ok number) ↔ IsBody (bodyOf encoded)) ∧
    (¬ IsBody (bodyOf encoded) → ∃ fault, decode encoded = .error (.number fault)) ∧
    ∀ number, StandsFor (bodyOf encoded) number →
      decode encoded =
        .ok (.whole (if signOf encoded = [] then (number : Int) else -number)) := by
  rw [decode_eq]
  by_cases empty : bodyOf encoded = []
  · rw [if_pos empty, empty]
    refine ⟨iff_of_false (fun ⟨_, read⟩ => nomatch read) not_isBody_nil, fun _ => ⟨_, rfl⟩, ?_⟩
    exact fun number stands => absurd rfl stands.ne_nil
  rw [if_neg empty]
  have bodyShort := Nat.le_trans (length_bodyOf_le encoded) short
  refine ⟨?_, fun foreign => ?_, fun number stands => ?_⟩
  · rcases decodeBody_cases empty bodyShort encoded with
      ⟨isBody, number, read⟩ | ⟨foreign, _, failed⟩
    · rw [read]
      exact iff_of_true ⟨_, rfl⟩ isBody
    · rw [failed]
      exact iff_of_false (fun ⟨_, read⟩ => nomatch read) foreign
  · rcases decodeBody_cases empty bodyShort encoded with ⟨isBody, -⟩ | ⟨-, fault, failed⟩
    · exact absurd isBody foreign
    · rw [failed]
      exact ⟨fault, rfl⟩
  · rw [decodeBody_of_standsFor stands]
    by_cases unsigned : signOf encoded = []
    · simp only [if_pos unsigned]
      rfl
    · simp only [if_neg unsigned]
      rfl

theorem decode_grammar_teen :
    (" ⊗⁻χ⊗ε".toList.length ≤ Decimal.digitLimit ∧ StandsFor (bodyOf " ⊗⁻χ⊗ε".toList) 15 ∧
      decode " ⊗⁻χ⊗ε".toList = .ok (.whole (-15))) ∧
    "⊗π.α".toList.length ≤ Decimal.digitLimit ∧ ¬ IsBody (bodyOf "⊗π.α".toList) ∧
      ∃ fault, decode "⊗π.α".toList = .error (.number fault) := by
  have teenShort : " ⊗⁻χ⊗ε".toList.length ≤ Decimal.digitLimit := by decide
  have constantShort : "⊗π.α".toList.length ≤ Decimal.digitLimit := by decide
  have stands : StandsFor (bodyOf " ⊗⁻χ⊗ε".toList) 15 :=
    .teen (by decide : plainValue? 'ε' = some 5)
  have foreign : ¬ IsBody (bodyOf "⊗π.α".toList) := by
    have noPoint : '.' ∉ ['π'] := by decide
    rw [show bodyOf "⊗π.α".toList = ['π'] ++ '.' :: ['α'] by decide, isBody_point_iff noPoint]
    rintro ⟨⟨number, stands⟩, -⟩
    exact stands.ne_constant (by decide : 'π' ∈ constantGlyphs) rfl
  exact ⟨⟨teenShort, stands, (decode_grammar _ teenShort).2.2 15 stands⟩, constantShort, foreign,
    (decode_grammar _ constantShort).2.1 foreign⟩

end SymbolScript.VectorNumber
