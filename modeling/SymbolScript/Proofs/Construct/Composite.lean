import SymbolScript.Proofs.Base64Number.Literal
import SymbolScript.Proofs.Construct.Mark
import SymbolScript.Proofs.Construct.NumberLiteral
import SymbolScript.Proofs.Decimal.Numeral
import SymbolScript.Proofs.VectorNumber.Glyphs

/-!
Decimal digits in front of a vector literal. The digits take the first circled glyph of the literal
with them, so that the rest of it is read apart. The outcome is the digits followed by what the
literal stands for exactly if its rest stands for the same text behind the glyph as within the
literal; a digit that follows the glyph without a cross never does.
-/

namespace SymbolScript.Construct

open Text VectorNumber

/-! ## Vector literals by themselves -/

theorem literalChars_no_mark : ∀ c ∈ literalChars, Text.isDigit c = false ∧ c ≠ '#' := by
  decide

theorem takeComposite?_of_no_digit {c : Char} (noDigit : Text.isDigit c = false) (rest : Text) :
    takeComposite? (c :: rest) = none := by
  simp [takeComposite?, Text.takeRun, noDigit]

theorem replaceComposites_of_literalChars {text : Text} (inside : ∀ c ∈ text, c ∈ literalChars) :
    composites.replace spellComposite text = text := by
  apply composites.replace_eq_self
  rintro left c right rfl
  exact takeComposite?_of_no_digit (literalChars_no_mark c (inside c (by simp))).1 right

theorem decodeNumbers_of_literalChars {text : Text} (inside : ∀ c ∈ text, c ∈ literalChars) :
    decodeNumbers text = literals.replaceOr spellVector text := by
  have noMark : ∀ c ∈ text, c ∉ ['#'] := fun c member isMark =>
    (literalChars_no_mark c (inside c member)).2 (List.mem_singleton.mp isMark)
  rw [decodeNumbers, replaceComposites_of_literalChars inside]
  simp only [Base64Number.literals_startsWith.replaceOr_eq_self spellBase64 noMark, bind,
    Except.bind]

theorem replaceOr_of_whole {text : Text} (whole : IsWholeLiteral text) :
    literals.replaceOr spellVector text = spellVector text := by
  rw [literals.replaceOr_of_found spellVector whole]
  cases spellVector text with
  | error failure => rfl
  | ok shown => simp [bind, Except.bind, pure, Except.pure]

theorem decodeNumbers_of_whole {text : Text} (whole : IsWholeLiteral text) :
    decodeNumbers text = spellVector text := by
  rw [decodeNumbers_of_literalChars fun c member => mem_takeLiteral? whole member,
    replaceOr_of_whole whole]

/-! ## Digits in front -/

theorem circledValue?_cases {glyph : Char} {value : Nat}
    (circled : circledValue? glyph = some value) :
    glyph = '⑩' ∧ value = 10 ∨ value? glyph = some value ∧ value ≠ 0 := by
  have noPlain : ∀ c ∈ circledGlyphs, plainValue? c = none := by decide
  unfold circledValue? at circled
  split at circled
  · next isTen =>
    cases circled
    exact .inl ⟨isTen, rfl⟩
  · rcases Option.map_eq_some_iff.mp circled with ⟨position, found, rfl⟩
    rcases List.idxOf?_eq_some_iff.mp found with ⟨inside, isGlyph, -⟩
    have member : glyph ∈ circledGlyphs := isGlyph ▸ List.getElem_mem inside
    exact .inr ⟨by rw [value?, noPlain glyph member, found]; rfl, Nat.succ_ne_zero position⟩

variable {digits tail shown : Text} {glyph : Char} {value : Nat}

theorem takeComposite?_append (filled : digits ≠ [])
    (decimal : ∀ c ∈ digits, Text.isDigit c = true) (circled : circledValue? glyph = some value) :
    takeComposite? (digits ++ '⊗' :: glyph :: tail) = some ((digits, value), tail) := by
  have stop : ∀ c, ('⊗' :: glyph :: tail).head? = some c → Text.isDigit c = false := by
    intro c isHead
    cases isHead
    decide
  rw [takeComposite?, takeRun_append decimal stop]
  cases digits with
  | nil => exact absurd rfl filled
  | cons d digits => simp [circled]

theorem decodeNumbers_composite (filled : digits ≠ [])
    (decimal : ∀ c ∈ digits, Text.isDigit c = true) (circled : circledValue? glyph = some value)
    (inside : ∀ c ∈ tail, c ∈ literalChars) :
    decodeNumbers (digits ++ '⊗' :: glyph :: tail) =
      (literals.replaceOr spellVector tail).map
        ((digits ++ Decimal.ofNat value) ++ ·) := by
  have plain : ∀ c ∈ digits ++ Decimal.ofNat value, c ≠ '#' ∧ c ≠ '⊗' := by
    intro c member
    have noDigit : Text.isDigit '#' = false ∧ Text.isDigit '⊗' = false := by decide
    have noNumeral : '#' ∉ Decimal.numeralChars ∧ '⊗' ∉ Decimal.numeralChars := by decide
    rcases List.mem_append.mp member with inDigits | inValue
    · have isDigit := decimal c inDigits
      constructor <;> rintro rfl <;> simp [noDigit] at isDigit
    · have isNumeral := Decimal.mem_ofNat inValue
      exact ⟨fun equal => noNumeral.1 (equal ▸ isNumeral),
        fun equal => noNumeral.2 (equal ▸ isNumeral)⟩
  have noHash : ∀ c ∈ digits ++ Decimal.ofNat value ++ tail, c ∉ ['#'] := by
    intro c member isHash
    rw [List.mem_singleton.mp isHash] at member
    rcases List.mem_append.mp member with inFront | inTail
    · exact (plain '#' inFront).1 rfl
    · exact (literalChars_no_mark '#' (inside '#' inTail)).2 rfl
  have noCross : ∀ c ∈ digits ++ Decimal.ofNat value, c ∉ ['⊗'] :=
    fun c member isCross => (plain c member).2 (List.mem_singleton.mp isCross)
  have taken : composites.take (digits ++ '⊗' :: glyph :: tail) = some ((digits, value), tail) :=
    takeComposite?_append filled decimal circled
  -- Only the first pass meets the digits; the two after it find no mark in front of the tail.
  have joined : composites.replace spellComposite (digits ++ '⊗' :: glyph :: tail) =
      digits ++ Decimal.ofNat value ++ tail := by
    rw [composites.replace_of_found spellComposite taken,
      replaceComposites_of_literalChars inside]
    rfl
  rw [decodeNumbers, joined]
  simp only [Base64Number.literals_startsWith.replaceOr_eq_self spellBase64 noHash, bind,
    Except.bind]
  exact vectorLiterals_startsWith.replaceOr_append spellVector noCross tail

/-! ## Reading on -/

/-- What follows the glyph of a value reads on to a text: the text is that of the value followed by
what the rest stands for by itself. Nothing follows the glyph, or a literal, or a point in front of
a literal. -/
inductive ReadsOn (value : Nat) : Text → Text → Prop
  | nothing : ReadsOn value [] (Decimal.ofNat value)
  | literal {rest more : Text} (read : spellVector ('⊗' :: rest) = .ok more) :
      ReadsOn value ('⊗' :: rest) (Decimal.ofNat value ++ more)
  | point {rest more : Text} (read : spellVector ('⊗' :: rest) = .ok more) :
      ReadsOn value ('.' :: '⊗' :: rest) (Decimal.ofNat value ++ '.' :: more)

theorem readsOn_literal_iff {rest : Text} :
    ReadsOn value ('⊗' :: rest) shown ↔
      ∃ more, spellVector ('⊗' :: rest) = .ok more ∧ Decimal.ofNat value ++ more = shown := by
  constructor
  · rintro ⟨⟩
    next more read => exact ⟨more, read, rfl⟩
  · rintro ⟨more, read, rfl⟩
    exact .literal read

theorem spellVector_ascii {literal : Text} (spelled : spellVector literal = .ok shown) :
    IsAscii shown := by
  intro c member
  cases read : VectorNumber.decode literal with
  | error failure => simp [spellVector, read, bind, Except.bind] at spelled
  | ok number =>
      simp only [spellVector, read, bind, Except.bind] at spelled
      exact Decimal.numeralChars_ascii c (Decimal.mem_spelled spelled member)

theorem not_ascii_of_glyph (isGlyph : isGlyph glyph = true) (front rest : Text) :
    ¬ IsAscii (front ++ glyph :: rest) := by
  intro ascii
  have small := ascii glyph (List.mem_append_right front List.mem_cons_self)
  rw [isGlyph_of_ascii small] at isGlyph
  cases isGlyph

theorem not_mem_cross_of_isGlyph {c : Char} (glyph : isGlyph c = true) : c ∉ ['⊗'] :=
  fun isCross => ne_cross_of_isGlyph glyph (List.mem_singleton.mp isCross)

theorem not_readsOn_of_glyph {next : Char} {rest : Text} (isNext : isGlyph next = true) :
    ¬ ReadsOn value (next :: rest) shown := by
  have noGlyph : isGlyph '⊗' = false ∧ isGlyph '.' = false := by decide
  intro readsOn
  cases readsOn <;> simp [noGlyph] at isNext

theorem replaceOr_point (rest : Text) :
    literals.replaceOr spellVector ('.' :: rest) =
      (literals.replaceOr spellVector rest).map ('.' :: ·) :=
  literals.replaceOr_of_plain spellVector (vectorLiterals_startsWith '.' rest (by decide))

theorem readsOn_plainFraction_iff {fraction : Text} (filled : fraction ≠ [])
    (glyphs : ∀ c ∈ fraction, isGlyph c = true) (ascii : IsAscii shown) :
    ReadsOn value ('.' :: fraction) shown ↔
      ∃ more, literals.replaceOr spellVector ('.' :: fraction) = .ok more ∧
        Decimal.ofNat value ++ more = shown := by
  cases fraction with
  | nil => exact absurd rfl filled
  | cons next rest =>
      have isNext := glyphs next List.mem_cons_self
      have kept := vectorLiterals_startsWith.replaceOr_eq_self spellVector
        fun c member => not_mem_cross_of_isGlyph (glyphs c member)
      rw [replaceOr_point, kept]
      constructor
      · intro readsOn
        cases readsOn
        exact absurd rfl (ne_cross_of_isGlyph isNext)
      · rintro ⟨more, replaced, rfl⟩
        cases replaced
        have foreign := not_ascii_of_glyph isNext (Decimal.ofNat value ++ ['.']) rest
        rw [List.append_assoc] at foreign
        exact absurd ascii foreign

theorem readsOn_crossedFraction_iff {fraction : Text} (filled : fraction ≠ [])
    (glyphs : ∀ c ∈ fraction, isGlyph c = true) :
    ReadsOn value ('.' :: '⊗' :: fraction) shown ↔
      ∃ more, literals.replaceOr spellVector ('.' :: '⊗' :: fraction) = .ok more ∧
        Decimal.ofNat value ++ more = shown := by
  have whole : IsWholeLiteral ('⊗' :: fraction) := isWholeLiteral_of_glyphs filled glyphs
  rw [replaceOr_point, replaceOr_of_whole whole]
  constructor
  · rintro ⟨⟩
    next more read => exact ⟨'.' :: more, by rw [read]; rfl, rfl⟩
  · rintro ⟨more, replaced, rfl⟩
    cases read : spellVector ('⊗' :: fraction) with
    | error failure => simp [read, Except.map] at replaced
    | ok done =>
        rw [read] at replaced
        cases replaced
        exact .point read

theorem readsOn_iff (goesOn : GoesOn tail) (ascii : IsAscii shown) :
    ReadsOn value tail shown ↔ ∃ more, literals.replaceOr spellVector tail = .ok more ∧
      Decimal.ofNat value ++ more = shown := by
  cases goesOn with
  | nothing =>
      rw [literals.replaceOr_nil]
      constructor
      · rintro ⟨⟩
        exact ⟨[], rfl, List.append_nil _⟩
      · rintro ⟨more, equal, rfl⟩
        cases equal
        rw [List.append_nil]
        exact .nothing
  | @glyph next rest isNext =>
      constructor
      · intro readsOn
        exact absurd readsOn (not_readsOn_of_glyph isNext)
      · rintro ⟨more, replaced, rfl⟩
        rw [literals.replaceOr_of_plain spellVector
          (vectorLiterals_startsWith next rest (not_mem_cross_of_isGlyph isNext))] at replaced
        cases later : literals.replaceOr spellVector rest with
        | error failure => simp [later, Except.map] at replaced
        | ok done =>
            simp only [later, Except.map, Except.ok.injEq] at replaced
            rw [← replaced] at ascii
            exact absurd ascii (not_ascii_of_glyph isNext _ _)
  | @literal next rest isNext whole =>
      rw [replaceOr_of_whole whole]
      exact readsOn_literal_iff
  | @fraction front fraction crossed filled plain =>
      have glyphs : ∀ c ∈ fraction, isGlyph c = true :=
        fun c member => isGlyph_of_isPlainGlyph (plain c member)
      rcases crossed with rfl | rfl
      · exact readsOn_plainFraction_iff filled glyphs ascii
      · exact readsOn_crossedFraction_iff filled glyphs

/-! ## Literals without a point -/

theorem spellVector_of_glyphs {first : Char} {rest : Text} (isFirst : isGlyph first = true)
    (inside : ∀ c ∈ rest, isGlyph c = true ∨ c = cross) :
    spellVector ('⊗' :: first :: rest) =
      Decimal.write (Positional.read 10 (values (first :: rest))) := by
  have read : VectorNumber.decode ('⊗' :: first :: rest) = _ := decode_of_glyphs isFirst inside
  simp only [spellVector, read, bind, Except.bind, Number.spelled]

theorem ofNat_read_eq_map_iff {digit : Nat} {others : List Nat}
    (small : ∀ value ∈ digit :: others, value < 10) :
    Decimal.ofNat (Positional.read 10 (digit :: others)) =
      (digit :: others).map Decimal.digitChar ↔ others = [] ∨ digit ≠ 0 := by
  have isZero : Decimal.digitChar digit = '0' ↔ digit = 0 :=
    ⟨Decimal.digitChar_eq_zero digit (small digit List.mem_cons_self),
      fun zero => by rw [zero]; rfl⟩
  rw [Decimal.ofNat_read small, List.map_cons, Positional.withoutLeadingZeros_eq_self_iff,
    List.map_eq_nil_iff, ne_eq, isZero]

theorem ofNat_digit {digit : Nat} (small : digit < 10) :
    Decimal.ofNat digit = [Decimal.digitChar digit] := by
  rw [Decimal.ofNat, Positional.digits, Positional.digitsOnto, if_pos (.inr small)]
  rfl

theorem isGlyph_or_cross_of_whole {next : Char} {rest : Text} (isNext : isGlyph next = true)
    (whole : IsWholeLiteral ('⊗' :: next :: rest)) (noPoint : '.' ∉ rest) :
    ∀ c ∈ rest, isGlyph c = true ∨ c = cross := by
  intro c member
  have taken : c ∈ (takeDigits rest).1 := by rwa [whole.takeDigits_eq isNext noPoint]
  exact mem_takeDigits taken

theorem values_eq_nil_iff {next : Char} {rest : Text} (isNext : isGlyph next = true)
    (whole : IsWholeLiteral ('⊗' :: next :: rest)) (noPoint : '.' ∉ rest) :
    values rest = [] ↔ rest = [] := by
  refine ⟨fun empty => ?_, fun empty => by rw [empty]; rfl⟩
  cases equal : rest with
  | nil => rfl
  | cons c others =>
      have taken := whole.takeDigits_eq isNext noPoint
      rw [equal] at taken empty
      rcases exists_glyph_of_takeDigits taken with ⟨other, member, isOther⟩
      exact absurd empty (values_ne_nil member isOther)

theorem readsOn_crossed_iff {next : Char} {rest : Text} (isNext : isGlyph next = true)
    (whole : IsWholeLiteral ('⊗' :: next :: rest)) (noPoint : '.' ∉ rest)
    (bounded : Positional.read 10 (values (next :: rest)) < 10 ^ Decimal.digitLimit) :
    ReadsOn value ('⊗' :: next :: rest)
        (Decimal.ofNat value ++ (values (next :: rest)).map Decimal.digitChar) ↔
      rest = [] ∨ value? next ≠ some 0 := by
  rcases Option.isSome_iff_exists.mp isNext with ⟨first, isFirst⟩
  have inside := isGlyph_or_cross_of_whole isNext whole noPoint
  have spelled : spellVector ('⊗' :: next :: rest) =
      .ok (Decimal.ofNat (Positional.read 10 (values (next :: rest)))) := by
    rw [spellVector_of_glyphs isNext inside, Decimal.write_natCast_eq_ok_iff]
    exact ⟨bounded, rfl⟩
  have small := values_lt (next :: rest)
  rw [readsOn_literal_iff, spelled]
  rw [values_cons_of_some isFirst] at small ⊢
  have kept := ofNat_read_eq_map_iff small
  rw [values_eq_nil_iff isNext whole noPoint] at kept
  simpa [isFirst] using kept

theorem readsOn_iff_of_no_point (isValue : value? glyph = some value) (nonzero : value ≠ 0)
    (whole : IsWholeLiteral ('⊗' :: glyph :: tail)) (noPoint : '.' ∉ tail)
    (read : spellVector ('⊗' :: glyph :: tail) = .ok shown) :
    ReadsOn value tail shown ↔ tail = [] ∨ ∃ first rest, tail = '⊗' :: first :: rest ∧
      (rest = [] ∨ value? first ≠ some 0) := by
  have isGlyph : isGlyph glyph = true := Option.isSome_iff_exists.mpr ⟨value, isValue⟩
  have inside := isGlyph_or_cross_of_whole isGlyph whole noPoint
  have small : ∀ digit ∈ value :: values tail, digit < 10 :=
    List.forall_mem_cons.mpr ⟨value?_lt isValue, values_lt tail⟩
  have kept : Decimal.ofNat (Positional.read 10 (value :: values tail)) =
      Decimal.ofNat value ++ (values tail).map Decimal.digitChar := by
    rw [(ofNat_read_eq_map_iff small).mpr (.inr nonzero), ofNat_digit (value?_lt isValue)]
    rfl
  rw [spellVector_of_glyphs isGlyph inside, values_cons_of_some isValue,
    Decimal.write_natCast_eq_ok_iff, kept] at read
  rcases read with ⟨bounded, rfl⟩
  cases whole.goesOn isGlyph with
  | nothing =>
      have alone : ReadsOn value [] (Decimal.ofNat value ++ []) := by
        rw [List.append_nil]
        exact .nothing
      exact iff_of_true alone (.inl rfl)
  | @glyph next rest isNext =>
      have noCross := ne_cross_of_isGlyph isNext
      refine iff_of_false (not_readsOn_of_glyph isNext) ?_
      rintro (empty | ⟨first, rest, equal, -⟩)
      · cases empty
      · exact noCross (List.cons.inj equal).1
  | @literal next rest isNext restWhole =>
      have noPointInRest : '.' ∉ rest := fun member => noPoint (by simp [member])
      rw [values_cons_cross] at bounded ⊢
      -- The rest is a shorter numeral, so it is within the digit limit too.
      have least : Positional.read 10 (values (next :: rest)) ≤
          Positional.read 10 (value :: values (next :: rest)) :=
        Positional.readFrom_le_readFrom (Nat.zero_le (0 * 10 + value)) (values (next :: rest))
      rw [cross, readsOn_crossed_iff isNext restWhole noPointInRest
        (Nat.lt_of_le_of_lt least bounded)]
      simp
  | fraction => exact absurd List.mem_cons_self noPoint

/-! ## The first glyph -/

theorem eq_nil_of_ten (whole : IsWholeLiteral ('⊗' :: '⑩' :: tail))
    (read : spellVector ('⊗' :: '⑩' :: tail) = .ok shown) : tail = [] := by
  have taken : takeLiteral? ('⊗' :: '⑩' :: tail) =
      some ('⊗' :: '⑩' :: (takeFraction tail).1, (takeFraction tail).2) := rfl
  have nothing : (takeFraction tail).2 = [] := by
    have ends := taken.symm.trans whole
    simp only [Option.some.injEq, Prod.mk.injEq] at ends
    exact ends.2
  rcases takeFraction_of_left_nil nothing with empty | isFraction
  · exact empty
  · have noBlank : ∀ c ∈ '⊗' :: '⑩' :: tail, Text.isBlank c = false :=
      fun c member => literalChars_not_blank c (mem_takeLiteral? whole member)
    have irregular : IsConstantWithFraction ('⊗' :: '⑩' :: tail) :=
      @IsConstantWithFraction.intro [] '⑩' tail (.inl rfl) (by decide) isFraction
    rcases irregular.decode_eq_error noBlank with ⟨glyph, -, refused⟩
    simp [spellVector, refused, bind, Except.bind] at read

theorem spellVector_ten : spellVector ['⊗', '⑩'] = .ok (Decimal.ofNat 10) := by
  decide +kernel

theorem goesOn_of_circled (circled : circledValue? glyph = some value)
    (whole : IsWholeLiteral ('⊗' :: glyph :: tail))
    (read : spellVector ('⊗' :: glyph :: tail) = .ok shown) : GoesOn tail := by
  rcases circledValue?_cases circled with ⟨rfl, rfl⟩ | ⟨isValue, -⟩
  · rw [eq_nil_of_ten whole read]
    exact .nothing
  · exact whole.goesOn (Option.isSome_iff_exists.mpr ⟨value, isValue⟩)

theorem readsOn_iff_of_circled (circled : circledValue? glyph = some value)
    (whole : IsWholeLiteral ('⊗' :: glyph :: tail)) (noPoint : '.' ∉ tail)
    (read : spellVector ('⊗' :: glyph :: tail) = .ok shown) :
    ReadsOn value tail shown ↔ tail = [] ∨ ∃ first rest, tail = '⊗' :: first :: rest ∧
      (rest = [] ∨ value? first ≠ some 0) := by
  rcases circledValue?_cases circled with ⟨rfl, rfl⟩ | ⟨isValue, nonzero⟩
  · have empty := eq_nil_of_ten whole read
    rw [empty, spellVector_ten] at read
    cases read
    rw [empty]
    exact iff_of_true .nothing (.inl rfl)
  · exact readsOn_iff_of_no_point isValue nonzero whole noPoint read

/-! ## When the parts agree with the whole -/

/-- Digits in front of a literal are put in front of what the literal stands for exactly if its
rest reads on from its first glyph. Without a point in it, it does so exactly if the rest is a
literal of its own and has no zeros to lose. -/
theorem decodeNumbers_composite_iff (filled : digits ≠ [])
    (decimal : ∀ c ∈ digits, Text.isDigit c = true) (circled : circledValue? glyph = some value)
    (whole : IsWholeLiteral ('⊗' :: glyph :: tail))
    (read : decodeNumbers ('⊗' :: glyph :: tail) = .ok shown) :
    (decodeNumbers (digits ++ '⊗' :: glyph :: tail) = .ok (digits ++ shown) ↔
      ReadsOn value tail shown) ∧
    ('.' ∉ tail → (ReadsOn value tail shown ↔ tail = [] ∨
      ∃ first rest, tail = '⊗' :: first :: rest ∧ (rest = [] ∨ value? first ≠ some 0))) := by
  rw [decodeNumbers_of_whole whole] at read
  refine ⟨?_, fun noPoint => readsOn_iff_of_circled circled whole noPoint read⟩
  have inside : ∀ c ∈ tail, c ∈ literalChars := fun c member =>
    mem_takeLiteral? whole (List.mem_cons_of_mem '⊗' (List.mem_cons_of_mem glyph member))
  rw [decodeNumbers_composite filled decimal circled inside,
    readsOn_iff (goesOn_of_circled circled whole read) (spellVector_ascii read)]
  cases literals.replaceOr spellVector tail with
  | error failure => simp [Except.map]
  | ok more => simp [Except.map]

theorem decodeNumbers_composite_crossed :
    "12".toList ≠ [] ∧ (∀ c ∈ "12".toList, Text.isDigit c = true) ∧
      circledValue? '①' = some 1 ∧ IsWholeLiteral ('⊗' :: '①' :: "⊗βγ".toList) ∧
      decodeNumbers ('⊗' :: '①' :: "⊗βγ".toList) = .ok "123".toList ∧
      decodeNumbers ("12".toList ++ '⊗' :: '①' :: "⊗βγ".toList) =
        .ok ("12".toList ++ "123".toList) := by
  have filled : "12".toList ≠ [] := by decide
  have decimal : ∀ c ∈ "12".toList, Text.isDigit c = true := by decide
  have circled : circledValue? '①' = some 1 := by decide
  have whole : IsWholeLiteral ('⊗' :: '①' :: "⊗βγ".toList) := by decide
  have read : decodeNumbers ('⊗' :: '①' :: "⊗βγ".toList) = .ok "123".toList := by decide +kernel
  have agrees := decodeNumbers_composite_iff filled decimal circled whole read
  have crossed : ReadsOn 1 "⊗βγ".toList "123".toList :=
    (agrees.2 (by decide)).mpr (.inr ⟨'β', ['γ'], rfl, .inr (by decide)⟩)
  exact ⟨filled, decimal, circled, whole, read, agrees.1.mpr crossed⟩

/-- Digits that follow the first glyph without a cross are left as glyphs. -/
theorem decodeNumbers_composite_uncrossed :
    IsWholeLiteral "⊗①②".toList ∧ decodeNumbers "⊗①②".toList = .ok "12".toList ∧
      decodeNumbers ("5".toList ++ "⊗①②".toList) = .ok "51②".toList ∧
      decodeNumbers ("5".toList ++ "⊗①②".toList) ≠ .ok ("5".toList ++ "12".toList) := by
  decide +kernel

end SymbolScript.Construct
