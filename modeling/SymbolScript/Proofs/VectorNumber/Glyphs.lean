import SymbolScript.Proofs.VectorNumber.Decoding

/-!
Literals that start with the glyph of a digit: how far they reach, what may follow the glyph, and
which number they stand for where no fraction follows.
-/

namespace SymbolScript.VectorNumber

/-! ## How far they reach -/

/-- A literal that reaches to the end of its text. -/
def IsWholeLiteral (text : Text) : Prop :=
  takeLiteral? text = some (text, [])

instance (text : Text) : Decidable (IsWholeLiteral text) :=
  inferInstanceAs (Decidable (_ = _))

theorem glyphs_no_form : ∀ c ∈ digitGlyphs ++ circledGlyphs,
    (isFreeConstant c || c == hundred) = false ∧ c ≠ hundred ∧ c ≠ 'e' ∧ c ≠ ten ∧ c ≠ minus := by
  decide

theorem takeLiteral?_of_glyph {first : Char} (glyph : isGlyph first = true) (rest : Text) :
    takeLiteral? (cross :: first :: rest) =
      some (cross :: first :: ((takeDigits rest).1 ++ (takeFraction (takeDigits rest).2).1),
        (takeFraction (takeDigits rest).2).2) := by
  rcases glyphs_no_form first (mem_digits_of_isGlyph glyph) with
    ⟨noConstant, -, notEuler, notTen, notMinus⟩
  have noSign : takeMinus (first :: rest) = ([], first :: rest) :=
    takeMinus_of_other (by simpa using notMinus)
  have number : takeWhole? (first :: rest) =
      some (first :: (takeDigits rest).1, (takeDigits rest).2) := by
    unfold takeWhole?
    simp [noConstant, notEuler, notTen, glyph]
  rw [takeLiteral?.eq_def]
  simp [cross, noSign, number]

theorem isWholeLiteral_iff {first : Char} (glyph : isGlyph first = true) (rest : Text) :
    IsWholeLiteral (cross :: first :: rest) ↔ (takeFraction (takeDigits rest).2).2 = [] := by
  have digits := takeDigits_append rest
  have fraction := takeFraction_append (takeDigits rest).2
  rw [IsWholeLiteral, takeLiteral?_of_glyph glyph, Option.some.injEq, Prod.mk.injEq]
  refine ⟨And.right, fun nothing => ⟨?_, nothing⟩⟩
  rw [nothing, List.append_nil] at fraction
  rw [fraction, digits]

theorem isWholeLiteral_of_glyphs {glyphs : Text} (filled : glyphs ≠ [])
    (inside : ∀ c ∈ glyphs, isGlyph c = true) : IsWholeLiteral (cross :: glyphs) := by
  cases glyphs with
  | nil => exact absurd rfl filled
  | cons first rest =>
      rcases List.forall_mem_cons.mp inside with ⟨isFirst, later⟩
      have taken : takeDigits (rest ++ []) = (rest, []) :=
        takeDigits_append_of_stop later (by simp)
      rw [List.append_nil] at taken
      rw [isWholeLiteral_iff isFirst, taken]
      rfl

/-! ## What follows the first glyph -/

inductive GoesOn : Text → Prop
  | nothing : GoesOn []
  | glyph {next : Char} {rest : Text} (isNext : isGlyph next = true) : GoesOn (next :: rest)
  | literal {next : Char} {rest : Text} (isNext : isGlyph next = true)
      (whole : IsWholeLiteral (cross :: next :: rest)) : GoesOn (cross :: next :: rest)
  | fraction {front digits : Text} (crossed : front = [] ∨ front = [cross]) (filled : digits ≠ [])
      (plain : ∀ c ∈ digits, isPlainGlyph c = true) : GoesOn ('.' :: (front ++ digits))

theorem takeFraction_of_left_nil {text : Text} (nothing : (takeFraction text).2 = []) :
    text = [] ∨ IsFraction text := by
  have parts := takeFraction_append text
  rw [nothing, List.append_nil] at parts
  have shape := takeFraction_parts text
  rwa [parts] at shape

theorem IsFraction.goesOn {fraction : Text} (isFraction : IsFraction fraction) :
    GoesOn fraction := by
  cases isFraction with
  | intro crossed filled plain => exact .fraction crossed filled plain

theorem IsFraction.point_mem {fraction : Text} (isFraction : IsFraction fraction) :
    '.' ∈ fraction := by
  cases isFraction with
  | intro => exact List.mem_cons_self

theorem IsWholeLiteral.goesOn {first : Char} {rest : Text} (glyph : isGlyph first = true)
    (whole : IsWholeLiteral (cross :: first :: rest)) : GoesOn rest := by
  rw [isWholeLiteral_iff glyph] at whole
  match rest with
  | [] => exact .nothing
  | next :: rest =>
      by_cases isNext : isGlyph next = true
      · exact .glyph isNext
      by_cases crossed : (next == cross && rest.head?.any isGlyph) = true
      · rcases Bool.and_eq_true_iff.mp crossed with ⟨isCross, anyGlyph⟩
        rw [eq_of_beq isCross] at whole ⊢
        cases rest with
        | nil => cases anyGlyph
        | cons second rest =>
            -- The cross and the glyph behind it are passed over, as at the start of a literal.
            have isSecond : isGlyph second = true := anyGlyph
            have noGlyph : isGlyph cross = false := by decide
            have skipped : (takeDigits (cross :: second :: rest)).2 = (takeDigits rest).2 := by
              simp [takeDigits, isSecond]
            rw [skipped, ← isWholeLiteral_iff isSecond] at whole
            exact .literal isSecond whole
      · have stops : takeDigits (next :: rest) = ([], next :: rest) := by
          rw [takeDigits]
          simp [isNext, crossed]
        rw [stops] at whole
        rcases takeFraction_of_left_nil whole with empty | isFraction
        · cases empty
        · exact isFraction.goesOn

theorem IsWholeLiteral.takeDigits_eq {first : Char} {rest : Text} (glyph : isGlyph first = true)
    (whole : IsWholeLiteral (cross :: first :: rest)) (noPoint : '.' ∉ rest) :
    takeDigits rest = (rest, []) := by
  have parts := takeDigits_append rest
  rw [isWholeLiteral_iff glyph] at whole
  rcases takeFraction_of_left_nil whole with empty | isFraction
  · rw [empty, List.append_nil] at parts
    exact Prod.ext parts empty
  · have inRest := List.mem_append_right (takeDigits rest).1 isFraction.point_mem
    rw [parts] at inRest
    exact absurd inRest noPoint

theorem exists_glyph_of_takeDigits {c : Char} {rest : Text}
    (taken : takeDigits (c :: rest) = (c :: rest, [])) :
    ∃ glyph ∈ c :: rest, isGlyph glyph = true := by
  by_cases isFirst : isGlyph c = true
  · exact ⟨c, List.mem_cons_self, isFirst⟩
  rw [takeDigits] at taken
  split at taken
  · next passed =>
    cases rest with
    | nil => simp [isFirst] at passed
    | cons second rest =>
        have isSecond : isGlyph second = true := by
          simp only [isFirst, Bool.false_or, Bool.and_eq_true] at passed
          exact passed.2
        exact ⟨second, by simp, isSecond⟩
  · cases taken

/-! ## Which number they stand for -/

def values (text : Text) : List Nat :=
  text.filterMap value?

theorem values_cons_of_some {c : Char} {value : Nat} (isValue : value? c = some value)
    (rest : Text) : values (c :: rest) = value :: values rest :=
  List.filterMap_cons_some isValue

theorem values_cons_cross (rest : Text) : values (cross :: rest) = values rest := by
  have none : value? cross = none := by decide
  exact List.filterMap_cons_none none

theorem values_lt (text : Text) : ∀ value ∈ values text, value < 10 := by
  intro value member
  rcases List.mem_filterMap.mp member with ⟨c, -, isValue⟩
  exact value?_lt isValue

theorem values_ne_nil {text : Text} {c : Char} (member : c ∈ text) (glyph : isGlyph c = true) :
    values text ≠ [] := by
  rcases Option.isSome_iff_exists.mp glyph with ⟨value, isValue⟩
  exact List.ne_nil_of_mem (List.mem_filterMap.mpr ⟨c, member, isValue⟩)

theorem readGlyphs_withoutCrosses {text : Text}
    (inside : ∀ c ∈ text, isGlyph c = true ∨ c = cross) (high : Nat) :
    readGlyphs value? high (withoutCrosses text) =
      .ok (Positional.readFrom 10 high (values text)) := by
  induction text generalizing high with
  | nil => rfl
  | cons c rest induction =>
      rcases List.forall_mem_cons.mp inside with ⟨glyph | rfl, later⟩
      · rcases Option.isSome_iff_exists.mp glyph with ⟨value, isValue⟩
        have kept : withoutCrosses (c :: rest) = c :: withoutCrosses rest :=
          List.filter_cons_of_pos (bne_iff_ne.mpr (ne_cross_of_isGlyph glyph))
        rw [kept, readGlyphs, isValue, values_cons_of_some isValue, Positional.readFrom_cons]
        exact induction later (high * 10 + value)
      · rw [values_cons_cross]
        exact induction later high

theorem decode_of_glyphs {first : Char} {rest : Text} (glyph : isGlyph first = true)
    (inside : ∀ c ∈ rest, isGlyph c = true ∨ c = cross) :
    decode (cross :: first :: rest) =
      .ok (.whole (Positional.read 10 (values (first :: rest)))) := by
  have numeral : IsNumeral (first :: rest) := .digits glyph inside
  have noBlank : ∀ c ∈ cross :: ([] ++ (first :: rest ++ [])), Text.isBlank c = false := by
    intro c member
    apply literalChars_not_blank
    by_cases isCross : c = cross
    · rw [isCross]
      decide
    · have inNumeral : c ∈ first :: rest := by simpa [isCross] using member
      exact List.mem_append_right _ (numeral.mem_numeralGlyphs inNumeral isCross)
  have parts := decode_of_parts noBlank (.inl rfl) numeral.withoutCrosses_ne_nil
    fun c member => (numeral.solid c member).2.1
  simp only [List.nil_append, List.append_nil, withoutCrosses_nil, if_true] at parts
  have noConstant : ∀ entry ∈ constants, withoutCrosses (first :: rest) ≠ [entry.1] := by
    intro entry isConstant equal
    refine (numeral.solid entry.1 ?_).1 (List.mem_map_of_mem isConstant)
    rw [equal]
    exact List.mem_singleton_self entry.1
  have noPoint : '.' ∉ withoutCrosses (first :: rest) :=
    fun member => (numeral.solid '.' member).2.2 rfl
  have read : decodeWhole (withoutCrosses (first :: rest)) =
      .ok (Positional.read 10 (values (first :: rest))) := by
    have form := glyphs_no_form first (mem_digits_of_isGlyph glyph)
    have kept : withoutCrosses (first :: rest) = first :: withoutCrosses rest :=
      List.filter_cons_of_pos (bne_iff_ne.mpr (ne_cross_of_isGlyph glyph))
    rw [kept, decodeWhole_of_digit form.2.2.2.1 form.2.1, ← kept]
    exact readGlyphs_withoutCrosses (List.forall_mem_cons.mpr ⟨.inl glyph, inside⟩) 0
  rw [parts, decodeBody_of_whole noConstant noPoint, read]
  rfl

end SymbolScript.VectorNumber
