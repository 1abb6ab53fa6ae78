import SymbolScript.Proofs.VectorNumber.Literal

/-!
The parts of a vector literal. Whatever is cut out of a text as a literal is a cross, a minus mark
or none, a constant or a numeral, and a fraction or none.
-/

namespace SymbolScript.VectorNumber

/-! ## Parts -/

def constantGlyphs : Text :=
  constants.map (·.1)

inductive IsNumeral : Text → Prop
  | ten : IsNumeral [ten]
  | teen {unit : Char} (plain : isPlainGlyph unit = true) : IsNumeral [VectorNumber.ten, unit]
  | hundred : IsNumeral [hundred]
  | digits {first : Char} {rest : Text} (glyph : isGlyph first = true)
      (inside : ∀ c ∈ rest, isGlyph c = true ∨ c = cross) : IsNumeral (first :: rest)

inductive IsFraction : Text → Prop
  | intro {front digits : Text} (crossed : front = [] ∨ front = [cross]) (filled : digits ≠ [])
      (plain : ∀ c ∈ digits, isPlainGlyph c = true) : IsFraction ('.' :: (front ++ digits))

/-! ## What is taken -/

theorem mem_takeDigits {text : Text} {c : Char} (member : c ∈ (takeDigits text).1) :
    isGlyph c = true ∨ c = cross := by
  induction text with
  | nil => cases member
  | cons head rest induction =>
      unfold takeDigits at member
      split at member
      · next taken =>
        rcases List.mem_cons.mp member with rfl | later
        · rcases Bool.or_eq_true_iff.mp taken with glyph | isCross
          · exact .inl glyph
          · exact .inr (eq_of_beq (Bool.and_eq_true_iff.mp isCross).1)
        · exact induction later
      · cases member

theorem mem_constantGlyphs_of_isFreeConstant {c : Char} (free : isFreeConstant c = true) :
    c ∈ constantGlyphs := by
  have each : ∀ glyph ∈ "π∞⊤⊥½¼¾⅓⅔⑩".toList, glyph ∈ constantGlyphs := by decide
  exact each c (List.contains_iff_mem.mp free)

theorem takeWhole?_parts {text whole after : Text} (taken : takeWhole? text = some (whole, after)) :
    (∃ glyph ∈ constantGlyphs, whole = [glyph]) ∨ IsNumeral whole := by
  cases text with
  | nil => cases taken
  | cons head rest =>
      rw [takeWhole?.eq_def] at taken
      simp only at taken
      split at taken
      · next single =>
        cases taken
        rcases Bool.or_eq_true_iff.mp single with free | isHundred
        · exact .inl ⟨head, mem_constantGlyphs_of_isFreeConstant free, rfl⟩
        · rw [eq_of_beq isHundred]
          exact .inr .hundred
      · split at taken
        · next isEuler =>
          split at taken
          · cases taken
          · cases taken
            exact .inl ⟨head, by rw [isEuler]; decide, rfl⟩
        · split at taken
          · next isTen =>
            split at taken
            · split at taken
              · next plain =>
                cases taken
                rw [isTen]
                exact .inr (.teen plain)
              · cases taken
                rw [isTen]
                exact .inr .ten
            · cases taken
              rw [isTen]
              exact .inr .ten
          · split at taken
            · next glyph =>
              cases taken
              exact .inr (.digits glyph fun c member => mem_takeDigits member)
            · cases taken

theorem takeFraction_parts (text : Text) :
    (takeFraction text).1 = [] ∨ IsFraction (takeFraction text).1 := by
  unfold takeFraction
  split
  · split
    · exact .inl rfl
    · next digits after filled run =>
      have plain := (Text.takeRun_parts run).2
      exact .inr (.intro (.inr rfl) (fun empty => filled (by rw [empty])) plain)
  · split
    · exact .inl rfl
    · next digits after filled run =>
      have plain := (Text.takeRun_parts run).2
      exact .inr (.intro (.inl rfl) (fun empty => filled (by rw [empty])) plain)
  · exact .inl rfl

theorem takeMinus_parts (text : Text) :
    (takeMinus text).1 = [] ∨ (takeMinus text).1 = [minus] := by
  unfold takeMinus
  split
  · exact .inr rfl
  · exact .inl rfl

theorem takeLiteral?_parts {text found after : Text}
    (taken : takeLiteral? text = some (found, after)) :
    ∃ sign whole fraction, found = cross :: (sign ++ (whole ++ fraction)) ∧
      (sign = [] ∨ sign = [minus]) ∧
      ((∃ glyph ∈ constantGlyphs, whole = [glyph]) ∨ IsNumeral whole) ∧
      (fraction = [] ∨ IsFraction fraction) := by
  unfold takeLiteral? at taken
  split at taken
  · next rest =>
    simp only at taken
    split at taken
    · cases taken
    · next whole afterWhole run =>
      cases taken
      refine ⟨(takeMinus rest).1, whole, (takeFraction afterWhole).1, ?_, takeMinus_parts rest,
        takeWhole?_parts run, takeFraction_parts afterWhole⟩
      rw [List.cons_append, List.cons_append, List.append_assoc]
      rfl
  · cases taken

/-! ## Characters -/

def numeralGlyphs : Text :=
  ten :: hundred :: (digitGlyphs ++ circledGlyphs)

def literalChars : Text :=
  ['⊗', '⁻', '.'] ++ constantGlyphs ++ numeralGlyphs

theorem mem_digits_of_isGlyph {c : Char} (glyph : isGlyph c = true) :
    c ∈ digitGlyphs ++ circledGlyphs := by
  by_contra absent
  rw [isGlyph_of_not_mem absent] at glyph
  cases glyph

theorem mem_of_isGlyph {c : Char} (glyph : isGlyph c = true) : c ∈ numeralGlyphs :=
  List.mem_cons_of_mem ten (List.mem_cons_of_mem hundred (mem_digits_of_isGlyph glyph))

theorem IsNumeral.mem_numeralGlyphs {whole : Text} (numeral : IsNumeral whole) {c : Char}
    (member : c ∈ whole) (notCross : c ≠ cross) : c ∈ numeralGlyphs := by
  cases numeral with
  | ten =>
      rw [List.mem_singleton.mp member]
      exact List.mem_cons_self
  | teen plain =>
      rcases List.mem_pair.mp member with rfl | rfl
      · exact List.mem_cons_self
      · exact mem_of_isGlyph (isGlyph_of_isPlainGlyph plain)
  | hundred =>
      rw [List.mem_singleton.mp member]
      exact List.mem_cons_of_mem _ List.mem_cons_self
  | digits glyph inside =>
      rcases List.mem_cons.mp member with rfl | later
      · exact mem_of_isGlyph glyph
      · rcases inside c later with isDigit | isCross
        · exact mem_of_isGlyph isDigit
        · exact absurd isCross notCross

theorem mem_takeLiteral? {text found after : Text} (taken : takeLiteral? text = some (found, after))
    {c : Char} (member : c ∈ found) : c ∈ literalChars := by
  have marks : ∀ mark ∈ [cross, minus, '.'], mark ∈ literalChars := by decide
  have glyph : c ∈ numeralGlyphs → c ∈ literalChars := List.mem_append_right _
  rcases takeLiteral?_parts taken with ⟨sign, whole, fraction, rfl, signed, number, ending⟩
  rcases List.mem_cons.mp member with rfl | member
  · exact marks cross (by simp)
  rcases List.mem_append.mp member with inSign | member
  · rcases signed with rfl | rfl
    · cases inSign
    · exact marks c (by simp [List.mem_singleton.mp inSign])
  rcases List.mem_append.mp member with inWhole | inFraction
  · rcases number with ⟨constant, isConstant, rfl⟩ | numeral
    · rw [List.mem_singleton.mp inWhole]
      exact List.mem_append_left _ (List.mem_append_right _ isConstant)
    · by_cases isCross : c = cross
      · exact marks c (by simp [isCross])
      · exact glyph (numeral.mem_numeralGlyphs inWhole isCross)
  · rcases ending with rfl | ⟨crossed, _, plain⟩
    · cases inFraction
    · rcases List.mem_cons.mp inFraction with rfl | inDigits
      · exact marks '.' (by simp)
      · rcases List.mem_append.mp inDigits with inFront | inDigits
        · rcases crossed with rfl | rfl
          · cases inFront
          · exact marks c (by simp [List.mem_singleton.mp inFront])
        · exact glyph (mem_of_isGlyph (isGlyph_of_isPlainGlyph (plain c inDigits)))

end SymbolScript.VectorNumber
