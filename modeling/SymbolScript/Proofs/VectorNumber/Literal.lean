import SymbolScript.Proofs.Text.Recogniser
import SymbolScript.Proofs.VectorNumber.RoundTrip
import SymbolScript.VectorNumber.Literal

/-!
Vector literals of integers in a longer text: the literal is cut out where the text after it does
not continue a number.
-/

namespace SymbolScript.VectorNumber

/-! ## Texts that end a number -/

/-- A text in front of which a number of digit glyphs is over: it starts neither with a glyph nor
with a cross, nor with a point and plain digits. -/
structure EndsNumber (rest : Text) : Prop where
  noGlyph : ∀ c, rest.head? = some c → isGlyph c = false ∧ c ≠ cross
  noFraction : takeFraction rest = ([], rest)

theorem isGlyph_of_not_mem {c : Char} (absent : c ∉ digitGlyphs ++ circledGlyphs) :
    isGlyph c = false := by
  rw [List.mem_append, not_or] at absent
  rw [isGlyph, value?, plainValue?, List.idxOf?_eq_none_iff.mpr absent.1,
    List.idxOf?_eq_none_iff.mpr absent.2]
  rfl

theorem isGlyph_of_ascii {c : Char} (ascii : c.toNat < 128) : isGlyph c = false := by
  have foreign : ∀ glyph ∈ digitGlyphs ++ circledGlyphs, 128 ≤ glyph.toNat := by decide
  apply isGlyph_of_not_mem
  intro member
  have large := foreign c member
  omega

theorem isGlyph_of_isPlainGlyph {c : Char} (plain : isPlainGlyph c = true) : isGlyph c = true := by
  rcases Option.isSome_iff_exists.mp plain with ⟨value, found⟩
  rw [isGlyph, value?, found, Option.isSome_some]

theorem isPlainGlyph_of_not_glyph {c : Char} (other : isGlyph c = false) :
    isPlainGlyph c = false := by
  cases plain : isPlainGlyph c with
  | false => rfl
  | true =>
      rw [isGlyph_of_isPlainGlyph plain] at other
      exact other

theorem takeFraction_of_stop {text : Text}
    (stop : ∀ c, text.head? = some c → isPlainGlyph c = false ∧ c ≠ cross) :
    takeFraction ('.' :: text) = ([], '.' :: text) := by
  have noRun : (Text.takeRun isPlainGlyph text).1 = [] := by
    cases text with
    | nil => rfl
    | cons c rest => simp [Text.takeRun, (stop c rfl).1]
  unfold takeFraction
  split
  · next equal =>
    rw [(List.cons.inj equal).2] at stop
    exact absurd rfl (stop '⊗' rfl).2
  · next equal =>
    rw [← (List.cons.inj equal).2]
    split
    · rfl
    · next digits after nonempty run =>
      rw [run] at noRun
      exact absurd noRun nonempty
  · rfl

theorem takeFraction_of_no_point {text : Text} (noPoint : text.head? ≠ some '.') :
    takeFraction text = ([], text) := by
  unfold takeFraction
  split
  · simp at noPoint
  · simp at noPoint
  · rfl

theorem endsNumber_append {text more : Text} (ascii : Text.IsAscii text)
    (separates : text ≠ [] ∧ text ≠ ['.'] ∨ more = []) : EndsNumber (text ++ more) := by
  have stops : ∀ c : Char, c.toNat < 128 → isGlyph c = false ∧ c ≠ cross := by
    intro c small
    refine ⟨isGlyph_of_ascii small, ?_⟩
    rintro rfl
    revert small
    decide
  match text, ascii with
  | [], _ =>
      have empty : more = [] := by simpa using separates
      rw [empty]
      exact ⟨by simp, by simp [takeFraction]⟩
  | [c], ascii =>
      have small := (Text.isAscii_cons c []).mp ascii |>.1
      refine ⟨by simpa using stops c small, ?_⟩
      by_cases point : c = '.'
      · have empty : more = [] := by simpa [point] using separates
        rw [empty, point]
        exact takeFraction_of_stop (by simp)
      · exact takeFraction_of_no_point (by simpa using point)
  | c :: d :: rest, ascii =>
      simp only [Text.isAscii_cons] at ascii
      refine ⟨by simpa using stops c ascii.1, ?_⟩
      by_cases point : c = '.'
      · rw [point]
        apply takeFraction_of_stop
        intro e first
        have isSecond : d = e := by simpa using first
        rw [← isSecond]
        exact ⟨isPlainGlyph_of_not_glyph (stops d ascii.2.1).1, (stops d ascii.2.1).2⟩
      · exact takeFraction_of_no_point (by simpa using point)

/-! ## Cutting out a literal -/

theorem takeDigits_append_of_stop {digits rest : Text} (inside : ∀ c ∈ digits, isGlyph c = true)
    (stop : ∀ c, rest.head? = some c → isGlyph c = false ∧ c ≠ cross) :
    takeDigits (digits ++ rest) = (digits, rest) := by
  induction digits with
  | nil =>
      cases rest with
      | nil => rfl
      | cons c rest =>
          rw [List.nil_append, takeDigits]
          simp [stop c rfl]
  | cons c digits induction =>
      have later := induction fun d member => inside d (List.mem_cons_of_mem c member)
      rw [List.cons_append, takeDigits, later, inside c List.mem_cons_self]
      rfl

theorem digitGlyph_no_constant : ∀ digit < 10,
    (isFreeConstant (digitGlyph digit) || digitGlyph digit == hundred) = false ∧
      digitGlyph digit ≠ 'e' ∧ digitGlyph digit ≠ ten := by
  decide

theorem takeWhole?_of_ten {rest : Text}
    (stop : ∀ c, rest.head? = some c → isPlainGlyph c = false) :
    takeWhole? (ten :: rest) = some ([ten], rest) := by
  cases rest with
  | nil => rfl
  | cons c rest =>
      have noConstant : (isFreeConstant ten || ten == hundred) = false := by decide
      rw [takeWhole?, noConstant]
      simp [stop c rfl, ten]

theorem takeWhole?_of_teen {unit : Char} (plain : isPlainGlyph unit = true) (rest : Text) :
    takeWhole? (ten :: unit :: rest) = some ([ten, unit], rest) := by
  have noConstant : (isFreeConstant ten || ten == hundred) = false := by decide
  rw [takeWhole?, noConstant]
  simp [plain, ten]

theorem takeWhole?_of_digits {c : Char} {digits rest : Text}
    (noConstant : (isFreeConstant c || c == hundred) = false) (notEuler : c ≠ 'e')
    (notTen : c ≠ ten) (inside : ∀ d ∈ c :: digits, isGlyph d = true)
    (stop : ∀ d, rest.head? = some d → isGlyph d = false ∧ d ≠ cross) :
    takeWhole? (c :: (digits ++ rest)) = some (c :: digits, rest) := by
  have later := takeDigits_append_of_stop
    (fun d member => inside d (List.mem_cons_of_mem c member)) stop
  unfold takeWhole?
  simp [noConstant, notEuler, notTen, inside c List.mem_cons_self, later]

theorem WholeForm.takeWhole?_append {number : Nat} {glyphs rest : Text}
    (form : WholeForm number glyphs) (ends : EndsNumber rest) :
    takeWhole? (glyphs ++ rest) = some (glyphs, rest) := by
  cases form with
  | ten =>
      exact takeWhole?_of_ten fun c first =>
        isPlainGlyph_of_not_glyph (ends.noGlyph c first).1
  | teen unit small =>
      have plain : isPlainGlyph (digitGlyph unit) = true := by
        rw [isPlainGlyph, plainValue?_digitGlyph unit small, Option.isSome_some]
      exact takeWhole?_of_teen plain rest
  | hundred => rfl
  | digits =>
      have isGlyph_digit : ∀ digit < 10, isGlyph (digitGlyph digit) = true := by decide
      have inside : ∀ c ∈ (Positional.digits 10 number).map digitGlyph, isGlyph c = true := by
        intro c member
        rcases List.mem_map.mp member with ⟨digit, isDigit, rfl⟩
        exact isGlyph_digit digit (Positional.lt_of_mem_digits (by decide) isDigit)
      cases shown : Positional.digits 10 number with
      | nil => exact absurd shown (Positional.digits_ne_nil 10 number)
      | cons digit others =>
          have small : digit < 10 :=
            Positional.lt_of_mem_digits (by decide) (shown ▸ List.mem_cons_self)
          rcases digitGlyph_no_constant digit small with ⟨noConstant, notEuler, notTen⟩
          rw [shown, List.map_cons] at inside
          exact takeWhole?_of_digits noConstant notEuler notTen inside ends.noGlyph

theorem takeMinus_of_other {text : Text} (other : text.head? ≠ some minus) :
    takeMinus text = ([], text) := by
  unfold takeMinus
  split
  · exact absurd rfl other
  · rfl

theorem takeLiteral?_of_encode {number : Int} {literal rest : Text}
    (written : encode (.whole number) = .ok literal) (ends : EndsNumber rest) :
    takeLiteral? (literal ++ rest) = some (literal, rest) := by
  rcases encode_whole_eq written with ⟨glyphs, form, rfl⟩
  have noFraction := ends.noFraction
  by_cases negative : number < 0
  · rw [if_pos negative]
    simp [takeLiteral?, cross, takeMinus, minus, form.takeWhole?_append ends, noFraction]
  · have noMinus : (glyphs ++ rest).head? ≠ some minus := by
      cases shown : glyphs with
      | nil => exact absurd shown form.ne_nil
      | cons c others =>
          have inGlyphs := form.mem_wholeGlyphs c (shown ▸ List.mem_cons_self)
          simpa using (wholeGlyphs_solid c inGlyphs).2.2.1
    rw [if_neg negative]
    simp [takeLiteral?, cross, takeMinus_of_other noMinus, form.takeWhole?_append ends, noFraction]

end SymbolScript.VectorNumber
