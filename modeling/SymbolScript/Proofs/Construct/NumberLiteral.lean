import SymbolScript.Construct.NumberLiteral
import SymbolScript.Proofs.Text.Recogniser

/-! Composite numbers: decimal digits that a circled glyph continues. -/

namespace SymbolScript.Construct

open Text

theorem takeComposite?_parts {text digits rest : Text} {value : Nat}
    (taken : takeComposite? text = some ((digits, value), rest)) :
    ∃ glyph, text = digits ++ '⊗' :: glyph :: rest ∧ (∀ c ∈ digits, Text.isDigit c = true) ∧
      circledValue? glyph = some value := by
  unfold takeComposite? at taken
  split at taken
  · next glyph _ run =>
    rcases Option.map_eq_some_iff.mp taken with ⟨_, circled, equal⟩
    cases equal
    rcases takeRun_parts run with ⟨whole, inside⟩
    exact ⟨glyph, whole.symm, inside, circled⟩
  · cases taken

theorem circledValue?_of_ascii {c : Char} (ascii : c.toNat < 128) : circledValue? c = none := by
  have foreign : ∀ glyph ∈ '⑩' :: VectorNumber.circledGlyphs, 128 ≤ glyph.toNat := by decide
  have absent : c ∉ '⑩' :: VectorNumber.circledGlyphs := fun member => by
    have large := foreign c member
    omega
  rw [List.mem_cons, not_or] at absent
  rw [circledValue?, if_neg absent.1, List.idxOf?_eq_none_iff.mpr absent.2]
  rfl

theorem takeComposite?_of_uncircled {text : Text} (uncircled : ∀ c ∈ text, circledValue? c = none) :
    takeComposite? text = none := by
  unfold takeComposite?
  split
  · next d digits c rest run =>
    have member : c ∈ text := by
      rw [← (takeRun_parts run).1]
      simp
    rw [uncircled c member]
    rfl
  · rfl

theorem replaceComposites_of_uncircled {text : Text}
    (uncircled : ∀ c ∈ text, circledValue? c = none) :
    composites.replace spellComposite text = text := by
  apply composites.replace_eq_self
  intro left c right equal
  apply takeComposite?_of_uncircled
  intro d member
  apply uncircled
  rw [equal]
  exact List.mem_append_right left member

theorem composites_stopAt_newline : composites.StopsAt '\n' := by
  intro text rest
  have noDigit : Text.isDigit '\n' = false := by decide
  have noCircle : circledValue? '\n' = none := by decide
  change takeComposite? (text ++ '\n' :: rest) = (takeComposite? text).map _
  rw [takeComposite?, takeComposite?, Text.takeRun_append_cons noDigit]
  rcases Text.takeRun Text.isDigit text with ⟨_ | ⟨d, digits⟩, _ | ⟨c, after⟩⟩
  · rfl
  · rfl
  · rfl
  · by_cases crossed : c = '⊗'
    · subst crossed
      cases after with
      | nil => simp [noCircle]
      | cons glyph after => simp [Function.comp_def]
    · simp [crossed]

end SymbolScript.Construct
