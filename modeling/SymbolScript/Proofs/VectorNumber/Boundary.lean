import SymbolScript.Proofs.VectorNumber.Literal

/-!
Where vector literals start and where they stop. Whether one starts at a cross is decided by the
character behind the cross and its minus mark, and for the constant `e` by the next one; no literal
reaches beyond the end of its line.
-/

namespace SymbolScript.VectorNumber

open Text (takeRun takeRun_append_cons)

/-! ## Starts -/

/-- The characters with which a number starts behind its sign, apart from the constant `e`. -/
def startsNumber (c : Char) : Bool :=
  isFreeConstant c || c == hundred || c == ten || isGlyph c

theorem takeWhole?_cons_eq_none_iff (c : Char) (rest : Text) :
    takeWhole? (c :: rest) = none ↔
      startsNumber c = false ∧ (c = 'e' → rest.head?.any Char.isAlpha = true) := by
  rw [takeWhole?.eq_def, startsNumber]
  dsimp only
  by_cases constant : (isFreeConstant c || c == hundred) = true
  · simp [constant]
  by_cases isEuler : c = 'e'
  · subst isEuler
    have noStart : (ten : Char) ≠ 'e' ∧ isGlyph 'e' = false := by decide
    simp [constant, noStart, noStart.1.symm]
  by_cases isTen : c = ten
  · subst isTen
    rw [if_neg constant, if_neg isEuler, if_pos rfl]
    refine iff_of_false ?_ fun unstarted => by simp at unstarted
    split
    · split <;> exact Option.some_ne_none _
    · exact Option.some_ne_none _
  · simp [constant, isEuler, isTen]

theorem takeLiteral?_cross_eq_none_iff (rest : Text) :
    takeLiteral? ('⊗' :: rest) = none ↔ takeWhole? (takeMinus rest).2 = none := by
  rw [takeLiteral?]
  rcases takeMinus rest with ⟨sign, afterSign⟩
  dsimp only
  cases takeWhole? afterSign with
  | none => exact iff_of_true rfl rfl
  | some found => exact iff_of_false (Option.some_ne_none _) (Option.some_ne_none _)

theorem exists_cross_of_take {text after literal : Text}
    (taken : takeLiteral? text = some (literal, after)) : ∃ rest, text = '⊗' :: rest := by
  unfold takeLiteral? at taken
  split at taken
  · next rest => exact ⟨rest, rfl⟩
  · cases taken

/-! ## Line ends -/

theorem isGlyph_newline : isGlyph '\n' = false := by decide
theorem isPlainGlyph_newline : isPlainGlyph '\n' = false := by decide

theorem takeDigits_append_newline (text rest : Text) :
    takeDigits (text ++ '\n' :: rest) =
      ((takeDigits text).1, (takeDigits text).2 ++ '\n' :: rest) := by
  induction text with
  | nil =>
      have noCross : ('\n' == cross) = false := by decide
      simp [takeDigits, isGlyph_newline, noCross]
  | cons c text induction =>
      have next : (text ++ '\n' :: rest).head?.any isGlyph = text.head?.any isGlyph := by
        cases text with
        | nil => simpa using isGlyph_newline
        | cons d text => rfl
      rw [List.cons_append, takeDigits, takeDigits, next, induction]
      split <;> rfl

theorem takeWhole?_append_newline (text rest : Text) :
    takeWhole? (text ++ '\n' :: rest) =
      (takeWhole? text).map fun (whole, after) => (whole, after ++ '\n' :: rest) := by
  cases text with
  | nil =>
      have noStart : (isFreeConstant '\n' || '\n' == hundred) = false ∧ '\n' ≠ ten := by decide
      simp [takeWhole?, noStart, isGlyph_newline]
  | cons c text =>
      have next : (text ++ '\n' :: rest).head?.any Char.isAlpha = text.head?.any Char.isAlpha := by
        cases text with
        | nil => rfl
        | cons d text => rfl
      rw [List.cons_append, takeWhole?.eq_def, takeWhole?.eq_def]
      simp only [next, takeDigits_append_newline]
      cases text with
      | nil =>
          simp only [List.nil_append, isPlainGlyph_newline, Bool.false_eq_true, if_false]
          split_ifs <;> rfl
      | cons d text =>
          simp only [List.cons_append]
          split_ifs <;> rfl

theorem takeFraction_of_uncrossed {c : Char} (uncrossed : c ≠ '⊗') (rest : Text) :
    takeFraction ('.' :: c :: rest) =
      if (takeRun isPlainGlyph (c :: rest)).1 = [] then ([], '.' :: c :: rest)
      else ('.' :: (takeRun isPlainGlyph (c :: rest)).1, (takeRun isPlainGlyph (c :: rest)).2) := by
  rw [takeFraction.eq_def]
  split
  · next equal => exact absurd (List.cons.inj (List.cons.inj equal).2).1 uncrossed
  · next equal =>
    cases equal
    rcases takeRun isPlainGlyph (c :: rest) with ⟨_ | ⟨first, digits⟩, after⟩ <;> rfl
  · next other => exact absurd rfl (other _)

theorem takeFraction_append_newline (text rest : Text) :
    takeFraction (text ++ '\n' :: rest) =
      ((takeFraction text).1, (takeFraction text).2 ++ '\n' :: rest) := by
  -- The run of plain glyphs behind the point and its cross decides, and it stops at the newline.
  have run := fun digits : Text => takeRun_append_cons isPlainGlyph_newline digits rest
  cases text with
  | nil => rfl
  | cons c text =>
      by_cases point : c = '.'
      · subst point
        cases text with
        | nil => rfl
        | cons d text =>
            by_cases crossed : d = '⊗'
            · subst crossed
              simp only [List.cons_append, takeFraction, run]
              rcases takeRun isPlainGlyph text with ⟨_ | ⟨first, digits⟩, after⟩ <;> rfl
            · rw [List.cons_append, List.cons_append, takeFraction_of_uncrossed crossed,
                takeFraction_of_uncrossed crossed, ← List.cons_append, run]
              dsimp only
              split <;> rfl
      · rw [takeFraction_of_no_point (by simpa using point),
          takeFraction_of_no_point (by simpa using point)]

theorem takeMinus_append_newline (text rest : Text) :
    takeMinus (text ++ '\n' :: rest) =
      ((takeMinus text).1, (takeMinus text).2 ++ '\n' :: rest) := by
  cases text with
  | nil => rfl
  | cons c text =>
      by_cases isMinus : c = minus
      · subst isMinus
        rfl
      · rw [takeMinus_of_other (by simpa using isMinus),
          takeMinus_of_other (by simpa using isMinus)]

theorem literals_stopAt_newline : literals.StopsAt '\n' := by
  intro text rest
  change takeLiteral? (text ++ '\n' :: rest) = (takeLiteral? text).map _
  cases text with
  | nil => rfl
  | cons c text =>
      by_cases crossed : c = '⊗'
      · subst crossed
        simp only [List.cons_append, takeLiteral?, takeMinus_append_newline,
          takeWhole?_append_newline]
        cases takeWhole? (takeMinus text).2 with
        | none => rfl
        | some found => simp only [Option.map_some, takeFraction_append_newline]
      · have missed : ∀ more, takeLiteral? (c :: more) = none := by
          intro more
          rw [takeLiteral?.eq_def]
          split
          · next equal => exact absurd (List.cons.inj equal).1 crossed
          · rfl
        rw [List.cons_append, missed, missed]
        rfl

end SymbolScript.VectorNumber
