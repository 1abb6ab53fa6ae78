import SymbolScript.Proofs.Construct.Composite
import SymbolScript.Proofs.Decimal.Head
import SymbolScript.Proofs.VectorNumber.Boundary

/-!
Texts whose number literals are replaced by decimal numbers. No vector literal is left in them: the
decimal numbers do not complete a cross, a minus mark or a constant that was no literal before. And
the lines of a text are decoded one by one.
-/

namespace SymbolScript.Construct

open Text.Recogniser VectorNumber

/-! ## No literal is left -/

theorem numeralChars_unread : ∀ c ∈ Decimal.numeralChars, c ≠ 'e' →
    startsNumber c = false ∧ c ≠ minus := by
  decide

theorem head_spellVector {literal shown : Text} (spelled : spellVector literal = .ok shown) :
    ∃ c rest, shown = c :: rest ∧ c ≠ 'e' ∧ startsNumber c = false ∧ c ≠ minus := by
  cases read : VectorNumber.decode literal with
  | error failure => simp [spellVector, read, bind, Except.bind] at spelled
  | ok number =>
      simp only [spellVector, read, bind, Except.bind] at spelled
      rcases Decimal.head_spelled spelled with ⟨c, rest, rfl, notEuler⟩
      have isNumeral := Decimal.mem_spelled spelled List.mem_cons_self
      exact ⟨c, rest, rfl, notEuler, numeralChars_unread c isNumeral notEuler⟩

section Decoded

variable {rest done : Text}

theorem takeWhole?_of_decoded (decoded : literals.Replaced spellVector rest done)
    (missing : takeWhole? rest = none) : takeWhole? done = none := by
  cases decoded with
  | empty => rfl
  | @plain c rest done _ later =>
      rw [takeWhole?_cons_eq_none_iff] at missing ⊢
      refine ⟨missing.1, fun isEuler => ?_⟩
      have isLetter := missing.2 isEuler
      cases later with
      | empty => exact isLetter
      | plain => exact isLetter
      | found taken =>
          -- The letter behind `e` is no cross, so that no literal starts with it.
          rcases exists_cross_of_take taken with ⟨tail, rfl⟩
          cases isLetter
  | found _ spelled =>
      rcases head_spellVector spelled with ⟨c, more, rfl, notEuler, noStart, -⟩
      rw [List.cons_append, takeWhole?_cons_eq_none_iff]
      exact ⟨noStart, fun isEuler => absurd isEuler notEuler⟩

theorem takeMinus_of_decoded (decoded : literals.Replaced spellVector rest done) :
    literals.Replaced spellVector (takeMinus rest).2 (takeMinus done).2 := by
  cases decoded with
  | empty => exact .empty
  | @plain c rest done missing later =>
      by_cases isMinus : c = minus
      · subst isMinus
        exact later
      · rw [takeMinus_of_other (by simpa using isMinus),
          takeMinus_of_other (by simpa using isMinus)]
        exact .plain missing later
  | found taken spelled later =>
      rcases head_spellVector spelled with ⟨c, more, rfl, -, -, notMinus⟩
      rcases exists_cross_of_take taken with ⟨tail, rfl⟩
      have crossed : '⊗' ≠ minus := by decide
      rw [takeMinus_of_other (by simpa using crossed),
        takeMinus_of_other (by simpa using notMinus)]
      exact .found taken spelled later

theorem takeLiteral?_cons_of_decoded {c : Char} (missing : takeLiteral? (c :: rest) = none)
    (decoded : literals.Replaced spellVector rest done) : takeLiteral? (c :: done) = none := by
  by_cases isCross : c = '⊗'
  · subst isCross
    rw [takeLiteral?_cross_eq_none_iff] at missing ⊢
    exact takeWhole?_of_decoded (takeMinus_of_decoded decoded) missing
  · exact vectorLiterals_startsWith c done (by simpa using isCross)

theorem takeLiteral?_of_decoded (decoded : literals.Replaced spellVector rest done) {left : Text}
    (isSuffix : left <:+ done) : takeLiteral? left = none := by
  induction decoded with
  | empty =>
      rw [List.suffix_nil.mp isSuffix]
      rfl
  | plain missing later induction =>
      rcases List.suffix_cons_iff.mp isSuffix with rfl | inDone
      · exact takeLiteral?_cons_of_decoded missing later
      · exact induction inDone
  | @found text after shown done literal taken spelled later induction =>
      rcases isSuffix with ⟨front, parts⟩
      rcases List.append_eq_append_iff.mp parts with ⟨inner, rfl, equal⟩ | ⟨inner, rfl, equal⟩
      · cases inner with
        | nil => exact induction (by rw [equal]; exact List.suffix_rfl)
        | cons c inner =>
            have small := spellVector_ascii spelled c (by simp)
            have noCross : c ≠ '⊗' := by
              rintro rfl
              revert small
              decide
            rw [equal]
            exact vectorLiterals_startsWith c _ (by simpa using noCross)
      · exact induction ⟨inner, equal.symm⟩

end Decoded

/-- At no place of a text whose numbers are decoded does a vector literal start. -/
theorem decodeNumbers_no_literal {source result : Text}
    (decoded : decodeNumbers source = .ok result) :
    ∀ rest, rest <:+ result → takeLiteral? rest = none := by
  intro rest isSuffix
  unfold decodeNumbers at decoded
  cases base64 : Base64Number.literals.replaceOr spellBase64
      (composites.replace spellComposite source) with
  | error failure => simp [base64, bind, Except.bind] at decoded
  | ok text =>
      simp only [base64, bind, Except.bind] at decoded
      exact takeLiteral?_of_decoded (literals.replaced_of_replaceOr spellVector decoded) isSuffix

theorem decodeNumbers_no_literal_crosses :
    decodeNumbers "⊗⊗α+⊗⁻⊗∞+⊗eb".toList = .ok "⊗1+⊗⁻Infinity+⊗eb".toList ∧
      ∀ rest, rest <:+ "⊗1+⊗⁻Infinity+⊗eb".toList → takeLiteral? rest = none := by
  have decoded : decodeNumbers "⊗⊗α+⊗⁻⊗∞+⊗eb".toList = .ok "⊗1+⊗⁻Infinity+⊗eb".toList := by
    decide +kernel
  exact ⟨decoded, decodeNumbers_no_literal decoded⟩

/-! ## Line by line -/

/-- Two lines are decoded together exactly if each is decoded by itself, and then line by line. -/
theorem decodeNumbers_lines (first second result : Text) :
    decodeNumbers (first ++ '\n' :: second) = .ok result ↔
      ∃ firstResult secondResult, decodeNumbers first = .ok firstResult ∧
        decodeNumbers second = .ok secondResult ∧
        result = firstResult ++ '\n' :: secondResult := by
  simp only [decodeNumbers, composites_stopAt_newline.replace_append,
    Base64Number.literals_stopAt_newline.replaceOr_append, bind, Except.bind, pure, Except.pure]
  cases Base64Number.literals.replaceOr spellBase64 (composites.replace spellComposite first) with
  | error failure => simp
  | ok firstText =>
      cases Base64Number.literals.replaceOr spellBase64
          (composites.replace spellComposite second) with
      | error failure => simp
      | ok secondText =>
          simp only [literals_stopAt_newline.replaceOr_append, bind, Except.bind, pure, Except.pure]
          cases literals.replaceOr spellVector firstText with
          | error failure => simp
          | ok firstResult =>
              cases literals.replaceOr spellVector secondText with
              | error failure => simp
              | ok secondResult => simp [eq_comm]

end SymbolScript.Construct
