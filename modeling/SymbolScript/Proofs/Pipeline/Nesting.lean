import SymbolScript.Proofs.Base64Number.Literal
import SymbolScript.Proofs.Construct.Import
import SymbolScript.Proofs.Construct.NestedBlock
import SymbolScript.Proofs.Construct.NumberLiteral
import SymbolScript.Proofs.Pipeline.Stages
import SymbolScript.Proofs.VectorNumber.Part

/-!
Well-nested sources compile. Each pass up to the state blocks keeps a text well nested, so the two
passes that look for the end of a block always find it.
-/

namespace SymbolScript.Construct

open Text

/-! ## Numbers -/

theorem isBlockBracket_of_numeral :
    ∀ c ∈ Decimal.numeralChars, isBlockBracket c = false := by
  decide

theorem isBlockBracket_of_vectorLiteral :
    ∀ c ∈ VectorNumber.literalChars, isBlockBracket c = false := by
  decide

theorem isBlockBracket_of_isDigit {c : Char} :
    Text.isDigit c = true → isBlockBracket c = false :=
  isBlockBracket_of_class (by decide)

theorem isBlockBracket_of_base64Digit {c : Char} :
    Base64Number.isDigit c = true → isBlockBracket c = false := by
  have each : ∀ digit ∈ Base64Number.alphabet, isBlockBracket digit = false := by
    rw [Base64Number.alphabet_eq]
    decide
  exact fun known => each c (Base64Number.isDigit_iff.mp known)

theorem isBlockBracket_of_circledValue? {c : Char} {value : Nat}
    (circled : circledValue? c = some value) : isBlockBracket c = false := by
  have outside : ∀ bracket ∈ ['⟨', '{', '⟩', '}'], (circledValue? bracket).isSome = false := by
    decide
  apply isBlockBracket_of_class outside
  rw [circled, Option.isSome_some]

theorem WellNested.replaceComposites {text : Text} (nested : WellNested blockCloser? text) :
    WellNested blockCloser? (composites.replace spellComposite text) := by
  apply nested.replace
  intro text literal after due final taken read
  rcases takeComposite?_parts taken with ⟨glyph, rfl, digits, circled⟩
  have digitsPlain : ∀ c ∈ literal.1, isBlockBracket c = false :=
    fun c member => isBlockBracket_of_isDigit (digits c member)
  have glyphPlain : ∀ c ∈ ['⊗', glyph], isBlockBracket c = false := by
    intro c member
    rcases List.mem_cons.mp member with rfl | isGlyph
    · decide
    · rw [List.mem_singleton.mp isGlyph]
      exact isBlockBracket_of_circledValue? circled
  constructor
  · apply dueAfter?_of_no_bracket
    intro c member
    rcases List.mem_append.mp member with inDigits | inValue
    · exact digitsPlain c inDigits
    · exact isBlockBracket_of_numeral c (Decimal.mem_ofNat inValue)
  · rw [dueAfter?_append_of_no_bracket digitsPlain] at read
    exact (dueAfter?_append_of_no_bracket glyphPlain due after).symm.trans read

theorem WellNested.replaceBase64 {text result : Text} (nested : WellNested blockCloser? text)
    (replaced : Base64Number.literals.replaceOr spellBase64 text = .ok result) :
    WellNested blockCloser? result := by
  apply nested.replaceOr ?_ replaced
  intro text digits after shown due final taken spelled read
  rcases Base64Number.takeLiteral?_parts taken with ⟨rfl, digitsInside⟩
  constructor
  · apply dueAfter?_of_no_bracket
    intro c member
    cases decoded : Base64Number.decode digits with
    | error failure => simp [spellBase64, decoded, bind, Except.bind] at spelled
    | ok number =>
        simp only [spellBase64, decoded, bind, Except.bind] at spelled
        exact isBlockBracket_of_numeral c (Decimal.mem_write spelled member)
  · have digitsPlain : ∀ c ∈ digits, isBlockBracket c = false :=
      fun c member => isBlockBracket_of_base64Digit (digitsInside c member)
    have whole : Base64Number.literal digits ++ after =
        '#' :: '⟨' :: (digits ++ '⟩' :: after) := by
      simp [Base64Number.literal]
    rw [whole, dueAfter?_plain (by decide), dueAfter?_opener rfl,
      dueAfter?_append_of_no_bracket digitsPlain] at read
    exact (dueAfter?_of_closer rfl read).2

theorem WellNested.replaceVectors {text result : Text} (nested : WellNested blockCloser? text)
    (replaced : VectorNumber.literals.replaceOr spellVector text = .ok result) :
    WellNested blockCloser? result := by
  apply nested.replaceOr ?_ replaced
  intro text literal after shown due final taken spelled read
  constructor
  · apply dueAfter?_of_no_bracket
    intro c member
    cases decoded : VectorNumber.decode literal with
    | error failure => simp [spellVector, decoded, bind, Except.bind] at spelled
    | ok number =>
        simp only [spellVector, decoded, bind, Except.bind] at spelled
        exact isBlockBracket_of_numeral c (Decimal.mem_spelled spelled member)
  · have literalPlain : ∀ c ∈ literal, isBlockBracket c = false :=
      fun c member => isBlockBracket_of_vectorLiteral c (VectorNumber.mem_takeLiteral? taken member)
    rw [← (VectorNumber.takeLiteral?_append taken).1,
      dueAfter?_append_of_no_bracket literalPlain] at read
    exact read

theorem WellNested.decodeNumbers {source decoded : Text} (nested : WellNested blockCloser? source)
    (numbers : decodeNumbers source = .ok decoded) : WellNested blockCloser? decoded := by
  have joined := nested.replaceComposites
  unfold Construct.decodeNumbers at numbers
  cases base64 : Base64Number.literals.replaceOr spellBase64
      (composites.replace spellComposite source) with
  | error failure => simp [base64, bind, Except.bind] at numbers
  | ok text =>
      simp only [base64, bind, Except.bind] at numbers
      exact (joined.replaceBase64 base64).replaceVectors numbers

/-! ## Imports -/

theorem filter_importStatement (source : ImportSource) {names : Text}
    (plain : ∀ c ∈ names, isBlockBracket c = false) :
    (importStatement source names).filter isBlockBracket = ['{', '}'] := by
  have list : (parameterList names).filter isBlockBracket = [] := by
    rw [List.filter_eq_nil_iff]
    intro c member
    rcases mem_parameterList member with inSeparator | inNames
    · have separator : ∀ d ∈ ", ".toList, isBlockBracket d = false := by decide
      simp [separator c inSeparator]
    · simp [plain c inNames]
  have head : "import \x7b ".toList.filter isBlockBracket = ['{'] := by decide
  have middle : " \x7d from \"".toList.filter isBlockBracket = ['}'] := by decide
  have module : source.module.toList.filter isBlockBracket = [] := by cases source <;> decide
  have tail : "\";".toList.filter isBlockBracket = [] := by decide
  unfold importStatement
  simp only [List.filter_append, list, head, middle, module, tail]
  rfl

theorem WellNested.replaceImports (source : ImportSource) {text : Text}
    (nested : WellNested blockCloser? text) :
    WellNested blockCloser? ((imports source).replace (importStatement source) text) := by
  apply nested.replace
  intro text names after due final taken read
  change takeImport? source text = some (names, after) at taken
  cases text with
  | nil => cases taken
  | cons mark rest =>
      by_cases marked : mark = source.mark
      · rw [takeImport?, if_pos marked] at taken
        rcases takeEnclosed?_parts taken with ⟨opener, closer, rfl, opens, closes, plain⟩
        have markPlain : isBlockBracket mark = false := by
          rw [marked]
          cases source <;> decide
        rcases Option.ne_none_iff_exists'.mp ((isOpener_iff opener).mp opens) with ⟨ownCloser, pair⟩
        rw [dueAfter?_plain markPlain, dueAfter?_opener pair,
          dueAfter?_append_of_no_bracket plain] at read
        constructor
        · rw [← dueAfter?_filter, filter_importStatement source plain]
          rfl
        · exact (dueAfter?_of_closer closes read).2
      · rw [takeImport?, if_neg marked] at taken
        cases taken

theorem WellNested.rewriteImports {text : Text} (nested : WellNested blockCloser? text) :
    WellNested blockCloser? (rewriteImports text) :=
  (nested.replaceImports .runtime).replaceImports .react

end SymbolScript.Construct

namespace SymbolScript

open Construct

/-- A source with nested brackets whose numbers can be read compiles, and stays well nested up to
the passes that look for the ends of blocks. -/
theorem compile_of_wellNested (options : CompileOptions) {source decoded : Text}
    (nested : WellNested blockCloser? source) (numbers : decodeNumbers source = .ok decoded) :
    (compile options source).success = true ∧ WellNested blockCloser? decoded ∧
      ∃ literal stated, rewriteLiterals decoded = .ok literal ∧
        WellNested blockCloser? literal ∧ WellNested blockCloser? (rewriteImports literal) ∧
        rewriteStates (rewriteImports literal) = .ok stated ∧ WellNested blockCloser? stated := by
  have decodedNested := nested.decodeNumbers numbers
  rcases rewriteBlocks_of_wellNested literalHandlers_keepNesting decodedNested with
    ⟨literal, literals, literalNested⟩
  rcases rewriteBlocks_of_wellNested stateHandlers_keepNesting literalNested.rewriteImports with
    ⟨stated, states, statedNested⟩
  refine ⟨(compile_of_stages options numbers literals states).1, decodedNested, literal, stated,
    literals, literalNested, literalNested.rewriteImports, states, statedNested⟩

theorem compile_of_wellNested_state :
    WellNested blockCloser? "Σ\x7ba:物⟨k:\x7b⊗αβ\x7d⟩,b:文\x7b⟨⟩\x7d\x7d".toList ∧
      (compile {} "Σ\x7ba:物⟨k:\x7b⊗αβ\x7d⟩,b:文\x7b⟨⟩\x7d\x7d".toList).success = true := by
  have nested : WellNested blockCloser? "Σ\x7ba:物⟨k:\x7b⊗αβ\x7d⟩,b:文\x7b⟨⟩\x7d\x7d".toList :=
    (wellNested_iff _).mpr (by decide)
  have numbers : decodeNumbers "Σ\x7ba:物⟨k:\x7b⊗αβ\x7d⟩,b:文\x7b⟨⟩\x7d\x7d".toList =
      .ok "Σ\x7ba:物⟨k:\x7b12\x7d⟩,b:文\x7b⟨⟩\x7d\x7d".toList := by
    decide +kernel
  exact ⟨nested, (compile_of_wellNested {} nested numbers).1⟩

end SymbolScript
