import SymbolScript.Proofs.Construct.Tidy
import SymbolScript.Proofs.Pipeline.Composition
import SymbolScript.Proofs.Pipeline.Stages

/-!
The normal form of what the notation compiles to: no source symbol is left in it and it is tidy, so
neither of the last two passes changes it once more.
-/

namespace SymbolScript

open Construct Text

/-! ## The last passes -/

theorem exists_tidy_of_success {options : CompileOptions} {source : Text}
    (succeeded : (compile options source).success = true) :
    ∃ text, (compile options source).javascript = tidy (substituteSymbols text) := by
  rcases (success_compileWith_iff Pass.standard options source).mp succeeded with
    ⟨output, composed⟩
  rcases compileWith_of_ok composed with ⟨lines, _, outcome⟩
  have parts : Pass.standard = Pass.standard.take 8 ++
      [.total "substitute_symbols" substituteSymbols, .total "cleanup" tidy] := rfl
  rw [parts] at composed
  rcases exists_of_compose_append composed with ⟨text, _, last⟩
  refine ⟨text, ?_⟩
  rw [compile, outcome options]
  exact (Except.ok.inj last).symm

theorem sourceSymbol_not_mem_tidy {entry : Char × String}
    (member : entry ∈ Glossary.sourceSymbols) {text : Text} (absent : entry.1 ∉ text) :
    entry.1 ∉ tidy text := by
  intro inTidy
  have noBracket : ∀ entry ∈ Glossary.sourceSymbols, entry.1 ∉ ['{', '}', '(', ')'] := by
    decide
  rcases List.mem_map.mp ((tidy_sublist text).mem inTidy) with ⟨c, inText, equal⟩
  have other := noBracket entry member
  rw [← equal] at other absent
  unfold plainBracket at other absent
  repeat' split at other
  all_goals simp_all

/-! ## Compilation -/

/-- What a source compiles to holds no source symbol, has JavaScript brackets, and has neither
blanks at its ends, nor spaces or tabs at the ends of its lines, nor three line breaks in a run of
blanks. Substitution and tidying keep it as it is. -/
theorem compile_isNormal (options : CompileOptions) (source : Text)
    (succeeded : (compile options source).success = true) :
    (∀ entry ∈ Glossary.sourceSymbols, entry.1 ∉ (compile options source).javascript) ∧
      IsTidy (compile options source).javascript ∧
      substituteSymbols (compile options source).javascript =
        (compile options source).javascript ∧
      tidy (compile options source).javascript = (compile options source).javascript := by
  rcases exists_tidy_of_success succeeded with ⟨text, output⟩
  rw [output]
  have absent : ∀ entry ∈ Glossary.sourceSymbols, entry.1 ∉ tidy (substituteSymbols text) :=
    fun entry member => sourceSymbol_not_mem_tidy member
      (sourceSymbols_foreign.not_mem_expand text member)
  have isTidy := isTidy_tidy (substituteSymbols text)
  exact ⟨absent, isTidy, Glossary.expand_of_not_mem absent, isTidy.tidy_eq⟩

theorem compile_isNormal_brackets :
    (compile {} "¬ a \n\n \n\n⟦b⟧ ".toList).success = true ∧
      (compile {} "¬ a \n\n \n\n⟦b⟧ ".toList).javascript = "! a\n\n(b)".toList ∧
      (∀ entry ∈ Glossary.sourceSymbols, entry.1 ∉ "! a\n\n(b)".toList) ∧
      IsTidy "! a\n\n(b)".toList ∧
      substituteSymbols "! a\n\n(b)".toList = "! a\n\n(b)".toList ∧
      tidy "! a\n\n(b)".toList = "! a\n\n(b)".toList := by
  have succeeded : (compile {} "¬ a \n\n \n\n⟦b⟧ ".toList).success = true := by decide +kernel
  have output : (compile {} "¬ a \n\n \n\n⟦b⟧ ".toList).javascript = "! a\n\n(b)".toList := by
    decide +kernel
  have normal := compile_isNormal {} "¬ a \n\n \n\n⟦b⟧ ".toList succeeded
  rw [output] at normal
  exact ⟨succeeded, output, normal⟩

end SymbolScript
