import SymbolScript.Proofs.Construct.Mark
import SymbolScript.Proofs.Glossary.Basic

/-!
The passes of the notation one after another. Only reading numbers and rewriting nestable blocks
can fail; once they have succeeded the output is fixed. Texts in ASCII pass through all passes
between the reading of numbers and the last tidying.
-/

namespace SymbolScript

open Construct Text

/-! ## The standard passes -/

def finish (text : Text) : Text :=
  tidy (substituteSymbols (rewriteConditionals (rewriteStyles
    (rewriteComponents (rewriteFunctions text)))))

theorem compile_of_stages (options : CompileOptions) {source decoded literal stated : Text}
    (numbers : decodeNumbers source = .ok decoded)
    (literals : rewriteLiterals decoded = .ok literal)
    (states : rewriteStates (rewriteImports literal) = .ok stated) :
    (compile options source).success = true ∧
      (compile options source).javascript = finish stated := by
  have result : (runPasses Pass.standard source).result = .ok (finish stated) := by
    simp only [Pass.standard, Pass.total, runPasses, numbers, literals, states, finish]
  rw [compile, compileWith, result]
  exact ⟨rfl, rfl⟩

/-! ## Texts in ASCII -/

theorem sourceSymbols_foreign : Glossary.sourceSymbols.IsForeign := by
  decide

theorem substituteSymbols_of_ascii {text : Text} (ascii : IsAscii text) :
    substituteSymbols text = text :=
  sourceSymbols_foreign.expand_of_ascii ascii

theorem unmarked_of_ascii {text : Text} (ascii : IsAscii text) {marks : List Char}
    (foreign : ∀ mark ∈ marks, 128 ≤ mark.toNat) : ∀ c ∈ text, c ∉ marks :=
  fun _ member isMark => ascii.ne_of_mem member (foreign _ isMark) rfl

theorem rewriteBlocks_of_unmarked {handlers : Handlers} {marks : List Char}
    (start : handlers.StartWith marks) {text : Text} (unmarked : ∀ c ∈ text, c ∉ marks) :
    rewriteBlocks handlers text = .ok text :=
  rewriteFrom_of_unmarked (fun c member => start c (unmarked c member)) 0

theorem rewriteImports_of_ascii {text : Text} (ascii : IsAscii text) :
    rewriteImports text = text := by
  have unmarked : ∀ source : ImportSource, ∀ c ∈ text, c ∉ [source.mark] :=
    fun source => unmarked_of_ascii ascii (by cases source <;> decide)
  rw [rewriteImports, (imports_startsWith .runtime).replace_eq_self (unmarked .runtime),
    (imports_startsWith .react).replace_eq_self (unmarked .react)]

theorem finish_of_ascii {text : Text} (ascii : IsAscii text) : finish text = tidy text := by
  have unmarked : ∀ {marks : List Char}, (∀ mark ∈ marks, 128 ≤ mark.toNat) →
      ∀ c ∈ text, c ∉ marks := unmarked_of_ascii ascii
  rw [finish, rewriteFunctions, functions_startsWith.replace_eq_self (unmarked (by decide)),
    rewriteComponents, components_startsWith.replace_eq_self (unmarked (by decide)),
    roots_startsWith.replace_eq_self (unmarked (by decide)),
    rewriteStyles, styledTexts_startsWith.replace_eq_self (unmarked (by decide)),
    styles_startsWith.replace_eq_self (unmarked (by decide)),
    rewriteConditionals, conditionals_startsWith.replace_eq_self (unmarked (by decide)),
    substituteSymbols_of_ascii ascii]

theorem compile_of_ascii (options : CompileOptions) {source decoded : Text}
    (numbers : decodeNumbers source = .ok decoded) (ascii : IsAscii decoded) :
    (compile options source).success = true ∧
      (compile options source).javascript = tidy decoded := by
  have literals : rewriteLiterals decoded = .ok decoded :=
    rewriteBlocks_of_unmarked literalHandlers_startWith (unmarked_of_ascii ascii (by decide))
  have states : rewriteStates (rewriteImports decoded) = .ok decoded := by
    rw [rewriteImports_of_ascii ascii]
    exact rewriteBlocks_of_unmarked stateHandlers_startWith (unmarked_of_ascii ascii (by decide))
  rw [← finish_of_ascii ascii]
  exact compile_of_stages options numbers literals states

end SymbolScript
