import SymbolScript.Pipeline
import SymbolScript.Proofs.Construct.Block
import SymbolScript.Proofs.Text.Recogniser

/-!
The marks at which constructs start. A text without the marks of a construct is kept by the pass
that rewrites it, and so is every stretch of text without them. All marks lie outside ASCII.
-/

namespace SymbolScript.Construct

open Text

/-! ## Marks of the recognised constructs -/

theorem imports_startsWith (source : ImportSource) : (imports source).StartsWith [source.mark] := by
  intro c rest other
  exact if_neg (by simpa using other)

theorem taggedBlocks_startsWith {isTag isExcluded : Char → Bool} {marks : List Char}
    (complete : ∀ c, isTag c = true → c ∈ marks) :
    (taggedBlocks isTag isExcluded).StartsWith marks := by
  intro c rest other
  exact if_neg fun tag => other (complete c tag)

theorem functions_startsWith : functions.StartsWith ['函', 'λ'] :=
  taggedBlocks_startsWith (by simp [isFunctionTag])

theorem components_startsWith : components.StartsWith ['組', '∆'] :=
  taggedBlocks_startsWith (by simp [isComponentTag])

theorem roots_startsWith : roots.StartsWith ['界', 'Ω'] := by
  intro c rest other
  have noTag : isRootTag c = false := by
    simpa [isRootTag] using other
  change takeRoot? (c :: rest) = none
  unfold takeRoot?
  split
  · next equal =>
    cases equal
    simp [noTag]
  · rfl

theorem takeStyle?_of_unmarked {c : Char} (other : c ∉ ['Φ', '樣']) (rest : Text) :
    takeStyle? (c :: rest) = none := by
  unfold takeStyle?
  split
  · next equal =>
    cases equal
    exact if_neg (by simpa using other)
  · rfl

theorem styles_startsWith : styles.StartsWith ['Φ', '樣'] :=
  fun _ rest other => takeStyle?_of_unmarked other rest

theorem styledTexts_startsWith : styledTexts.StartsWith ['Φ', '樣'] := by
  intro c rest other
  change takeStyledText? (c :: rest) = none
  rw [takeStyledText?, takeStyle?_of_unmarked other]

theorem conditionals_startsWith : conditionals.StartsWith ['∇'] := by
  intro c rest other
  change takeConditional? (c :: rest) = none
  unfold takeConditional?
  split
  · next equal =>
    cases equal
    simp at other
  · rfl

theorem vectorLiterals_startsWith : VectorNumber.literals.StartsWith ['⊗'] := by
  intro c rest other
  change VectorNumber.takeLiteral? (c :: rest) = none
  unfold VectorNumber.takeLiteral?
  split
  · next equal =>
    cases equal
    simp at other
  · rfl

/-! ## Marks of nestable blocks -/

def Handlers.StartWith (handlers : Handlers) (marks : List Char) : Prop :=
  ∀ c, c ∉ marks → handlers c = none

theorem literalHandlers_startWith :
    Handlers.StartWith literalHandlers ['文', '𝕊', '列', '𝔸', '物', '𝕆', '𝔹', 'ℝ', '檔'] := by
  intro c other
  unfold literalHandlers
  split <;> simp_all

theorem stateHandlers_startWith : Handlers.StartWith stateHandlers ['狀', 'Σ'] := by
  intro c other
  unfold stateHandlers
  split <;> simp_all

theorem stateHandlers_of_mem {mark : Char} (marked : mark ∈ ['狀', 'Σ']) :
    stateHandlers mark = some stateObject := by
  rcases List.mem_cons.mp marked with rfl | isSigma
  · rfl
  · rw [List.mem_singleton.mp isSigma]
    rfl

end SymbolScript.Construct
