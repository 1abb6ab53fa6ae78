import SymbolScript.Proofs.Construct.Import
import SymbolScript.Proofs.Construct.NestedBlock
import SymbolScript.Proofs.Construct.TaggedBlock
import SymbolScript.Proofs.Pipeline.Stages
import SymbolScript.Proofs.Program.Part

/-!
The passes that rewrite one construct each. A pass rewrites the items of its construct and keeps all
others, so after some of the passes a program shows the items of theirs and the source of the rest.
-/

namespace SymbolScript.Program

open Construct Text

/-! ## Stages -/

inductive Stage
  | runtimeImports
  | reactImports
  | states
  | functions
  | components
  | conditionals
deriving DecidableEq

namespace Stage

def marks : Stage → List Char
  | runtimeImports => [ImportSource.runtime.mark]
  | reactImports => [ImportSource.react.mark]
  | states => stateMarks
  | functions => functionTags
  | components => componentTags
  | conditionals => ['∇']

def apply : Stage → Text → Except Failure Text
  | runtimeImports, text => .ok ((imports .runtime).replace (importStatement .runtime) text)
  | reactImports, text => .ok ((imports .react).replace (importStatement .react) text)
  | states, text => rewriteStates text
  | functions, text => .ok (rewriteFunctions text)
  | components, text => .ok (Construct.components.replace componentFunction text)
  | conditionals, text => .ok (rewriteConditionals text)

theorem apply_append_of_unmarked (stage : Stage) {before : Text}
    (unmarked : ∀ c ∈ before, c ∉ stage.marks) {rest done : Text}
    (rewritten : stage.apply rest = .ok done) :
    stage.apply (before ++ rest) = .ok (before ++ done) := by
  cases stage with
  | runtimeImports =>
      cases rewritten
      exact congrArg Except.ok ((imports_startsWith .runtime).replace_append unmarked _ rest)
  | reactImports =>
      cases rewritten
      exact congrArg Except.ok ((imports_startsWith .react).replace_append unmarked _ rest)
  | states =>
      have plain : ∀ c ∈ before, stateHandlers c = none :=
        fun c member => stateHandlers_startWith c (unmarked c member)
      have later := rewriteFrom_offset 0 (0 + before.length) rewritten
      rw [apply, rewriteStates, rewriteBlocks, rewriteFrom_append_of_plain plain, later]
      rfl
  | functions =>
      cases rewritten
      exact congrArg Except.ok (functions_startsWith.replace_append unmarked _ rest)
  | components =>
      cases rewritten
      exact congrArg Except.ok (components_startsWith.replace_append unmarked _ rest)
  | conditionals =>
      cases rewritten
      exact congrArg Except.ok (conditionals_startsWith.replace_append unmarked _ rest)

theorem apply_nil (stage : Stage) : stage.apply [] = .ok [] := by
  cases stage with
  | runtimeImports => exact congrArg Except.ok ((imports .runtime).replace_nil _)
  | reactImports => exact congrArg Except.ok ((imports .react).replace_nil _)
  | states => exact rewriteFrom_nil 0
  | functions => exact congrArg Except.ok (Construct.functions.replace_nil _)
  | components => exact congrArg Except.ok (Construct.components.replace_nil _)
  | conditionals => exact congrArg Except.ok (Construct.conditionals.replace_nil _)

end Stage

def Item.stage? : Item → Option Stage
  | .text _ => none
  | .imports .runtime _ _ => some .runtimeImports
  | .imports .react _ _ => some .reactImports
  | .state _ _ _ _ => some .states
  | .function _ _ _ _ _ => some .functions
  | .component _ _ _ _ _ => some .components
  | .conditional _ _ _ => some .conditionals

def Item.shownAfter (passes : List Stage) (item : Item) : Text :=
  match item.stage? with
  | none => item.rendering
  | some stage => if stage ∈ passes then item.rendering else item.source

/-! ## Lines of a program -/

def IsNextLine (text : Text) : Prop :=
  text = [] ∨ ∃ c rest, text = '\n' :: c :: rest ∧ isBlank c = false ∧ c ≠ '⊘'

theorem IsNextLine.atLineEnd {text : Text} (next : IsNextLine text) : AtLineEnd text := by
  rcases next with rfl | ⟨c, rest, rfl, _, _⟩
  · intro d isHead
    cases isHead
  · intro d isHead
    cases isHead
    rfl

theorem IsNextLine.unmarked {text : Text} (next : IsNextLine text) (c : Char)
    (isHead : (text.dropWhile isBlank).head? = some c) : c ≠ '⊘' := by
  rcases next with rfl | ⟨d, rest, rfl, solid, other⟩
  · cases isHead
  · rw [List.dropWhile_cons_of_pos (by decide), List.dropWhile_cons_of_neg (by simp [solid]),
      List.head?_cons, Option.some.injEq] at isHead
    rwa [← isHead]

def Rewrites (pass : Text → Except Failure Text) (before after : Text) : Prop :=
  ∀ rest done, IsNextLine rest → pass rest = .ok done → pass (before ++ rest) = .ok (after ++ done)

theorem Rewrites.join {pass : Text → Except Failure Text} (empty : pass [] = .ok [])
    (breaks : ∀ rest done, pass rest = .ok done → pass ('\n' :: rest) = .ok ('\n' :: done))
    {before after : α → Text} (items : List α)
    (heads : ∀ item, ∃ c rest, before item = c :: rest ∧ isBlank c = false ∧ c ≠ '⊘')
    (each : ∀ item, Rewrites pass (before item) (after item)) :
    pass (Text.join "\n" (items.map before)) = .ok (Text.join "\n" (items.map after)) := by
  induction items with
  | nil => exact empty
  | cons first rest induction =>
      cases rest with
      | nil =>
          have alone := each first [] [] (.inl rfl) empty
          rwa [List.append_nil, List.append_nil, ← join_singleton "\n" (before first),
            ← join_singleton "\n" (after first)] at alone
      | cons second rest =>
          rw [List.map_cons, List.map_cons, List.map_cons, List.map_cons, join_char_cons_cons rfl,
            join_char_cons_cons rfl]
          apply each first
          · rcases heads second with ⟨c, tail, shown, solid, other⟩
            rw [shown, join_cons_char]
            exact .inr ⟨c, _, rfl, solid, other⟩
          · exact breaks _ _ induction

end SymbolScript.Program
