import Mathlib.Data.List.Infix
import SymbolScript.Proofs.Construct.Block
import SymbolScript.Proofs.Construct.Nesting

/-!
Balanced texts. The end of a block is the closing bracket in front of which the brackets of its
kind are balanced, whatever else the text holds; and the blocks of a text can be rewritten exactly
if each of them has such an end.
-/

namespace SymbolScript.Construct

/-! ## Balance -/

/-- Whether a text closes as many brackets as are open in front of it, besides all that it opens
itself, and no part that it starts with closes more. -/
structure IsBalancedFrom (opener closer : Char) (depth : Nat) (text : Text) : Prop where
  front : ∀ part, part <+: text → part.count closer ≤ part.count opener + depth
  whole : text.count closer = text.count opener + depth

/-- Whether a text closes all brackets of a kind that it opens, and no others. -/
abbrev IsBalanced (opener closer : Char) (text : Text) : Prop :=
  IsBalancedFrom opener closer 0 text

instance (opener closer : Char) (depth : Nat) (text : Text) :
    Decidable (IsBalancedFrom opener closer depth text) :=
  decidable_of_iff ((∀ part ∈ text.inits, part.count closer ≤ part.count opener + depth) ∧
    text.count closer = text.count opener + depth) (by
      simp only [List.mem_inits]
      exact ⟨fun ⟨front, whole⟩ => ⟨front, whole⟩, fun ⟨front, whole⟩ => ⟨front, whole⟩⟩)

example : IsBalanced '⟨' '⟩' "\x7b⟨⟨\x7d⟩⟩".toList ∧ ¬IsBalanced '⟨' '⟩' "⟩⟨".toList := by decide

section Balance

variable {opener closer : Char} {depth : Nat} {rest : Text}

theorem isBalancedFrom_nil : IsBalancedFrom opener closer depth [] ↔ depth = 0 := by
  constructor
  · intro balanced
    simpa using balanced.whole.symm
  · rintro rfl
    exact ⟨fun part inFront => by simp [List.prefix_nil.mp inFront], rfl⟩

theorem isBalanced_of_not_mem {text : Text} (noOpener : opener ∉ text) (noCloser : closer ∉ text) :
    IsBalanced opener closer text where
  front := by
    intro part inFront
    rw [List.count_eq_zero.mpr fun member => noCloser (inFront.subset member)]
    exact Nat.zero_le _
  whole := by
    rw [List.count_eq_zero.mpr noOpener, List.count_eq_zero.mpr noCloser]

theorem isBalancedFrom_cons {c : Char} {next : Nat}
    (step : next + [c].count closer = [c].count opener + depth) :
    IsBalancedFrom opener closer depth (c :: rest) ↔ IsBalancedFrom opener closer next rest := by
  have counts : ∀ (bracket : Char) (text : Text),
      (c :: text).count bracket = [c].count bracket + text.count bracket :=
    fun bracket text => by rw [← List.count_append, List.singleton_append]
  constructor
  · intro balanced
    refine ⟨fun part inFront => ?_, ?_⟩
    · have longer := balanced.front (c :: part) (List.cons_prefix_cons.mpr ⟨rfl, inFront⟩)
      rw [counts closer, counts opener] at longer
      omega
    · have whole := balanced.whole
      rw [counts closer, counts opener] at whole
      omega
  · intro balanced
    refine ⟨fun part inFront => ?_, ?_⟩
    · rcases List.prefix_cons_iff.mp inFront with rfl | ⟨shorter, rfl, inRest⟩
      · simp
      · have inside := balanced.front shorter inRest
        rw [counts closer, counts opener]
        omega
    · have whole := balanced.whole
      rw [counts closer, counts opener]
      omega

theorem isBalancedFrom_opener (different : closer ≠ opener) :
    IsBalancedFrom opener closer depth (opener :: rest) ↔
      IsBalancedFrom opener closer (depth + 1) rest :=
  isBalancedFrom_cons (by simp [different.symm, Nat.add_comm])

theorem isBalancedFrom_inner_closer (different : closer ≠ opener) :
    IsBalancedFrom opener closer (depth + 1) (closer :: rest) ↔
      IsBalancedFrom opener closer depth rest :=
  isBalancedFrom_cons (by simp [different])

theorem isBalancedFrom_plain {c : Char} (noOpener : c ≠ opener) (noCloser : c ≠ closer) :
    IsBalancedFrom opener closer depth (c :: rest) ↔ IsBalancedFrom opener closer depth rest :=
  isBalancedFrom_cons (by simp [noOpener, noCloser])

theorem not_isBalanced_closer (different : closer ≠ opener) :
    ¬IsBalanced opener closer (closer :: rest) := by
  intro balanced
  have first := balanced.front [closer] ⟨rest, rfl⟩
  simp [different] at first

theorem IsBalancedFrom.exists_tail (different : closer ≠ opener) {c : Char}
    (balanced : IsBalancedFrom opener closer depth (c :: rest)) :
    ∃ next, IsBalancedFrom opener closer next rest := by
  by_cases opens : c = opener
  · rw [opens] at balanced
    exact ⟨depth + 1, (isBalancedFrom_opener different).mp balanced⟩
  · by_cases closes : c = closer
    · rw [closes] at balanced
      cases depth with
      | zero => exact absurd balanced (not_isBalanced_closer different)
      | succ outer => exact ⟨outer, (isBalancedFrom_inner_closer different).mp balanced⟩
    · exact ⟨depth, (isBalancedFrom_plain opens closes).mp balanced⟩

theorem IsBalancedFrom.exists_split (different : closer ≠ opener) {text : Text} {inner : Nat}
    (balanced : IsBalancedFrom opener closer (depth + 1 + inner) text) :
    ∃ before after, text = before ++ closer :: after ∧ IsBalancedFrom opener closer inner before ∧
      IsBalancedFrom opener closer depth after := by
  induction text generalizing inner with
  | nil =>
      have nothingOpen := isBalancedFrom_nil.mp balanced
      omega
  | cons c rest induction =>
      by_cases opens : c = opener
      · rw [opens, isBalancedFrom_opener different, Nat.add_assoc] at balanced
        rcases induction balanced with ⟨before, after, parts, inside, later⟩
        refine ⟨c :: before, after, by rw [parts, List.cons_append], ?_, later⟩
        rwa [opens, isBalancedFrom_opener different]
      · by_cases closes : c = closer
        · rw [closes] at balanced ⊢
          cases inner with
          | zero =>
              exact ⟨[], rest, rfl, isBalancedFrom_nil.mpr rfl,
                (isBalancedFrom_inner_closer different).mp balanced⟩
          | succ inner =>
              rcases induction ((isBalancedFrom_inner_closer different).mp balanced) with
                ⟨before, after, parts, inside, later⟩
              exact ⟨closer :: before, after, by rw [parts, List.cons_append],
                (isBalancedFrom_inner_closer different).mpr inside, later⟩
        · rw [isBalancedFrom_plain opens closes] at balanced
          rcases induction balanced with ⟨before, after, parts, inside, later⟩
          refine ⟨c :: before, after, by rw [parts, List.cons_append], ?_, later⟩
          rwa [isBalancedFrom_plain opens closes]

/-! ## The end of a block -/

/-- A text is split at a closing bracket exactly if what stands in front of it closes all that is
open but one bracket. -/
theorem splitClose?_eq_some_iff (different : closer ≠ opener) {text before after : Text} :
    splitClose? opener closer depth text = some (before, after) ↔
      text = before ++ closer :: after ∧ IsBalancedFrom opener closer depth before := by
  induction text generalizing depth before with
  | nil => simp [splitClose?]
  | cons c text induction =>
      -- Every character but the closing bracket that is looked for stands in front of it.
      have inFront : ∀ next, (c = closer → depth ≠ 0) →
          (∀ inner, IsBalancedFrom opener closer depth (c :: inner) ↔
            IsBalancedFrom opener closer next inner) →
          ((splitClose? opener closer next text).map (Prod.map (c :: ·) id) =
            some (before, after) ↔ c :: text = before ++ closer :: after ∧
              IsBalancedFrom opener closer depth before) := by
        intro next notLast step
        rw [Option.map_eq_some_iff, List.cons_eq_append_iff]
        constructor
        · rintro ⟨⟨inner, outer⟩, split, equal⟩
          cases equal
          rcases induction.mp split with ⟨parts, balanced⟩
          exact ⟨.inr ⟨inner, rfl, parts⟩, (step inner).mpr balanced⟩
        · rintro ⟨⟨rfl, isLast⟩ | ⟨inner, rfl, parts⟩, balanced⟩
          · cases isLast
            exact absurd (isBalancedFrom_nil.mp balanced) (notLast rfl)
          · exact ⟨(inner, after), induction.mpr ⟨parts, (step inner).mp balanced⟩, rfl⟩
      by_cases opens : c = opener
      · rw [opens] at inFront ⊢
        rw [splitClose?_opener]
        exact inFront _ (fun closes => absurd closes.symm different)
          fun _ => isBalancedFrom_opener different
      · by_cases closes : c = closer
        · rw [closes] at inFront ⊢
          cases depth with
          | zero =>
              rw [splitClose?_last_closer different, List.cons_eq_append_iff]
              constructor
              · intro split
                cases split
                exact ⟨.inl ⟨rfl, rfl⟩, isBalancedFrom_nil.mpr rfl⟩
              · rintro ⟨⟨rfl, isLast⟩ | ⟨inner, rfl, _⟩, balanced⟩
                · cases isLast
                  rfl
                · exact absurd balanced (not_isBalanced_closer different)
          | succ depth =>
              rw [splitClose?_inner_closer different]
              exact inFront _ (fun _ => Nat.succ_ne_zero depth)
                fun _ => isBalancedFrom_inner_closer different
        · rw [splitClose?_plain opens closes]
          exact inFront _ (fun isCloser => absurd isCloser closes)
            fun _ => isBalancedFrom_plain opens closes

theorem splitClose?_of_isBalanced (different : closer ≠ opener) {inner : Text}
    (balanced : IsBalanced opener closer inner) (after : Text) :
    splitClose? opener closer 0 (inner ++ closer :: after) = some (inner, after) :=
  (splitClose?_eq_some_iff different).mpr ⟨rfl, balanced⟩

theorem WellNested.isBalanced {closer? : Char → Option Char} (pairing : IsPairing closer?)
    (pair : closer? opener = some closer) {text : Text} (nested : WellNested closer? text) :
    IsBalanced opener closer text :=
  ((splitClose?_eq_some_iff (pairing.different pair)).mp
    (splitClose?_of_wellNested pairing pair nested [])).2

end Balance

/-! ## Blocks that close -/

/-- Texts in which every block that rewriting comes upon has an end: those that stand in the text
itself, and then those inside them. -/
inductive BlocksClose (handlers : Handlers) : Text → Prop
  | nil : BlocksClose handlers []
  | plain {c : Char} {rest : Text} (noBlock : StartsNoBlock handlers c rest)
      (later : BlocksClose handlers rest) : BlocksClose handlers (c :: rest)
  | block {mark opener closer : Char} {inner after : Text} (marked : handlers mark ≠ none)
      (pair : blockCloser? opener = some closer) (balanced : IsBalanced opener closer inner)
      (inside : BlocksClose handlers inner) (later : BlocksClose handlers after) :
      BlocksClose handlers (mark :: opener :: (inner ++ closer :: after))

theorem BlocksClose.of_rewriteFrom {handlers : Handlers} {offset : Nat} {text result : Text}
    (rewritten : rewriteFrom handlers offset text = .ok result) : BlocksClose handlers text := by
  apply rewriteFrom_induction .nil ?_ ?_ offset text rewritten
  · intro c rest _ noBlock closes
    exact .plain noBlock closes
  · intro mark opener closer handler rest inner _ after _ handled pair split inside later
    rcases (splitClose?_eq_some_iff (blockCloser?_isPairing.different pair)).mp split with
      ⟨parts, balanced⟩
    rw [parts]
    exact .block (by simp [handled]) pair balanced inside later

theorem BlocksClose.exists_rewriteFrom {handlers : Handlers} {text : Text}
    (closes : BlocksClose handlers text) (offset : Nat) :
    ∃ result, rewriteFrom handlers offset text = .ok result := by
  induction closes generalizing offset with
  | nil => exact ⟨[], rewriteFrom_nil offset⟩
  | @plain c rest noBlock _ induction =>
      rcases induction (offset + 1) with ⟨done, rewritten⟩
      rw [rewriteFrom_of_no_block noBlock, rewritten]
      exact ⟨c :: done, rfl⟩
  | @block mark opener closer inner after marked pair balanced _ _ inside later =>
      rcases Option.ne_none_iff_exists'.mp marked with ⟨handler, handled⟩
      rcases inside 0 with ⟨innerDone, innerRewritten⟩
      rcases later (offset + inner.length + 3) with ⟨afterDone, afterRewritten⟩
      have split := splitClose?_of_isBalanced (blockCloser?_isPairing.different pair) balanced after
      rw [rewriteFrom_of_block handled pair split, innerRewritten, afterRewritten]
      exact ⟨handler innerDone ++ afterDone, rfl⟩

theorem rewriteBlocks_of_balanced {handlers : Handlers} {mark opener closer : Char}
    {handler : Text → Text} (handled : handlers mark = some handler)
    (pair : blockCloser? opener = some closer) {inner innerDone rest done : Text}
    (balanced : IsBalanced opener closer inner)
    (inside : rewriteBlocks handlers inner = .ok innerDone)
    (rewritten : rewriteBlocks handlers rest = .ok done) :
    rewriteBlocks handlers (mark :: opener :: (inner ++ closer :: rest)) =
      .ok (handler innerDone ++ done) := by
  have split := splitClose?_of_isBalanced (blockCloser?_isPairing.different pair) balanced rest
  rw [rewriteBlocks] at inside
  rw [rewriteBlocks, rewriteFrom_of_block handled pair split, inside,
    rewriteFrom_offset 0 _ rewritten]
  rfl

theorem exists_rewriteBlocks_iff (handlers : Handlers) (text : Text) :
    (∃ result, rewriteBlocks handlers text = .ok result) ↔ BlocksClose handlers text := by
  constructor
  · rintro ⟨result, rewritten⟩
    exact .of_rewriteFrom rewritten
  · intro closes
    exact closes.exists_rewriteFrom 0

end SymbolScript.Construct
