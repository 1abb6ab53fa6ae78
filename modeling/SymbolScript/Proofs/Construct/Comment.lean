import SymbolScript.Pipeline
import SymbolScript.Proofs.Construct.Balance
import SymbolScript.Proofs.Construct.NestedBlock

/-!
Comment blocks. What stands in a comment is rewritten before it is dropped, so a comment goes away
exactly if all blocks inside it close. Only an opening brace inside it can keep one from closing.
-/

namespace SymbolScript.Construct

theorem blocksClose_of_no_brace (text : Text) (depth : Nat) (noBrace : '{' ∉ text)
    (balanced : IsBalancedFrom '⟨' '⟩' depth text) : BlocksClose literalHandlers text := by
  match text with
  | [] => exact .nil
  | c :: rest =>
      rcases List.ne_and_not_mem_of_not_mem_cons noBrace with ⟨_, noBraceLater⟩
      by_cases noBlock : StartsNoBlock literalHandlers c rest
      · rcases balanced.exists_tail (by decide) with ⟨next, later⟩
        exact .plain noBlock (blocksClose_of_no_brace rest next noBraceLater later)
      · rcases exists_block noBlock with ⟨handler, opener, closer, body, handled, opened, pair⟩
        have plain : c ≠ '⟨' ∧ c ≠ '⟩' := by
          constructor <;> rintro rfl <;> cases handled
        rcases blockCloser?_eq_some pair with ⟨rfl, rfl⟩ | ⟨rfl, rfl⟩
        · -- The end of this block is there because the whole text is balanced.
          rw [opened, isBalancedFrom_plain plain.1 plain.2,
            isBalancedFrom_opener (by decide)] at balanced
          have oneOpen : IsBalancedFrom '⟨' '⟩' (depth + 1 + 0) body := balanced
          rcases oneOpen.exists_split (by decide) with ⟨inner, after, parts, inside, later⟩
          rw [opened, parts, List.mem_cons, List.mem_append, List.mem_cons, not_or, not_or,
            not_or] at noBraceLater
          rcases noBraceLater with ⟨_, noBraceInside, _, noBraceAfter⟩
          have shorter : inner.length < rest.length ∧ after.length < rest.length := by
            rw [opened, parts, List.length_cons, List.length_append, List.length_cons]
            omega
          rw [opened, parts]
          exact .block (by simp [handled]) pair inside
            (blocksClose_of_no_brace inner 0 noBraceInside inside)
            (blocksClose_of_no_brace after depth noBraceAfter later)
        · rw [opened] at noBraceLater
          exact absurd List.mem_cons_self noBraceLater
termination_by text.length

/-- A comment block is a failure exactly if its content is, whose own failure it is then. So it
goes away exactly if all blocks in it close, and in any case if it opens no brace. -/
theorem rewriteLiterals_comment {content : Text} (balanced : IsBalanced '⟨' '⟩' content) :
    rewriteLiterals ('檔' :: '⟨' :: (content ++ ['⟩'])) =
        (rewriteLiterals content).map (fun _ => []) ∧
      (rewriteLiterals ('檔' :: '⟨' :: (content ++ ['⟩'])) = .ok [] ↔
        BlocksClose literalHandlers content) ∧
      ('{' ∉ content → rewriteLiterals ('檔' :: '⟨' :: (content ++ ['⟩'])) = .ok []) := by
  have replaced : rewriteLiterals ('檔' :: '⟨' :: (content ++ ['⟩'])) =
      (rewriteLiterals content).map fun _ => [] := by
    have split := splitClose?_of_isBalanced (by decide) balanced []
    rw [rewriteLiterals, rewriteBlocks, rewriteFrom_of_block rfl rfl split, rewriteFrom_nil,
      rewriteLiterals, rewriteBlocks]
    cases rewriteFrom literalHandlers 0 content <;> rfl
  have removed : rewriteLiterals ('檔' :: '⟨' :: (content ++ ['⟩'])) = .ok [] ↔
      BlocksClose literalHandlers content := by
    rw [replaced, ← exists_rewriteBlocks_iff, rewriteLiterals]
    cases rewriteBlocks literalHandlers content <;> simp [Except.map]
  exact ⟨replaced, removed,
    fun noBrace => removed.mpr (blocksClose_of_no_brace content 0 noBrace balanced)⟩

theorem rewriteLiterals_comment_closed :
    IsBalanced '⟨' '⟩' "\x7d物\x7b文⟨a⟩\x7d".toList ∧
      rewriteLiterals ('檔' :: '⟨' :: ("\x7d物\x7b文⟨a⟩\x7d".toList ++ ['⟩'])) = .ok [] := by
  have balanced : IsBalanced '⟨' '⟩' "\x7d物\x7b文⟨a⟩\x7d".toList := by decide
  have rewritten : rewriteBlocks literalHandlers "\x7d物\x7b文⟨a⟩\x7d".toList =
      .ok "\x7d\x7b\"a\"\x7d".toList := by
    decide +kernel
  have closes := (exists_rewriteBlocks_iff _ _).mp ⟨_, rewritten⟩
  exact ⟨balanced, (rewriteLiterals_comment balanced).2.1.mpr closes⟩

/-- A comment that shows the start of a block keeps the source from compiling. -/
theorem rewriteLiterals_comment_unclosed :
    IsBalanced '⟨' '⟩' "文\x7b".toList ∧
      rewriteLiterals ('檔' :: '⟨' :: ("文\x7b".toList ++ ['⟩'])) =
        .error (.source (.unbalanced '文' 0)) ∧
      (SymbolScript.compile {} ('檔' :: '⟨' :: ("文\x7b".toList ++ ['⟩']))).success = false := by
  decide +kernel

end SymbolScript.Construct
