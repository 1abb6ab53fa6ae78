import SymbolScript.Proofs.Construct.NestedBlock

/-!
Trees of literal blocks. A document is a list of plain texts and of literal blocks, which hold
documents of their own, in either kind of brackets and to any depth. Rewriting the text of a
document gives what the document evaluates to from the innermost blocks outwards.
-/

namespace SymbolScript.Construct

/-! ## Trees -/

inductive LiteralForm
  | string
  | array
  | object
  | value
  | comment
deriving DecidableEq

namespace LiteralForm

def marks : LiteralForm → List Char
  | string => ['文', '𝕊']
  | array => ['列', '𝔸']
  | object => ['物', '𝕆']
  | value => ['𝔹', 'ℝ']
  | comment => ['檔']

/-- How a block of this form is written; a comment leaves nothing. -/
def write : LiteralForm → Text → Text
  | string => stringLiteral
  | array => arrayLiteral
  | object => objectLiteral
  | value => Text.trim
  | comment => fun _ => []

theorem literalHandlers_of_mem {form : LiteralForm} {mark : Char} (own : mark ∈ form.marks) :
    literalHandlers mark = some form.write := by
  cases form with
  | string => rcases List.mem_pair.mp own with rfl | rfl <;> rfl
  | array => rcases List.mem_pair.mp own with rfl | rfl <;> rfl
  | object => rcases List.mem_pair.mp own with rfl | rfl <;> rfl
  | value => rcases List.mem_pair.mp own with rfl | rfl <;> rfl
  | comment =>
      rw [List.mem_singleton.mp own]
      rfl

theorem isBlockBracket_of_mem {form : LiteralForm} {mark : Char} (own : mark ∈ form.marks) :
    isBlockBracket mark = false := by
  by_contra bracket
  have handled := literalHandlers_of_mem own
  rw [literalHandlers_keepNesting.unmarked (by simpa using bracket)] at handled
  cases handled

end LiteralForm

inductive BlockBracket
  | angle
  | brace
deriving DecidableEq

namespace BlockBracket

def opener : BlockBracket → Char
  | angle => '⟨'
  | brace => '{'

def closer : BlockBracket → Char
  | angle => '⟩'
  | brace => '}'

theorem blockCloser?_opener (bracket : BlockBracket) :
    blockCloser? bracket.opener = some bracket.closer := by
  cases bracket <;> rfl

end BlockBracket

/-- A part of a document: a text without brackets, or a literal block around a document. -/
inductive LiteralNode
  | text (characters : Text) (plain : ∀ c ∈ characters, isBlockBracket c = false)
  | block (form : LiteralForm) (mark : Char) (own : mark ∈ form.marks) (bracket : BlockBracket)
      (children : List LiteralNode)

namespace LiteralNode

mutual

def render : LiteralNode → Text
  | text characters _ => characters
  | block _ mark _ bracket children =>
    mark :: bracket.opener :: (renderAll children ++ [bracket.closer])

def renderAll : List LiteralNode → Text
  | [] => []
  | node :: rest => render node ++ renderAll rest

end

mutual

def evaluate : LiteralNode → Text
  | text characters _ => characters
  | block form _ _ _ children => form.write (evaluateAll children)

def evaluateAll : List LiteralNode → Text
  | [] => []
  | node :: rest => evaluate node ++ evaluateAll rest

end

example : (block .array '列' (by decide) .angle
    [text "文, ".toList (by decide),
      block .string '𝕊' (by decide) .brace [text "b\"".toList (by decide)]]).evaluate =
    "[文, \"b\\\"\"]".toList := by
  decide +kernel

/-! ## Rewriting the text of a tree -/

theorem head_renderAll (nodes : List LiteralNode) {rest : Text}
    (stop : ∀ c, rest.head? = some c → blockCloser? c = none) :
    ∀ c, (renderAll nodes ++ rest).head? = some c → blockCloser? c = none := by
  induction nodes with
  | nil => exact stop
  | cons node nodes induction =>
      rw [renderAll, List.append_assoc]
      cases node with
      | text characters plain =>
          cases characters with
          | nil => exact induction
          | cons first characters =>
              intro c isHead
              cases isHead
              exact ((isBlockBracket_eq_false_iff first).mp (plain first List.mem_cons_self)).1
      | block form mark own bracket children =>
          intro c isHead
          cases isHead
          exact ((isBlockBracket_eq_false_iff mark).mp (LiteralForm.isBlockBracket_of_mem own)).1

mutual

theorem wellNested_render_append (node : LiteralNode) {rest : Text}
    (nested : WellNested blockCloser? rest) : WellNested blockCloser? (render node ++ rest) := by
  match node with
  | text characters plain => exact nested.append_of_no_bracket plain
  | block form mark own bracket children =>
      have inside : WellNested blockCloser? (renderAll children) := by
        simpa using wellNested_renderAll_append children .nil
      have block := WellNested.block bracket.blockCloser?_opener inside nested
      have markPlain : ∀ c ∈ [mark], isBlockBracket c = false := by
        simpa using LiteralForm.isBlockBracket_of_mem own
      rw [render, List.cons_append, List.cons_append, List.append_assoc]
      exact block.append_of_no_bracket markPlain

theorem wellNested_renderAll_append (nodes : List LiteralNode) {rest : Text}
    (nested : WellNested blockCloser? rest) :
    WellNested blockCloser? (renderAll nodes ++ rest) := by
  match nodes with
  | [] => exact nested
  | node :: nodes =>
      rw [renderAll, List.append_assoc]
      exact wellNested_render_append node (wellNested_renderAll_append nodes nested)

end

theorem wellNested_renderAll (nodes : List LiteralNode) :
    WellNested blockCloser? (renderAll nodes) := by
  simpa using wellNested_renderAll_append nodes .nil

mutual

theorem rewriteLiterals_render_append (node : LiteralNode) {rest done : Text}
    (stop : ∀ c, rest.head? = some c → blockCloser? c = none)
    (rewritten : rewriteLiterals rest = .ok done) :
    rewriteLiterals (render node ++ rest) = .ok (evaluate node ++ done) := by
  match node with
  | text characters plain =>
      have unopened : ∀ c ∈ characters, blockCloser? c = none := fun c member =>
        ((isBlockBracket_eq_false_iff c).mp (plain c member)).1
      rw [rewriteLiterals, rewriteBlocks] at rewritten
      rw [rewriteLiterals, rewriteBlocks, render, rewriteFrom_append_of_unopened unopened stop,
        rewriteFrom_offset 0 _ rewritten]
      rfl
  | block form mark own bracket children =>
      have inside : rewriteLiterals (renderAll children) = .ok (evaluateAll children) := by
        have noBracket : ∀ c, ([] : Text).head? = some c → blockCloser? c = none := by simp
        simpa using rewriteLiterals_renderAll_append children noBracket (rewriteFrom_nil 0)
      have replaced := rewriteBlocks_of_block (LiteralForm.literalHandlers_of_mem own)
        bracket.blockCloser?_opener (wellNested_renderAll children) inside rewritten
      rw [render, evaluate, List.cons_append, List.cons_append, List.append_assoc]
      exact replaced

theorem rewriteLiterals_renderAll_append (nodes : List LiteralNode) {rest done : Text}
    (stop : ∀ c, rest.head? = some c → blockCloser? c = none)
    (rewritten : rewriteLiterals rest = .ok done) :
    rewriteLiterals (renderAll nodes ++ rest) = .ok (evaluateAll nodes ++ done) := by
  match nodes with
  | [] => exact rewritten
  | node :: nodes =>
      have later := rewriteLiterals_renderAll_append nodes stop rewritten
      rw [renderAll, evaluateAll, List.append_assoc, List.append_assoc]
      exact rewriteLiterals_render_append node (head_renderAll nodes stop) later

end

/-- Rewriting the text of a document never fails and gives the value of the document. -/
theorem rewriteLiterals_renderAll (nodes : List LiteralNode) :
    rewriteLiterals (renderAll nodes) = .ok (evaluateAll nodes) := by
  have noBracket : ∀ c, ([] : Text).head? = some c → blockCloser? c = none := by simp
  simpa using rewriteLiterals_renderAll_append nodes noBracket (rewriteFrom_nil 0)

end LiteralNode

end SymbolScript.Construct
