import SymbolScript.Construct.Literal
import SymbolScript.Proofs.Construct.Block
import SymbolScript.Proofs.Construct.Nesting
import SymbolScript.Proofs.Construct.State

/-!
Rewriting the blocks of a well-nested text never fails and gives a well-nested text again, if each
way of writing a block keeps nesting. Those of literal and state blocks do.
-/

namespace SymbolScript.Construct

open Text

/-! ## Rewriting -/

structure Handlers.KeepNesting (handlers : Handlers) : Prop where
  unmarked : ∀ {c}, isBlockBracket c = true → handlers c = none
  written : ∀ {mark handler inner}, handlers mark = some handler →
    WellNested blockCloser? inner → WellNested blockCloser? (handler inner)

theorem rewriteFrom_of_due {handlers : Handlers} (keep : handlers.KeepNesting) (offset : Nat)
    (text : Text) (due : List Char) (read : dueAfter? due text = some []) :
    ∃ result, rewriteFrom handlers offset text = .ok result ∧
      dueAfter? due result = some [] := by
  match text with
  | [] => exact ⟨[], rewriteFrom_nil offset, read⟩
  | c :: rest =>
      by_cases noBlock : StartsNoBlock handlers c rest
      · rw [dueAfter?_cons] at read
        rcases Option.bind_eq_some_iff.mp read with ⟨next, step, readRest⟩
        rcases rewriteFrom_of_due keep (offset + 1) rest next readRest with
          ⟨done, rewritten, readDone⟩
        refine ⟨c :: done, ?_, ?_⟩
        · rw [rewriteFrom_of_no_block noBlock, rewritten]
          rfl
        · rw [dueAfter?_cons, step]
          exact readDone
      · rcases exists_block noBlock with ⟨handler, opener, closer, body, handled, opened, pair⟩
        have plain : isBlockBracket c = false := by
          by_contra bracket
          rw [keep.unmarked (by simpa using bracket)] at handled
          cases handled
        rw [opened, dueAfter?_plain plain, dueAfter?_opener pair] at read
        -- The bracket that closes the block is due first, so the block ends where it should.
        rcases exists_wellNested_before body (closer :: due) read with
          ⟨inner, _, parts, inside, ⟨_, noneDue⟩ | ⟨_, _, after, isDue, rfl, readAfter⟩⟩
        · cases noneDue
        · cases isDue
          have shorter : inner.length < rest.length ∧ after.length < rest.length := by
            rw [opened, parts, List.length_cons, List.length_append, List.length_cons]
            omega
          have split : splitClose? opener closer 0 body = some (inner, after) := by
            rw [parts]
            exact splitClose?_of_wellNested blockCloser?_isPairing pair inside after
          rcases rewriteFrom_of_due keep 0 inner [] ((wellNested_iff inner).mp inside) with
            ⟨innerDone, innerRewritten, innerRead⟩
          rcases rewriteFrom_of_due keep (offset + inner.length + 3) after due readAfter with
            ⟨afterDone, afterRewritten, afterRead⟩
          refine ⟨handler innerDone ++ afterDone, ?_, ?_⟩
          · rw [opened, rewriteFrom_of_block handled pair split, innerRewritten, afterRewritten]
            rfl
          · have written := keep.written handled ((wellNested_iff innerDone).mpr innerRead)
            rw [dueAfter?_append, dueAfter?_of_wellNested written]
            exact afterRead
termination_by text.length
decreasing_by
  · exact Nat.lt_add_one _
  all_goals
    simp only [List.length_cons]
    omega

theorem rewriteBlocks_of_wellNested {handlers : Handlers} (keep : handlers.KeepNesting)
    {text : Text} (nested : WellNested blockCloser? text) :
    ∃ result, rewriteBlocks handlers text = .ok result ∧ WellNested blockCloser? result := by
  rcases rewriteFrom_of_due keep 0 text [] ((wellNested_iff text).mp nested) with
    ⟨result, rewritten, read⟩
  exact ⟨result, rewritten, (wellNested_iff result).mpr read⟩

section Block

variable {handlers : Handlers} {mark : Char} {handler : Text → Text} {inner : Text}

theorem rewriteBlocks_of_block (handled : handlers mark = some handler) {opener closer : Char}
    (pair : blockCloser? opener = some closer) (nested : WellNested blockCloser? inner)
    {innerDone : Text} (inside : rewriteBlocks handlers inner = .ok innerDone) {rest done : Text}
    (rewritten : rewriteBlocks handlers rest = .ok done) :
    rewriteBlocks handlers (mark :: opener :: (inner ++ closer :: rest)) =
      .ok (handler innerDone ++ done) := by
  have split : splitClose? opener closer 0 (inner ++ closer :: rest) = some (inner, rest) :=
    splitClose?_of_wellNested blockCloser?_isPairing pair nested rest
  rw [rewriteBlocks] at inside
  rw [rewriteBlocks, rewriteFrom_of_block handled pair split, inside,
    rewriteFrom_offset 0 _ rewritten]
  rfl

theorem rewriteBlocks_of_plain (handled : handlers mark = some handler)
    (plain : ∀ c ∈ inner, isBlockBracket c = false ∧ handlers c = none) {rest done : Text}
    (rewritten : rewriteBlocks handlers rest = .ok done) :
    rewriteBlocks handlers (mark :: '⟨' :: (inner ++ '⟩' :: rest)) =
      .ok (handler inner ++ done) := by
  have nested : WellNested blockCloser? inner :=
    (wellNested_iff inner).mpr (dueAfter?_of_no_bracket (fun c member => (plain c member).1) [])
  have inside : rewriteBlocks handlers inner = .ok inner :=
    rewriteFrom_of_unmarked (fun c member => (plain c member).2) 0
  exact rewriteBlocks_of_block handled rfl nested inside rewritten

end Block

/-! ## Literal blocks -/

theorem isBlockBracket_of_isBlank {c : Char} : isBlank c = true → isBlockBracket c = false :=
  isBlockBracket_of_class (by decide)

theorem isBlockBracket_of_isComma {c : Char} : isComma c = true → isBlockBracket c = false :=
  isBlockBracket_of_class (by decide)

theorem WellNested.of_filter {text other : Text} (nested : WellNested blockCloser? text)
    (same : other.filter isBlockBracket = text.filter isBlockBracket) :
    WellNested blockCloser? other := by
  rw [wellNested_iff, ← dueAfter?_filter, same, dueAfter?_filter]
  exact (wellNested_iff text).mp nested

theorem filter_itemList (inner : Text) :
    (itemList inner).filter isBlockBracket = inner.filter isBlockBracket := by
  rw [itemList, filter_join (by decide)]
  exact filter_fields (fun _ => isBlockBracket_of_isComma) (fun _ => isBlockBracket_of_isBlank)
    inner

theorem WellNested.trim {inner : Text} (nested : WellNested blockCloser? inner) :
    WellNested blockCloser? (Text.trim inner) :=
  nested.of_filter (filter_trimBy_of_disjoint (fun _ => isBlockBracket_of_isBlank) inner)

theorem WellNested.stringLiteral {inner : Text} (nested : WellNested blockCloser? inner) :
    WellNested blockCloser? (stringLiteral inner) := by
  apply nested.of_filter
  have quote : isBlockBracket '\x22' = false := by decide
  rw [Construct.stringLiteral, List.filter_append, List.filter_cons_of_neg (by simp [quote]),
    filter_replaceChar (by decide)]
  simp [quote]

theorem WellNested.arrayLiteral {inner : Text} (nested : WellNested blockCloser? inner) :
    WellNested blockCloser? (arrayLiteral inner) := by
  apply nested.of_filter
  have brackets : isBlockBracket '[' = false ∧ isBlockBracket ']' = false := by decide
  rw [Construct.arrayLiteral, List.filter_append, List.filter_cons_of_neg (by simp [brackets]),
    filter_itemList]
  simp [brackets]

theorem WellNested.objectLiteral {inner : Text} (nested : WellNested blockCloser? inner) :
    WellNested blockCloser? (objectLiteral inner) :=
  .block rfl (nested.of_filter (filter_itemList inner)) .nil

theorem literalHandlers_keepNesting : Handlers.KeepNesting literalHandlers where
  unmarked := by
    intro c bracket
    rcases (isBlockBracket_iff c).mp bracket with rfl | rfl | rfl | rfl <;> rfl
  written := by
    intro mark handler inner handled nested
    unfold literalHandlers at handled
    split at handled
    · cases handled
      exact nested.stringLiteral
    · cases handled
      exact nested.stringLiteral
    · cases handled
      exact nested.arrayLiteral
    · cases handled
      exact nested.arrayLiteral
    · cases handled
      exact nested.objectLiteral
    · cases handled
      exact nested.objectLiteral
    · cases handled
      exact nested.trim
    · cases handled
      exact nested.trim
    · cases handled
      exact .nil
    · cases handled

/-! ## State blocks -/

theorem filter_stateEntries (declarations : List Text) :
    (declarations.map stateEntry).flatten.filter isBlockBracket =
      declarations.flatten.filter isBlockBracket := by
  induction declarations with
  | nil => rfl
  | cons declaration rest induction =>
      rw [List.map_cons, List.flatten_cons, List.flatten_cons, List.filter_append,
        List.filter_append, filter_stateEntry (fun _ => isBlockBracket_of_isBlank) (by decide),
        induction]

theorem filter_stateObject (inner : Text) :
    (stateObject inner).filter isBlockBracket = '{' :: inner.filter isBlockBracket ++ ['}'] := by
  have entries : (join ",\n" ((fields isComma inner).map stateEntry)).filter isBlockBracket =
      inner.filter isBlockBracket := by
    rw [filter_join (by decide), filter_stateEntries]
    exact filter_fields (fun _ => isBlockBracket_of_isComma) (fun _ => isBlockBracket_of_isBlank)
      inner
  have head : "const state = \x7b\n".toList.filter isBlockBracket = ['{'] := by decide
  have tail : "\n\x7d;".toList.filter isBlockBracket = ['}'] := by decide
  unfold stateObject
  simp only [List.filter_append, entries, head, tail, List.singleton_append]

theorem WellNested.stateObject {inner : Text} (nested : WellNested blockCloser? inner) :
    WellNested blockCloser? (stateObject inner) := by
  have braces : WellNested blockCloser? ('{' :: (inner ++ '}' :: [])) := .block rfl nested .nil
  apply braces.of_filter
  rw [filter_stateObject, List.filter_cons_of_pos (by decide), List.filter_append,
    List.filter_cons_of_pos (by decide)]
  rfl

theorem stateHandlers_keepNesting : Handlers.KeepNesting stateHandlers where
  unmarked := by
    intro c bracket
    rcases (isBlockBracket_iff c).mp bracket with rfl | rfl | rfl | rfl <;> rfl
  written := by
    intro mark handler inner handled nested
    unfold stateHandlers at handled
    split at handled
    · cases handled
      exact nested.stateObject
    · cases handled
      exact nested.stateObject
    · cases handled

end SymbolScript.Construct
