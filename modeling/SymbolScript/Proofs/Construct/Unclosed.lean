import SymbolScript.Proofs.Construct.Joining
import SymbolScript.Proofs.Construct.NestedBlock

/-!
Blocks that do not close. Rewriting fails at the first block without an end, and the failure names
the mark of that block and an offset. The offset is counted in the innermost text that the block
stands in: in the text itself only if no other block is around it.
-/

namespace SymbolScript.Construct

variable {handlers : Handlers}

/-! ## Blocks that have been passed -/

theorem BlocksClose.append {front back : Text} (closes : BlocksClose handlers front)
    (later : BlocksClose handlers back) (meets : MeetsNoBlock handlers front back) :
    BlocksClose handlers (front ++ back) := by
  rcases closes.exists_rewriteFrom 0 with ⟨done, rewritten⟩
  rcases later.exists_rewriteFrom (0 + front.length) with ⟨more, laterRewritten⟩
  have both : rewriteFrom handlers 0 (front ++ back) = .ok (done ++ more) := by
    rw [rewriteFrom_append rewritten meets, laterRewritten]
    rfl
  exact .of_rewriteFrom both

theorem MeetsNoBlock.of_append {front middle back : Text}
    (meets : MeetsNoBlock handlers front (middle ++ back)) : MeetsNoBlock handlers front middle := by
  intro mark isLast
  by_cases empty : middle = []
  · rw [empty]
    exact startsNoBlock_nil mark
  · exact (startsNoBlock_append_iff empty back).mp (meets mark isLast)

theorem MeetsNoBlock.append {front middle back : Text}
    (meets : MeetsNoBlock handlers front (middle ++ back))
    (behind : MeetsNoBlock handlers middle back) :
    MeetsNoBlock handlers (front ++ middle) back := by
  by_cases empty : middle = []
  · rw [empty, List.append_nil]
    rwa [empty, List.nil_append] at meets
  · exact (meetsNoBlock_append_iff empty).mpr behind

/-! ## The first block without an end -/

/-- What is behind an opening bracket has no end of the block exactly if no closing bracket has a
balanced text in front of it. -/
theorem splitClose?_eq_none_iff {opener closer : Char} (different : closer ≠ opener)
    {rest : Text} :
    splitClose? opener closer 0 rest = none ↔
      ∀ inner after, rest = inner ++ closer :: after → ¬IsBalanced opener closer inner := by
  rw [Option.eq_none_iff_forall_ne_some]
  constructor
  · intro missing inner after parts balanced
    exact missing (inner, after) ((splitClose?_eq_some_iff different).mpr ⟨parts, balanced⟩)
  · rintro endless ⟨inner, after⟩ split
    rcases (splitClose?_eq_some_iff different).mp split with ⟨parts, balanced⟩
    exact endless inner after parts balanced

/-- A block of a mark that does not close, behind blocks that do and inside as many blocks as the
depth says. It starts at a position of the text, and at an offset of the innermost text around
it. -/
inductive Unclosed (handlers : Handlers) :
    (text : Text) → (mark : Char) → (depth position offset : Nat) → Prop
  | outermost {before rest : Text} {mark opener closer : Char}
      (passed : BlocksClose handlers before)
      (meets : MeetsNoBlock handlers before (mark :: opener :: rest))
      (marked : handlers mark ≠ none) (pair : blockCloser? opener = some closer)
      (endless : ∀ inner after, rest = inner ++ closer :: after →
        ¬IsBalanced opener closer inner) :
      Unclosed handlers (before ++ mark :: opener :: rest) mark 0 before.length before.length
  | inside {before inner after : Text} {outer opener closer mark : Char}
      {depth position offset : Nat} (passed : BlocksClose handlers before)
      (meets : MeetsNoBlock handlers before (outer :: opener :: (inner ++ closer :: after)))
      (marked : handlers outer ≠ none) (pair : blockCloser? opener = some closer)
      (balanced : IsBalanced opener closer inner)
      (nested : Unclosed handlers inner mark depth position offset) :
      Unclosed handlers (before ++ outer :: opener :: (inner ++ closer :: after)) mark (depth + 1)
        (before.length + (position + 2)) offset

/-- An offset behind a start, if it is counted from there and not from further inside. -/
def shiftedOffset (start depth offset : Nat) : Nat :=
  if depth = 0 then start + offset else offset

theorem shiftedOffset_zero (depth offset : Nat) : shiftedOffset 0 depth offset = offset := by
  rw [shiftedOffset, Nat.zero_add, ite_self]

theorem shiftedOffset_add (start more depth offset : Nat) :
    shiftedOffset (start + more) depth offset =
      shiftedOffset start depth (shiftedOffset more depth offset) := by
  unfold shiftedOffset
  split
  · exact Nat.add_assoc start more offset
  · rfl

/-- Whether a mark and an opening bracket stand at a position of a text. -/
def OpensAt (text : Text) (position : Nat) (mark : Char) : Prop :=
  text[position]? = some mark ∧
    ∃ opener, text[position + 1]? = some opener ∧ isOpener opener = true

instance (text : Text) (position : Nat) (mark : Char) : Decidable (OpensAt text position mark) :=
  decidable_of_iff (text[position]? = some mark ∧ (text[position + 1]?.any isOpener) = true) (by
    rw [OpensAt, Option.any_eq_true])

theorem opensAt_append_iff {before rest : Text} {mark : Char} (position : Nat) :
    OpensAt (before ++ rest) (before.length + position) mark ↔ OpensAt rest position mark := by
  simp only [OpensAt, Nat.add_assoc, List.getElem?_append_right (Nat.le_add_right _ _),
    Nat.add_sub_cancel_left]

theorem OpensAt.append {text : Text} {position : Nat} {mark : Char}
    (opens : OpensAt text position mark) (after : Text) :
    OpensAt (text ++ after) position mark := by
  rcases opens with ⟨isMark, opener, isOpener, opening⟩
  exact ⟨List.getElem?_append_left (List.getElem?_eq_some_iff.mp isMark).1 ▸ isMark, opener,
    List.getElem?_append_left (List.getElem?_eq_some_iff.mp isOpener).1 ▸ isOpener, opening⟩

namespace Unclosed

variable {text : Text} {mark : Char} {depth position offset : Nat}

theorem append_front {front : Text} (passed : BlocksClose handlers front)
    (meets : MeetsNoBlock handlers front text)
    (unclosed : Unclosed handlers text mark depth position offset) :
    Unclosed handlers (front ++ text) mark depth (front.length + position)
      (shiftedOffset front.length depth offset) := by
  cases unclosed with
  | outermost passedLater meetsLater marked pair endless =>
      have closes := passed.append passedLater meets.of_append
      have all := outermost closes (meets.append meetsLater) marked pair endless
      rwa [List.append_assoc, List.length_append] at all
  | inside passedLater meetsLater marked pair balanced nested =>
      have closes := passed.append passedLater meets.of_append
      have all := inside closes (meets.append meetsLater) marked pair balanced nested
      rwa [List.append_assoc, List.length_append, Nat.add_assoc] at all

theorem rewriteFrom_eq_error (unclosed : Unclosed handlers text mark depth position offset)
    (start : Nat) :
    rewriteFrom handlers start text =
      .error (.source (.unbalanced mark (shiftedOffset start depth offset))) := by
  induction unclosed generalizing start with
  | outermost passed meets marked pair endless =>
      rcases passed.exists_rewriteFrom start with ⟨done, rewritten⟩
      rcases Option.ne_none_iff_exists'.mp marked with ⟨handler, handled⟩
      have missing :=
        (splitClose?_eq_none_iff (blockCloser?_isPairing.different pair)).mpr endless
      rw [rewriteFrom_append rewritten meets, rewriteFrom_of_unbalanced handled pair missing]
      rfl
  | @inside before inner after outer opener closer mark depth position offset passed meets marked
      pair balanced nested induction =>
      rcases passed.exists_rewriteFrom start with ⟨done, rewritten⟩
      rcases Option.ne_none_iff_exists'.mp marked with ⟨handler, handled⟩
      have split := splitClose?_of_isBalanced (blockCloser?_isPairing.different pair) balanced after
      rw [rewriteFrom_append rewritten meets, rewriteFrom_of_block handled pair split, induction,
        shiftedOffset_zero]
      rfl

theorem offset_add_le (unclosed : Unclosed handlers text mark depth position offset) :
    offset + 2 * depth ≤ position := by
  induction unclosed with
  | outermost passed meets marked pair endless => omega
  | inside passed meets marked pair balanced nested induction => omega

theorem offset_eq_position_iff (unclosed : Unclosed handlers text mark depth position offset) :
    offset = position ↔ depth = 0 := by
  constructor
  · have bound := unclosed.offset_add_le
    omega
  · rintro rfl
    cases unclosed
    rfl

theorem opensAt (unclosed : Unclosed handlers text mark depth position offset) :
    OpensAt text position mark := by
  induction unclosed with
  | @outermost before rest mark opener closer passed meets marked pair endless =>
      refine (opensAt_append_iff 0).mpr ⟨rfl, opener, rfl, ?_⟩
      rcases blockCloser?_eq_some pair with ⟨rfl, _⟩ | ⟨rfl, _⟩ <;> rfl
  | inside passed meets marked pair balanced nested induction =>
      exact (opensAt_append_iff _).mpr (induction.append _)

end Unclosed

/-! ## Failures -/

/-- What a failure says of the first block without an end, in a text that starts at an offset. -/
def DescribesUnclosed (handlers : Handlers) (start : Nat) (text : Text) (failure : Failure) :
    Prop :=
  ∃ mark depth position offset,
    failure = .source (.unbalanced mark (shiftedOffset start depth offset)) ∧
      Unclosed handlers text mark depth position offset

namespace DescribesUnclosed

variable {start : Nat} {text : Text} {failure : Failure}

theorem append_front {front : Text} (passed : BlocksClose handlers front)
    (meets : MeetsNoBlock handlers front text)
    (described : DescribesUnclosed handlers (start + front.length) text failure) :
    DescribesUnclosed handlers start (front ++ text) failure := by
  rcases described with ⟨mark, depth, position, offset, rfl, unclosed⟩
  rw [shiftedOffset_add]
  exact ⟨mark, depth, _, _, rfl, unclosed.append_front passed meets⟩

theorem of_rewriteFrom (unmarked : ∀ c, isBlockBracket c = true → handlers c = none)
    (failed : rewriteFrom handlers start text = .error failure) :
    DescribesUnclosed handlers start text failure := by
  have nothing : ∀ back, MeetsNoBlock handlers [] back := by
    intro back mark isLast
    cases isLast
  apply rewriteFrom_error_induction ?_ ?_ ?_ ?_ start text failed
  · intro start c rest failure noBlock described
    have meets : MeetsNoBlock handlers [c] rest := by
      intro mark isLast
      cases isLast
      exact noBlock
    exact append_front (.plain (startsNoBlock_nil c) .nil) meets described
  · intro start mark opener closer rest marked pair missing
    have endless := (splitClose?_eq_none_iff (blockCloser?_isPairing.different pair)).mp missing
    exact ⟨mark, 0, 0, 0, rfl, .outermost .nil (nothing _) marked pair endless⟩
  · rintro start mark opener closer rest inner after failure marked pair split
      ⟨innermost, depth, position, offset, rfl, unclosed⟩
    rcases (splitClose?_eq_some_iff (blockCloser?_isPairing.different pair)).mp split with
      ⟨rfl, balanced⟩
    rw [shiftedOffset_zero]
    exact ⟨innermost, depth + 1, _, offset, rfl,
      .inside .nil (nothing _) marked pair balanced unclosed⟩
  · intro start mark opener closer rest inner innerDone after failure marked pair split rewritten
      described
    rcases (splitClose?_eq_some_iff (blockCloser?_isPairing.different pair)).mp split with
      ⟨rfl, balanced⟩
    -- The block in front is closed, so it can be passed as a whole.
    have closes : BlocksClose handlers (mark :: opener :: (inner ++ [closer])) :=
      .block marked pair balanced (.of_rewriteFrom rewritten) .nil
    have meets : MeetsNoBlock handlers (mark :: opener :: (inner ++ [closer])) after := by
      have isBracket : isBlockBracket closer = true := by
        rcases blockCloser?_eq_some pair with ⟨_, rfl⟩ | ⟨_, rfl⟩ <;> rfl
      intro last isLast
      have isCloser : closer = last := by simpa [List.getLast?_cons] using isLast
      exact .inl (isCloser ▸ unmarked closer isBracket)
    have length : start + inner.length + 3 =
        start + (mark :: opener :: (inner ++ [closer])).length := by
      simp only [List.length_cons, List.length_append, List.length_nil]
      omega
    have parts : mark :: opener :: (inner ++ closer :: after) =
        mark :: opener :: (inner ++ [closer]) ++ after := by
      simp
    rw [length] at described
    rw [parts]
    exact append_front closes meets described

end DescribesUnclosed

/-- A failure that tells of the first block without an end: by its mark, which stands in front of an
opening bracket, and by an offset that is its position exactly if no other block is around it. -/
def LocatesUnclosed (handlers : Handlers) (text : Text) (failure : Failure) : Prop :=
  ∃ mark depth position offset, failure = .source (.unbalanced mark offset) ∧
    Unclosed handlers text mark depth position offset ∧ OpensAt text position mark ∧
    (offset = position ↔ depth = 0)

theorem rewriteBlocks_eq_error_iff (unmarked : ∀ c, isBlockBracket c = true → handlers c = none)
    (text : Text) (failure : Failure) :
    rewriteBlocks handlers text = .error failure ↔ LocatesUnclosed handlers text failure := by
  constructor
  · intro failed
    rcases DescribesUnclosed.of_rewriteFrom unmarked failed with
      ⟨mark, depth, position, offset, shown, unclosed⟩
    rw [shiftedOffset_zero] at shown
    exact ⟨mark, depth, position, offset, shown, unclosed, unclosed.opensAt,
      unclosed.offset_eq_position_iff⟩
  · rintro ⟨mark, depth, position, offset, rfl, unclosed, _⟩
    rw [rewriteBlocks, unclosed.rewriteFrom_eq_error, shiftedOffset_zero]

/-- Literal and state blocks are rewritten unless one of them has no end, and the failure is then
about the first of these. -/
theorem rewriting_eq_error_iff (text : Text) (failure : Failure) :
    (rewriteLiterals text = .error failure ↔ LocatesUnclosed literalHandlers text failure) ∧
      (rewriteStates text = .error failure ↔ LocatesUnclosed stateHandlers text failure) :=
  ⟨rewriteBlocks_eq_error_iff (fun _ => literalHandlers_keepNesting.unmarked) text failure,
    rewriteBlocks_eq_error_iff (fun _ => stateHandlers_keepNesting.unmarked) text failure⟩

/-- The failure of a block inside another one names an offset at which there is another mark. -/
theorem rewriteLiterals_nested_offset :
    rewriteLiterals "列⟨文\x7b⟩".toList = .error (.source (.unbalanced '文' 0)) ∧
      ¬OpensAt "列⟨文\x7b⟩".toList 0 '文' := by
  decide +kernel

end SymbolScript.Construct
