import SymbolScript.Construct.Literal
import SymbolScript.Proofs.Construct.Balance

/-!
Rewriting the blocks of a text goes from left to right and does not look ahead of a block that
closes. A text that can be rewritten is therefore rewritten in front of any other text as it is by
itself, unless a mark at its end meets a bracket that opens there.
-/

namespace SymbolScript.Construct

variable {handlers : Handlers}

/-! ## Where two texts meet -/

/-- No block starts at the last character of a text that stands in front of another one. -/
def MeetsNoBlock (handlers : Handlers) (front back : Text) : Prop :=
  ∀ mark, front.getLast? = some mark → StartsNoBlock handlers mark back

theorem startsNoBlock_nil (c : Char) : StartsNoBlock handlers c [] := by
  right
  intro opener isHead
  cases isHead

theorem startsNoBlock_append_iff {c : Char} {rest : Text} (filled : rest ≠ []) (back : Text) :
    StartsNoBlock handlers c (rest ++ back) ↔ StartsNoBlock handlers c rest := by
  rw [StartsNoBlock, StartsNoBlock, List.head?_append_of_ne_nil rest filled]

section Meeting

variable {front middle back : Text}

theorem meetsNoBlock_nil : MeetsNoBlock handlers front [] :=
  fun mark _ => startsNoBlock_nil mark

theorem meetsNoBlock_append_iff (filled : middle ≠ []) :
    MeetsNoBlock handlers (front ++ middle) back ↔ MeetsNoBlock handlers middle back := by
  rw [MeetsNoBlock, MeetsNoBlock, List.getLast?_append_of_ne_nil front filled]

theorem MeetsNoBlock.of_cons {c : Char} (meets : MeetsNoBlock handlers (c :: front) back) :
    MeetsNoBlock handlers front back := by
  cases front with
  | nil =>
      intro mark isLast
      cases isLast
  | cons d front => exact meets

theorem StartsNoBlock.append {c : Char} {rest : Text} (noBlock : StartsNoBlock handlers c rest)
    (meets : MeetsNoBlock handlers (c :: rest) back) :
    StartsNoBlock handlers c (rest ++ back) := by
  by_cases empty : rest = []
  · rw [empty] at meets ⊢
    exact meets c rfl
  · exact (startsNoBlock_append_iff empty back).mpr noBlock

end Meeting

/-! ## Rewriting two texts in a row -/

theorem splitClose?_append_back {opener closer : Char} (pair : blockCloser? opener = some closer)
    {text inner after : Text} (split : splitClose? opener closer 0 text = some (inner, after))
    (back : Text) :
    splitClose? opener closer 0 (text ++ back) = some (inner, after ++ back) := by
  have different := blockCloser?_isPairing.different pair
  rcases (splitClose?_eq_some_iff different).mp split with ⟨parts, balanced⟩
  rw [parts, List.append_assoc, List.cons_append]
  exact splitClose?_of_isBalanced different balanced (after ++ back)

theorem rewriteFrom_append {front done : Text} {offset : Nat}
    (rewritten : rewriteFrom handlers offset front = .ok done) {back : Text}
    (meets : MeetsNoBlock handlers front back) (start : Nat) :
    rewriteFrom handlers start (front ++ back) =
      (rewriteFrom handlers (start + front.length) back).map (done ++ ·) := by
  revert back start
  apply rewriteFrom_induction ?_ ?_ ?_ offset front rewritten
  · intro back _ start
    rw [List.nil_append]
    cases rewriteFrom handlers (start + ([] : Text).length) back <;> rfl
  · intro c rest done noBlock later back meets start
    rw [List.cons_append, rewriteFrom_of_no_block (noBlock.append meets), later meets.of_cons,
      List.length_cons, Nat.add_assoc, Nat.add_comm 1]
    cases rewriteFrom handlers (start + (rest.length + 1)) back <;> rfl
  · intro mark opener closer handler rest inner innerDone after afterDone handled pair split inside
      later back meets start
    have parts := splitClose?_append split
    -- In front of nothing the inner text is what it is by itself.
    have innerRewritten : rewriteFrom handlers 0 inner = .ok innerDone := by
      have alone := inside meetsNoBlock_nil 0
      rwa [List.append_nil, rewriteFrom_nil, Except.map, List.append_nil] at alone
    have behind : MeetsNoBlock handlers after back := by
      by_cases empty : after = []
      · rw [empty]
        intro mark isLast
        cases isLast
      · have block : mark :: opener :: rest = mark :: opener :: (inner ++ [closer]) ++ after := by
          simp [← parts]
        rwa [block, meetsNoBlock_append_iff empty] at meets
    have length : start + inner.length + 3 + after.length =
        start + (mark :: opener :: rest).length := by
      simp only [← parts, List.length_cons, List.length_append]
      omega
    rw [List.cons_append, List.cons_append,
      rewriteFrom_of_block handled pair (splitClose?_append_back pair split back), innerRewritten,
      later behind, length]
    cases rewriteFrom handlers (start + (mark :: opener :: rest).length) back with
    | error failure => rfl
    | ok more =>
        simp only [bind, Except.bind, pure, Except.pure, Except.map, List.append_assoc]

/-! ## Literal blocks -/

/-- Whether the last character of a text marks a literal block that the next text opens. -/
def OpensLiteralBetween (front back : Text) : Prop :=
  ∃ mark opener, front.getLast? = some mark ∧ literalHandlers mark ≠ none ∧
    back.head? = some opener ∧ isOpener opener = true

theorem meetsNoBlock_of_not_opensLiteralBetween {front back : Text}
    (apart : ¬OpensLiteralBetween front back) : MeetsNoBlock literalHandlers front back := by
  intro mark isLast
  by_contra block
  rcases exists_block block with ⟨handler, opener, closer, after, handled, rfl, pair⟩
  refine apart ⟨mark, opener, isLast, by simp [handled], rfl, ?_⟩
  rcases blockCloser?_eq_some pair with ⟨rfl, _⟩ | ⟨rfl, _⟩ <;> rfl

/-- Of two texts in a row of which the first can be rewritten, the second decides whether both can
be, and then each is what it is by itself. -/
theorem rewriteLiterals_append {front done : Text} (rewritten : rewriteLiterals front = .ok done)
    {back : Text} (apart : ¬OpensLiteralBetween front back) :
    ((∃ failure, rewriteLiterals (front ++ back) = .error failure) ↔
      ∃ failure, rewriteLiterals back = .error failure) ∧
    ∀ more, rewriteLiterals back = .ok more →
      rewriteLiterals (front ++ back) = .ok (done ++ more) := by
  have joined : rewriteLiterals (front ++ back) = _ :=
    rewriteFrom_append rewritten (meetsNoBlock_of_not_opensLiteralBetween apart) 0
  have kept : ∀ more, rewriteLiterals back = .ok more →
      rewriteLiterals (front ++ back) = .ok (done ++ more) := by
    intro more alone
    rw [joined, rewriteFrom_offset 0 _ alone]
    rfl
  refine ⟨⟨?_, ?_⟩, kept⟩
  · rintro ⟨failure, failed⟩
    cases alone : rewriteLiterals back with
    | error cause => exact ⟨cause, rfl⟩
    | ok more => cases failed.symm.trans (kept more alone)
  · rintro ⟨failure, failed⟩
    cases later : rewriteFrom literalHandlers (0 + front.length) back with
    | error cause =>
        rw [joined, later]
        exact ⟨cause, rfl⟩
    | ok more => cases failed.symm.trans (rewriteFrom_offset _ 0 later)

theorem rewriteLiterals_append_crossing :
    rewriteLiterals "文⟨a\x7b⟩⟩".toList = .ok "\"a\x7b\"⟩".toList ∧
      ¬OpensLiteralBetween "文⟨a\x7b⟩⟩".toList "\x7d列\x7bb\x7d".toList ∧
      ((∃ failure, rewriteLiterals ("文⟨a\x7b⟩⟩".toList ++ "\x7d列\x7bb\x7d".toList) =
          .error failure) ↔
        ∃ failure, rewriteLiterals "\x7d列\x7bb\x7d".toList = .error failure) ∧
      ∀ more, rewriteLiterals "\x7d列\x7bb\x7d".toList = .ok more →
        rewriteLiterals ("文⟨a\x7b⟩⟩".toList ++ "\x7d列\x7bb\x7d".toList) =
          .ok ("\"a\x7b\"⟩".toList ++ more) := by
  have rewritten : rewriteLiterals "文⟨a\x7b⟩⟩".toList = .ok "\"a\x7b\"⟩".toList := by
    decide +kernel
  have apart : ¬OpensLiteralBetween "文⟨a\x7b⟩⟩".toList "\x7d列\x7bb\x7d".toList := by
    rintro ⟨mark, opener, isLast, marked, _⟩
    cases isLast
    exact marked rfl
  exact ⟨rewritten, apart, rewriteLiterals_append rewritten apart⟩

end SymbolScript.Construct
