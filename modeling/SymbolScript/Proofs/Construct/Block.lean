import SymbolScript.Construct.Bracket

/-! The steps of rewriting blocks: what happens at a block and at a character that starts none. -/

namespace SymbolScript.Construct

variable {handlers : Handlers}

@[simp] theorem rewriteFrom_nil (offset : Nat) : rewriteFrom handlers offset [] = .ok [] := by
  rw [rewriteFrom.eq_def]

/-! ## Characters that start no block -/

/-- A character starts no block if it is no mark or if no opening bracket comes next. -/
def StartsNoBlock (handlers : Handlers) (c : Char) (rest : Text) : Prop :=
  handlers c = none ∨ ∀ opener, rest.head? = some opener → blockCloser? opener = none

theorem rewriteFrom_of_no_block {c : Char} {rest : Text} (noBlock : StartsNoBlock handlers c rest)
    (offset : Nat) :
    rewriteFrom handlers offset (c :: rest) =
      (rewriteFrom handlers (offset + 1) rest).map (c :: ·) := by
  cases rest with
  | nil =>
      rw [rewriteFrom.eq_def, rewriteFrom_nil]
      rfl
  | cons opener rest =>
      rw [rewriteFrom.eq_def]
      rcases noBlock with noMark | noOpener
      · simp [noMark]
      · simp only [noOpener opener rfl]
        cases handlers c <;> rfl

theorem rewriteFrom_append_of_no_block {before after : Text}
    (noBlock : ∀ left c right, before = left ++ c :: right →
      StartsNoBlock handlers c (right ++ after)) (offset : Nat) :
    rewriteFrom handlers offset (before ++ after) =
      (rewriteFrom handlers (offset + before.length) after).map (before ++ ·) := by
  induction before generalizing offset with
  | nil =>
      rw [List.nil_append]
      cases rewriteFrom handlers (offset + ([] : Text).length) after <;> rfl
  | cons c rest induction =>
      have later := induction (fun left d right equal =>
        noBlock (c :: left) d right (by rw [equal, List.cons_append])) (offset + 1)
      rw [List.cons_append, rewriteFrom_of_no_block (noBlock [] c rest rfl), later,
        List.length_cons, Nat.add_assoc, Nat.add_comm 1]
      cases rewriteFrom handlers (offset + (rest.length + 1)) after <;> rfl

theorem rewriteFrom_append_of_plain {before : Text} (plain : ∀ c ∈ before, handlers c = none)
    (offset : Nat) (after : Text) :
    rewriteFrom handlers offset (before ++ after) =
      (rewriteFrom handlers (offset + before.length) after).map (before ++ ·) := by
  apply rewriteFrom_append_of_no_block
  intro left c right equal
  left
  apply plain
  rw [equal]
  exact List.mem_append_right left List.mem_cons_self

theorem rewriteFrom_append_of_unopened {before after : Text}
    (inside : ∀ c ∈ before, blockCloser? c = none)
    (stop : ∀ c, after.head? = some c → blockCloser? c = none) (offset : Nat) :
    rewriteFrom handlers offset (before ++ after) =
      (rewriteFrom handlers (offset + before.length) after).map (before ++ ·) := by
  apply rewriteFrom_append_of_no_block
  intro left c right equal
  right
  intro opener isNext
  cases right with
  | nil => exact stop opener isNext
  | cons d right =>
      cases isNext
      apply inside
      rw [equal]
      simp

theorem rewriteFrom_of_unmarked {text : Text} (plain : ∀ c ∈ text, handlers c = none)
    (offset : Nat) : rewriteFrom handlers offset text = .ok text := by
  have kept := rewriteFrom_append_of_plain plain offset []
  rw [List.append_nil, rewriteFrom_nil, Except.map, List.append_nil] at kept
  exact kept

theorem rewriteFrom_of_unopened {text : Text} (inside : ∀ c ∈ text, blockCloser? c = none)
    (offset : Nat) : rewriteFrom handlers offset text = .ok text := by
  have noBracket : ∀ c, ([] : Text).head? = some c → blockCloser? c = none := by simp
  have kept : rewriteFrom handlers offset (text ++ []) =
      (rewriteFrom handlers (offset + text.length) []).map (text ++ ·) :=
    rewriteFrom_append_of_unopened inside noBracket offset
  rwa [rewriteFrom_nil, Except.map, List.append_nil] at kept

/-! ## Blocks -/

section Block

variable {mark opener closer : Char} {handler : Text → Text} {rest : Text}

theorem rewriteFrom_of_block (handled : handlers mark = some handler)
    (pair : blockCloser? opener = some closer) {inner after : Text}
    (split : splitClose? opener closer 0 rest = some (inner, after)) (offset : Nat) :
    rewriteFrom handlers offset (mark :: opener :: rest) = do
      let innerDone ← rewriteFrom handlers 0 inner
      let afterDone ← rewriteFrom handlers (offset + inner.length + 3) after
      return handler innerDone ++ afterDone := by
  rw [rewriteFrom.eq_def]
  simp only [handled, pair]
  split
  · next missing =>
    rw [split] at missing
    cases missing
  · next found =>
    rw [split] at found
    cases found
    rfl

theorem rewriteFrom_of_unbalanced (handled : handlers mark = some handler)
    (pair : blockCloser? opener = some closer) (missing : splitClose? opener closer 0 rest = none)
    (offset : Nat) :
    rewriteFrom handlers offset (mark :: opener :: rest) =
      .error (.source (.unbalanced mark offset)) := by
  rw [rewriteFrom.eq_def]
  simp only [handled, pair]
  split
  · rfl
  · next found =>
    rw [missing] at found
    cases found

end Block

theorem exists_block {c : Char} {rest : Text} (block : ¬StartsNoBlock handlers c rest) :
    ∃ handler opener closer after, handlers c = some handler ∧ rest = opener :: after ∧
      blockCloser? opener = some closer := by
  rcases not_or.mp block with ⟨marked, opened⟩
  rcases Option.ne_none_iff_exists'.mp marked with ⟨handler, handled⟩
  cases rest with
  | nil => exact absurd (fun opener isHead => by cases isHead) opened
  | cons opener after =>
      cases pair : blockCloser? opener with
      | none =>
          refine absurd ?_ opened
          intro other isHead
          cases isHead
          exact pair
      | some closer => exact ⟨handler, opener, closer, after, handled, rfl, pair⟩

theorem rewriteFrom_induction {Related : Text → Text → Prop} (empty : Related [] [])
    (plain : ∀ c rest done, StartsNoBlock handlers c rest → Related rest done →
      Related (c :: rest) (c :: done))
    (block : ∀ mark opener closer handler rest inner innerDone after afterDone,
      handlers mark = some handler → blockCloser? opener = some closer →
      splitClose? opener closer 0 rest = some (inner, after) → Related inner innerDone →
      Related after afterDone → Related (mark :: opener :: rest) (handler innerDone ++ afterDone))
    (offset : Nat) (text : Text) {result : Text}
    (rewritten : rewriteFrom handlers offset text = .ok result) : Related text result := by
  match text with
  | [] =>
      rw [rewriteFrom_nil] at rewritten
      cases rewritten
      exact empty
  | c :: rest =>
      by_cases noBlock : StartsNoBlock handlers c rest
      · rw [rewriteFrom_of_no_block noBlock] at rewritten
        cases later : rewriteFrom handlers (offset + 1) rest with
        | error failure => simp [later, Except.map] at rewritten
        | ok done =>
            have related := rewriteFrom_induction empty plain block (offset + 1) rest later
            simp only [later, Except.map, Except.ok.injEq] at rewritten
            rw [← rewritten]
            exact plain c rest done noBlock related
      · rcases exists_block noBlock with ⟨handler, opener, closer, body, handled, opened, pair⟩
        cases split : splitClose? opener closer 0 body with
        | none =>
            rw [opened, rewriteFrom_of_unbalanced handled pair split] at rewritten
            cases rewritten
        | some parts =>
            rcases parts with ⟨inner, after⟩
            have shorter : inner.length < rest.length ∧ after.length < rest.length := by
              have shorterBody := length_of_splitClose? split
              rw [opened, List.length_cons]
              omega
            rw [opened, rewriteFrom_of_block handled pair split] at rewritten
            cases inside : rewriteFrom handlers 0 inner with
            | error failure => simp [inside, bind, Except.bind] at rewritten
            | ok innerDone =>
                cases later : rewriteFrom handlers (offset + inner.length + 3) after with
                | error failure => simp [inside, later, bind, Except.bind] at rewritten
                | ok afterDone =>
                    have innerRelated := rewriteFrom_induction empty plain block 0 inner inside
                    have afterRelated := rewriteFrom_induction empty plain block _ after later
                    simp only [inside, later, bind, Except.bind, pure, Except.pure,
                      Except.ok.injEq] at rewritten
                    rw [← rewritten, opened]
                    exact block c opener closer handler body inner innerDone after afterDone handled
                      pair split innerRelated afterRelated
termination_by text.length
decreasing_by
  · exact Nat.lt_add_one _
  all_goals
    simp only [List.length_cons]
    omega

/-- What holds of a text whose first block has no end, and is kept by what stands in front of a
failing text and around it, holds of every text that cannot be rewritten. -/
theorem rewriteFrom_error_induction {Fails : Nat → Text → Failure → Prop}
    (plain : ∀ start c rest failure, StartsNoBlock handlers c rest →
      Fails (start + 1) rest failure → Fails start (c :: rest) failure)
    (endless : ∀ start mark opener closer rest, handlers mark ≠ none →
      blockCloser? opener = some closer → splitClose? opener closer 0 rest = none →
      Fails start (mark :: opener :: rest) (.source (.unbalanced mark start)))
    (inside : ∀ start mark opener closer rest inner after failure, handlers mark ≠ none →
      blockCloser? opener = some closer → splitClose? opener closer 0 rest = some (inner, after) →
      Fails 0 inner failure → Fails start (mark :: opener :: rest) failure)
    (behind : ∀ start mark opener closer rest inner innerDone after failure,
      handlers mark ≠ none → blockCloser? opener = some closer →
      splitClose? opener closer 0 rest = some (inner, after) →
      rewriteFrom handlers 0 inner = .ok innerDone →
      Fails (start + inner.length + 3) after failure → Fails start (mark :: opener :: rest) failure)
    (start : Nat) (text : Text) {failure : Failure}
    (failed : rewriteFrom handlers start text = .error failure) : Fails start text failure := by
  match text with
  | [] =>
      rw [rewriteFrom_nil] at failed
      cases failed
  | c :: rest =>
      by_cases noBlock : StartsNoBlock handlers c rest
      · rw [rewriteFrom_of_no_block noBlock] at failed
        cases later : rewriteFrom handlers (start + 1) rest with
        | ok done => simp [later, Except.map] at failed
        | error cause =>
            have fails := rewriteFrom_error_induction plain endless inside behind _ rest later
            simp only [later, Except.map, Except.error.injEq] at failed
            exact plain start c rest failure noBlock (failed ▸ fails)
      · rcases exists_block noBlock with ⟨handler, opener, closer, body, handled, opened, pair⟩
        have marked : handlers c ≠ none := by simp [handled]
        rw [opened] at failed ⊢
        cases split : splitClose? opener closer 0 body with
        | none =>
            rw [rewriteFrom_of_unbalanced handled pair split] at failed
            cases failed
            exact endless start c opener closer body marked pair split
        | some parts =>
            rcases parts with ⟨inner, after⟩
            have shorter : inner.length < rest.length ∧ after.length < rest.length := by
              have shorterBody := length_of_splitClose? split
              rw [opened, List.length_cons]
              omega
            rw [rewriteFrom_of_block handled pair split] at failed
            cases innerResult : rewriteFrom handlers 0 inner with
            | error cause =>
                have fails := rewriteFrom_error_induction plain endless inside behind 0 inner
                  innerResult
                simp only [innerResult, bind, Except.bind, Except.error.injEq] at failed
                exact inside start c opener closer body inner after failure marked pair split
                  (failed ▸ fails)
            | ok innerDone =>
                cases later : rewriteFrom handlers (start + inner.length + 3) after with
                | ok done => simp [innerResult, later, bind, Except.bind, pure, Except.pure] at failed
                | error cause =>
                    have fails := rewriteFrom_error_induction plain endless inside behind _ after
                      later
                    simp only [innerResult, later, bind, Except.bind, Except.error.injEq] at failed
                    exact behind start c opener closer body inner innerDone after failure marked
                      pair split innerResult (failed ▸ fails)
termination_by text.length

theorem rewriteFrom_offset {text result : Text} (offset other : Nat)
    (rewritten : rewriteFrom handlers offset text = .ok result) :
    rewriteFrom handlers other text = .ok result := by
  revert other
  apply rewriteFrom_induction ?_ ?_ ?_ offset text rewritten
  · exact rewriteFrom_nil
  · intro c rest done noBlock later offset
    rw [rewriteFrom_of_no_block noBlock, later]
    rfl
  · intro mark opener closer handler rest inner innerDone after afterDone handled pair split inside
      later offset
    rw [rewriteFrom_of_block handled pair split, inside, later]
    rfl

theorem rewriteBlocks_cons_of_no_block {c : Char} {rest done : Text}
    (noBlock : StartsNoBlock handlers c rest) (rewritten : rewriteBlocks handlers rest = .ok done) :
    rewriteBlocks handlers (c :: rest) = .ok (c :: done) := by
  rw [rewriteBlocks, rewriteFrom_of_no_block noBlock, rewriteFrom_offset 0 _ rewritten]
  rfl

theorem rewriteBlocks_append_of_plain {before : Text} (plain : ∀ c ∈ before, handlers c = none)
    {after done : Text} (rewritten : rewriteBlocks handlers after = .ok done) :
    rewriteBlocks handlers (before ++ after) = .ok (before ++ done) := by
  rw [rewriteBlocks, rewriteFrom_append_of_plain plain, rewriteFrom_offset 0 _ rewritten]
  rfl

end SymbolScript.Construct
