import SymbolScript.Construct.Conditional
import SymbolScript.Proofs.Construct.Balance

/-! Conditionals whose branches end with the line are cut out with their own branches. -/

namespace SymbolScript.Construct

open Text

/-! ## Conditions -/

theorem takeCondition?_of_isBalanced {opener closer : Char}
    (kind : opener = '(' ∧ closer = ')' ∨ opener = '⟨' ∧ closer = '⟩') {blanks condition : Text}
    (blank : ∀ c ∈ blanks, isBlank c = true) (balanced : IsBalanced opener closer condition)
    (rest : Text) :
    takeCondition? (blanks ++ opener :: (condition ++ closer :: rest)) =
      some (condition, rest) := by
  have solid : isBlank opener = false ∧ closer ≠ opener := by
    rcases kind with ⟨rfl, rfl⟩ | ⟨rfl, rfl⟩ <;> decide
  have start : (blanks ++ opener :: (condition ++ closer :: rest)).dropWhile isBlank =
      opener :: (condition ++ closer :: rest) := by
    rw [List.dropWhile_append_of_pos blank, List.dropWhile_cons_of_neg (by simp [solid.1])]
  have split : splitClose? opener closer 0 (condition ++ closer :: rest) = some (condition, rest) :=
    splitClose?_of_isBalanced solid.2 balanced rest
  rw [takeCondition?, start]
  rcases kind with ⟨rfl, rfl⟩ | ⟨rfl, rfl⟩ <;> exact split

/-! ## Branches -/

def branchStops : List Char := ['⟨', '⟩', '⊘', '\n']

def alternativeStops : List Char := ['⟨', '⟩', '\n']

/-- A branch that is not blank and holds none of the characters that may stand at its ends. -/
structure IsBranch (stops : List Char) (branch : Text) : Prop where
  filled : ∃ c ∈ branch, isBlank c = false
  inside : ∀ c ∈ branch, c ∉ stops

/-- Whether a text starts with the end of a line. -/
def AtLineEnd (text : Text) : Prop :=
  ∀ c, text.head? = some c → c = '\n'

theorem dropAngle_of_other {text : Text} (other : ∀ c, text.head? = some c → c ≠ '⟨') :
    dropAngle text = text := by
  unfold dropAngle
  split
  · exact absurd rfl (other '⟨' rfl)
  · rfl

theorem AtLineEnd.head_ne {text : Text} (ended : AtLineEnd text) {c : Char} (other : c ≠ '\n')
    (rest : Text) : text ≠ c :: rest := by
  rintro rfl
  exact other (ended c rfl)

namespace IsBranch

variable {stops : List Char} {branch : Text}

theorem start_ne_nil (isBranch : IsBranch stops branch) : branch.dropWhile isBlank ≠ [] := by
  intro empty
  rcases isBranch.filled with ⟨c, member, solid⟩
  have blank := List.dropWhile_eq_nil_iff.mp empty c member
  rw [solid] at blank
  cases blank

theorem not_mem_start (isBranch : IsBranch stops branch) {c : Char}
    (member : c ∈ branch.dropWhile isBlank) : c ∉ stops :=
  isBranch.inside c ((List.dropWhile_sublist isBlank).mem member)

theorem head_start (isBranch : IsBranch stops branch) {rest : Text} {c : Char}
    (isHead : (branch.dropWhile isBlank ++ rest).head? = some c) :
    isBlank c = false ∧ c ∉ stops := by
  rw [List.head?_append_of_ne_nil _ isBranch.start_ne_nil] at isHead
  exact ⟨head?_dropWhile isHead, isBranch.not_mem_start (List.mem_of_head? isHead)⟩

theorem takeRun_isBlank (isBranch : IsBranch stops branch) {blanks : Text}
    (blank : ∀ c ∈ blanks, isBlank c = true) (rest : Text) :
    takeRun isBlank (blanks ++ (branch ++ rest)) =
      (blanks ++ branch.takeWhile isBlank, branch.dropWhile isBlank ++ rest) := by
  have parts : blanks ++ (branch ++ rest) =
      (blanks ++ branch.takeWhile isBlank) ++ (branch.dropWhile isBlank ++ rest) := by
    rw [List.append_assoc, ← List.append_assoc (branch.takeWhile isBlank),
      List.takeWhile_append_dropWhile]
  have inside : ∀ c ∈ blanks ++ branch.takeWhile isBlank, isBlank c = true :=
    List.forall_mem_append.mpr ⟨blank, fun c member => List.mem_takeWhile_imp member⟩
  rw [parts]
  exact takeRun_append inside fun c isHead => (isBranch.head_start isHead).1

theorem dropAngle_start (isBranch : IsBranch stops branch) (angle : '⟨' ∈ stops) (rest : Text) :
    dropAngle (branch.dropWhile isBlank ++ rest) = branch.dropWhile isBlank ++ rest := by
  apply dropAngle_of_other
  rintro c isHead rfl
  exact (isBranch.head_start isHead).2 angle

theorem trim_start (branch : Text) : trim (branch.dropWhile isBlank) = trim branch := by
  have blank : ∀ c ∈ branch.takeWhile isBlank, isBlank c = true :=
    fun c member => List.mem_takeWhile_imp member
  have same := trimBy_class_append blank (branch.dropWhile isBlank)
  rw [List.takeWhile_append_dropWhile] at same
  exact same.symm

end IsBranch

theorem takeAlternative?_of_isBranch {blanks other rest : Text}
    (blank : ∀ c ∈ blanks, isBlank c = true) (isBranch : IsBranch alternativeStops other)
    (ended : AtLineEnd rest) :
    takeAlternative? (blanks ++ (other ++ rest)) = some (other.dropWhile isBlank, rest) := by
  have run : takeRun (fun c => c != '⟩' && c != '\n') (other.dropWhile isBlank ++ rest) =
      (other.dropWhile isBlank, rest) := by
    apply takeRun_append
    · intro c member
      have plain := isBranch.not_mem_start member
      simp only [alternativeStops, List.mem_cons, not_or] at plain
      simp [plain]
    · intro c isHead
      simp [ended c isHead]
  rw [takeAlternative?, isBranch.takeRun_isBlank blank]
  simp only [isBranch.dropAngle_start (by decide), run]
  split
  · next equal => exact absurd (Prod.mk.inj equal).2 (ended.head_ne (by decide) _)
  · next equal =>
    cases equal
    rfl

theorem takeMarkedAlternative?_of_other {text : Text}
    (other : ∀ c, (text.dropWhile isBlank).head? = some c → c ≠ '⊘') :
    takeMarkedAlternative? text = none := by
  unfold takeMarkedAlternative?
  split
  · next equal => exact absurd rfl (other '⊘' (by rw [equal, List.head?_cons]))
  · rfl

section Started

variable {branch : Text}

theorem IsBranch.plain_of_mem_start (isBranch : IsBranch branchStops branch) {c : Char}
    (member : c ∈ branch.dropWhile isBlank) :
    (c != '⟩' && c != '⊘' && c != '\n') = true := by
  have plain := isBranch.not_mem_start member
  simp only [branchStops, List.mem_cons, not_or] at plain
  simp [plain]

theorem takeStartedBranches?_of_single (isBranch : IsBranch branchStops branch) {rest : Text}
    (ended : AtLineEnd rest)
    (unmarked : ∀ c, (rest.dropWhile isBlank).head? = some c → c ≠ '⊘') :
    takeStartedBranches? (branch.dropWhile isBlank ++ rest) =
      some (⟨branch.dropWhile isBlank, none⟩, rest) := by
  have run : takeRun (fun c => c != '⟩' && c != '⊘' && c != '\n')
      (branch.dropWhile isBlank ++ rest) = (branch.dropWhile isBlank, rest) := by
    apply takeRun_append
    · intro c member
      exact isBranch.plain_of_mem_start member
    · intro c isHead
      simp [ended c isHead]
  rw [takeStartedBranches?, isBranch.dropAngle_start (by decide), run]
  split
  · next equal => exact absurd (Prod.mk.inj equal).2 (ended.head_ne (by decide) _)
  · next equal => exact absurd (Prod.mk.inj equal).2 (ended.head_ne (by decide) _)
  · next equal =>
    cases equal
    rw [takeMarkedAlternative?_of_other unmarked]

theorem takeStartedBranches?_of_both (isBranch : IsBranch branchStops branch) {other rest : Text}
    (isOther : IsBranch alternativeStops other) (ended : AtLineEnd rest) :
    takeStartedBranches? (branch.dropWhile isBlank ++ ' ' :: '⊘' :: ' ' :: (other ++ rest)) =
      some (⟨branch.dropWhile isBlank ++ [' '], some (other.dropWhile isBlank)⟩, rest) := by
  have run : takeRun (fun c => c != '⟩' && c != '⊘' && c != '\n')
      (branch.dropWhile isBlank ++ ' ' :: '⊘' :: ' ' :: (other ++ rest)) =
        (branch.dropWhile isBlank ++ [' '], '⊘' :: ' ' :: (other ++ rest)) := by
    rw [← List.singleton_append, ← List.append_assoc]
    apply takeRun_append
    · intro c member
      rcases List.mem_append.mp member with inBranch | isSpace
      · exact isBranch.plain_of_mem_start inBranch
      · rw [List.mem_singleton.mp isSpace]
        rfl
    · intro c isHead
      cases isHead
      rfl
  have second : takeAlternative? ([' '] ++ (other ++ rest)) =
      some (other.dropWhile isBlank, rest) :=
    takeAlternative?_of_isBranch (by decide) isOther ended
  rw [takeStartedBranches?, isBranch.dropAngle_start (by decide), run]
  exact congrArg (Option.map _) second

theorem takeBranches?_of_started {stops : List Char} (isBranch : IsBranch stops branch)
    {tail rest : Text} {branches : Branches}
    (started : takeStartedBranches? (branch.dropWhile isBlank ++ tail) = some (branches, rest)) :
    takeBranches? (' ' :: '→' :: ' ' :: (branch ++ tail)) = some (branches, rest) := by
  have space : ∀ c ∈ [' '], isBlank c = true := by decide
  have run : takeRun isBlank (' ' :: (branch ++ tail)) =
      (' ' :: branch.takeWhile isBlank, branch.dropWhile isBlank ++ tail) :=
    isBranch.takeRun_isBlank space tail
  rw [takeBranches?, List.dropWhile_cons_of_pos (by decide), List.dropWhile_cons_of_neg (by decide)]
  simp only [run, started]

end Started

/-! ## Conditionals -/

theorem takeConditional?_of_branches {opener closer : Char}
    (kind : opener = '(' ∧ closer = ')' ∨ opener = '⟨' ∧ closer = '⟩')
    {blanks condition tail rest : Text} {branches : Branches}
    (blank : ∀ c ∈ blanks, isBlank c = true) (balanced : IsBalanced opener closer condition)
    (branched : takeBranches? tail = some (branches, rest)) :
    takeConditional? ('∇' :: (blanks ++ opener :: (condition ++ closer :: tail))) =
      some (⟨condition, branches⟩, rest) := by
  simp only [takeConditional?, takeCondition?_of_isBalanced kind blank balanced, branched]
  rfl

end SymbolScript.Construct
