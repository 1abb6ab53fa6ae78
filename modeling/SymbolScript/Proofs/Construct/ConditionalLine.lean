import SymbolScript.Proofs.Construct.Conditional
import SymbolScript.Proofs.Construct.Mark

/-!
Conditionals on a line. A conditional with a balanced condition and branches that end with the line
is rewritten where it stands: what comes in front of it is kept, and what comes behind it is
rewritten as if it stood alone.
-/

namespace SymbolScript.Construct

open Text

inductive ConditionBracket
  | round
  | angle
deriving DecidableEq

namespace ConditionBracket

def opener : ConditionBracket → Char
  | round => '('
  | angle => '⟨'

def closer : ConditionBracket → Char
  | round => ')'
  | angle => '⟩'

theorem kind (bracket : ConditionBracket) :
    bracket.opener = '(' ∧ bracket.closer = ')' ∨
      bracket.opener = '⟨' ∧ bracket.closer = '⟩' := by
  cases bracket <;> decide

end ConditionBracket

/-- A condition of any depth and on any number of lines, a branch and perhaps a second one, which
end with the line. -/
structure ConditionalLine where
  blanks : Text
  bracket : ConditionBracket
  condition : Text
  branch : Text
  alternative : Option Text
  blank : ∀ c ∈ blanks, isBlank c = true
  balanced : IsBalanced bracket.opener bracket.closer condition
  isBranch : IsBranch branchStops branch
  isAlternative : ∀ other ∈ alternative, IsBranch alternativeStops other

namespace ConditionalLine

def markedAlternative : Option Text → Text
  | none => []
  | some other => " ⊘ ".toList ++ other

def source (line : ConditionalLine) : Text :=
  '∇' :: (line.blanks ++ line.bracket.opener :: (line.condition ++ line.bracket.closer ::
    (" → ".toList ++ (line.branch ++ markedAlternative line.alternative))))

def elseBlock : Option Text → Text
  | none => []
  | some other => " else \x7b\n  ".toList ++ trim other ++ "\n\x7d".toList

def shown (line : ConditionalLine) : Text :=
  "if (".toList ++ trim line.condition ++ ") \x7b\n  ".toList ++ trim line.branch ++
    "\n\x7d".toList ++ elseBlock line.alternative

/-- Whether a conditional ends in front of a text: the line does, and if there is no second branch,
the text does not start with the mark of one on a later line. -/
structure EndsBefore (line : ConditionalLine) (rest : Text) : Prop where
  lineEnd : AtLineEnd rest
  unmarked : line.alternative = none → ∀ c, (rest.dropWhile isBlank).head? = some c → c ≠ '⊘'

def branches (line : ConditionalLine) : Branches :=
  match line.alternative with
  | none => ⟨line.branch.dropWhile isBlank, none⟩
  | some other => ⟨line.branch.dropWhile isBlank ++ [' '], some (other.dropWhile isBlank)⟩

variable (line : ConditionalLine) {rest : Text}

theorem source_append (rest : Text) :
    line.source ++ rest =
      '∇' :: (line.blanks ++ line.bracket.opener :: (line.condition ++ line.bracket.closer ::
        ' ' :: '→' :: ' ' :: (line.branch ++ (markedAlternative line.alternative ++ rest)))) := by
  have arrow : " → ".toList = [' ', '→', ' '] := rfl
  simp [source, arrow]

theorem takeStartedBranches?_start (ends : line.EndsBefore rest) :
    takeStartedBranches? (line.branch.dropWhile isBlank ++
      (markedAlternative line.alternative ++ rest)) = some (line.branches, rest) := by
  unfold branches
  cases second : line.alternative with
  | none => exact takeStartedBranches?_of_single line.isBranch ends.lineEnd (ends.unmarked second)
  | some other =>
      exact takeStartedBranches?_of_both line.isBranch (line.isAlternative other second)
        ends.lineEnd

theorem take_source_append (ends : line.EndsBefore rest) :
    conditionals.take (line.source ++ rest) = some (⟨line.condition, line.branches⟩, rest) := by
  have branched := takeBranches?_of_started line.isBranch (line.takeStartedBranches?_start ends)
  rw [source_append]
  exact takeConditional?_of_branches line.bracket.kind line.blank line.balanced branched

theorem branchBlock_start (branch : Text) :
    branchBlock (branch.dropWhile isBlank) = branchBlock branch := by
  unfold branchBlock
  rw [IsBranch.trim_start]

theorem branchBlock_start_space (branch : Text) :
    branchBlock (branch.dropWhile isBlank ++ [' ']) = branchBlock branch := by
  have spaced : trim (branch.dropWhile isBlank ++ [' ']) = trim (branch.dropWhile isBlank) :=
    trimBy_append_class (by decide) _
  unfold branchBlock
  rw [spaced, IsBranch.trim_start]

theorem elseBlock_none : elseBlock none = [] := rfl

theorem elseBlock_some (other : Text) :
    elseBlock (some other) = " else ".toList ++ branchBlock other := by
  have opened : " else \x7b\n  ".toList = " else ".toList ++ "\x7b\n  ".toList := by decide
  unfold elseBlock branchBlock
  rw [opened]
  simp only [List.append_assoc]

theorem ifStatement_branches : ifStatement ⟨line.condition, line.branches⟩ = line.shown := by
  have opened : ") \x7b\n  ".toList = ") ".toList ++ "\x7b\n  ".toList := by decide
  have block : line.shown = "if (".toList ++ trim line.condition ++ ") ".toList ++
      branchBlock line.branch ++ elseBlock line.alternative := by
    unfold shown branchBlock
    rw [opened]
    simp only [List.append_assoc]
  rw [block]
  unfold ifStatement branches
  cases line.alternative with
  | none => simp only [branchBlock_start, elseBlock_none]
  | some other => simp only [branchBlock_start, branchBlock_start_space, elseBlock_some]

theorem rewriteConditionals_source_append (ends : line.EndsBefore rest) :
    rewriteConditionals (line.source ++ rest) = line.shown ++ rewriteConditionals rest := by
  rw [← ifStatement_branches]
  exact conditionals.replace_of_found ifStatement (line.take_source_append ends)

/-- A text without the mark of conditionals is kept in front of a conditional, which is replaced
where it stands. -/
theorem rewriteConditionals_in_place {before : Text} (unmarked : '∇' ∉ before)
    (ends : line.EndsBefore rest) :
    rewriteConditionals (before ++ (line.source ++ rest)) =
      before ++ (line.shown ++ rewriteConditionals rest) := by
  have plain : ∀ c ∈ before, c ∉ ['∇'] := by
    intro c member isMark
    rw [List.mem_singleton.mp isMark] at member
    exact unmarked member
  rw [← line.rewriteConditionals_source_append ends]
  exact conditionals_startsWith.replace_append plain ifStatement (line.source ++ rest)

/-- A condition with brackets of both kinds on two lines, and a branch that holds the mark of
another. -/
def callOnTwoLines : ConditionalLine where
  blanks := "\n ".toList
  bracket := .angle
  condition := " f⟨a, (b⟩\n && ⟨⟩ ".toList
  branch := "  go(∇) ".toList
  alternative := some "⊘ stop\t".toList
  blank := by decide
  balanced := by decide
  isBranch := ⟨⟨'g', by decide, by decide⟩, by decide⟩
  isAlternative := by
    rintro other isOther
    cases isOther
    exact ⟨⟨'s', by decide, by decide⟩, by decide⟩

theorem rewriteConditionals_in_place_callOnTwoLines :
    '∇' ∉ "x → ".toList ∧ callOnTwoLines.EndsBefore "\n⊘ y".toList ∧
      rewriteConditionals ("x → ".toList ++ (callOnTwoLines.source ++ "\n⊘ y".toList)) =
        "x → ".toList ++ (callOnTwoLines.shown ++ rewriteConditionals "\n⊘ y".toList) := by
  have ends : callOnTwoLines.EndsBefore "\n⊘ y".toList := by
    refine ⟨?_, fun missing => nomatch missing⟩
    intro c isHead
    cases isHead
    rfl
  exact ⟨by decide, ends, callOnTwoLines.rewriteConditionals_in_place (by decide) ends⟩

end ConditionalLine

end SymbolScript.Construct
