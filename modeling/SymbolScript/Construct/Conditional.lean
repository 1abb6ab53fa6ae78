import SymbolScript.Construct.Bracket
import SymbolScript.Text.Blank
import SymbolScript.Text.Recogniser

/-!
Conditionals: a condition in brackets, an arrow, a branch that ends with its line, and an optional
second branch. Either branch may stand in angle brackets.
-/

namespace SymbolScript.Construct

/-! ## Conditions -/

/-- Takes blanks and a balanced text in brackets off the front of a text. Parentheses and angle
brackets count, and only those of the kind that opened the condition. -/
def takeCondition? (text : Text) : Option (Text × Text) :=
  match text.dropWhile Text.isBlank with
  | '(' :: rest => splitClose? '(' ')' 0 rest
  | '⟨' :: rest => splitClose? '⟨' '⟩' 0 rest
  | _ => none

/-! ## Ends of lines -/

def endOfLine? (text : Text) : Option Text :=
  match text.dropWhile fun c => c == ' ' || c == '\t' with
  | [] => some []
  | '\n' :: rest => some ('\n' :: rest)
  | _ => none

/-- The part of a text that starts with its last line break. -/
def fromLastBreak? : Text → Option Text
  | [] => none
  | c :: rest =>
    match fromLastBreak? rest with
    | some tail => some tail
    | none => if c = '\n' then some (c :: rest) else none

/-- What is left of a text when a branch that would start after these blanks cannot be read: the
branch is then empty and ends in front of the last line break among them. -/
def emptyBranch? (blanks after : Text) : Option Text :=
  (fromLastBreak? blanks).map (· ++ after)

/-! ## Branches -/

structure Branches where
  consequent : Text
  alternative : Option Text
deriving DecidableEq, Repr

def dropAngle : Text → Text
  | '⟨' :: rest => rest
  | text => text

/-- Takes the second branch, which ends with the line or with an angle bracket at the end of the
line. -/
def takeAlternative? (text : Text) : Option (Text × Text) :=
  match Text.takeRun Text.isBlank text with
  | (blanks, start) =>
    match Text.takeRun (fun c => c != '⟩' && c != '\n') (dropAngle start) with
    | (branch, '⟩' :: after) =>
      match endOfLine? after with
      | some rest => some (branch, rest)
      | none => (emptyBranch? blanks start).map fun rest => ([], rest)
    | (branch, stop) => some (branch, stop)

def takeMarkedAlternative? (text : Text) : Option (Text × Text) :=
  match text.dropWhile Text.isBlank with
  | '⊘' :: rest => takeAlternative? rest
  | _ => none

/-- Takes branches whose first character is not blank. -/
def takeStartedBranches? (start : Text) : Option (Branches × Text) :=
  match Text.takeRun (fun c => c != '⟩' && c != '⊘' && c != '\n') (dropAngle start) with
  | (branch, '⟩' :: after) =>
    match takeMarkedAlternative? after with
    | some (other, rest) => some (⟨branch, some other⟩, rest)
    | none => (endOfLine? after).map fun rest => (⟨branch, none⟩, rest)
  | (branch, '⊘' :: after) =>
    (takeAlternative? after).map fun (other, rest) => (⟨branch, some other⟩, rest)
  | (branch, stop) =>
    match takeMarkedAlternative? stop with
    | some (other, rest) => some (⟨branch, some other⟩, rest)
    | none => some (⟨branch, none⟩, stop)

def takeBranches? (text : Text) : Option (Branches × Text) :=
  match text.dropWhile Text.isBlank with
  | '→' :: afterArrow =>
    match Text.takeRun Text.isBlank afterArrow with
    | (blanks, start) =>
      match takeStartedBranches? start with
      | some branches => some branches
      | none => (emptyBranch? blanks start).map fun rest => (⟨[], none⟩, rest)
  | _ => none

/-! ## What is left is no longer than the text -/

theorem length_dropWhile_le (inClass : Char → Bool) (text : Text) :
    (text.dropWhile inClass).length ≤ text.length :=
  (List.dropWhile_sublist inClass).length_le

theorem length_takeCondition? {text condition rest : Text}
    (taken : takeCondition? text = some (condition, rest)) : rest.length < text.length := by
  have blanks := length_dropWhile_le Text.isBlank text
  unfold takeCondition? at taken
  split at taken
  · next open_ =>
    have shorter := (length_of_splitClose? taken).2
    rw [open_, List.length_cons] at blanks
    omega
  · next open_ =>
    have shorter := (length_of_splitClose? taken).2
    rw [open_, List.length_cons] at blanks
    omega
  · simp at taken

theorem length_endOfLine? {text rest : Text} (ended : endOfLine? text = some rest) :
    rest.length ≤ text.length := by
  have blanks := length_dropWhile_le (fun c => c == ' ' || c == '\t') text
  unfold endOfLine? at ended
  split at ended
  · simp_all
  · next line =>
    rw [line] at blanks
    simp only [Option.some.injEq] at ended
    rwa [← ended]
  · simp at ended

theorem length_fromLastBreak? {text tail : Text} (found : fromLastBreak? text = some tail) :
    tail.length ≤ text.length := by
  induction text generalizing tail with
  | nil => simp [fromLastBreak?] at found
  | cons c rest induction =>
    unfold fromLastBreak? at found
    split at found
    · next tail' deeper =>
      have fits := induction deeper
      simp only [Option.some.injEq] at found
      rw [← found, List.length_cons]
      omega
    · split at found
      · simp only [Option.some.injEq] at found
        simp [← found]
      · simp at found

theorem length_emptyBranch? {blanks after rest : Text}
    (found : emptyBranch? blanks after = some rest) :
    rest.length ≤ blanks.length + after.length := by
  obtain ⟨tail, last, equal⟩ := Option.map_eq_some_iff.mp found
  have fits := length_fromLastBreak? last
  rw [← equal, List.length_append]
  omega

theorem length_dropAngle (text : Text) : (dropAngle text).length ≤ text.length := by
  unfold dropAngle
  split
  · simp
  · exact Nat.le_refl _

theorem length_takeRun (inClass : Char → Bool) (text : Text) :
    (Text.takeRun inClass text).1.length + (Text.takeRun inClass text).2.length = text.length := by
  have parts := congrArg List.length
    (List.takeWhile_append_dropWhile (p := inClass) (l := text))
  rw [List.length_append] at parts
  exact parts

theorem length_takeAlternative? {text branch rest : Text}
    (taken : takeAlternative? text = some (branch, rest)) : rest.length ≤ text.length := by
  have blankParts := length_takeRun Text.isBlank text
  unfold takeAlternative? at taken
  split at taken
  next blanks start blankRun =>
  rw [blankRun] at blankParts
  have angle := length_dropAngle start
  have branchParts := length_takeRun (fun c => c != '⟩' && c != '\n') (dropAngle start)
  split at taken
  · next branchRun =>
    rw [branchRun] at branchParts
    split at taken
    · next ended =>
      have lineFits := length_endOfLine? ended
      simp only [Option.some.injEq, Prod.mk.injEq] at taken
      rw [← taken.2]
      simp only [List.length_cons] at branchParts blankParts
      omega
    · obtain ⟨last, empty, equal⟩ := Option.map_eq_some_iff.mp taken
      have fits := length_emptyBranch? empty
      simp only [Prod.mk.injEq] at equal
      rw [← equal.2]
      simp only at blankParts
      omega
  · next branchRun =>
    rw [branchRun] at branchParts
    simp only [Option.some.injEq, Prod.mk.injEq] at taken
    rw [← taken.2]
    simp only at branchParts blankParts
    omega

theorem length_takeMarkedAlternative? {text branch rest : Text}
    (taken : takeMarkedAlternative? text = some (branch, rest)) : rest.length ≤ text.length := by
  have blanks := length_dropWhile_le Text.isBlank text
  unfold takeMarkedAlternative? at taken
  split at taken
  · next marked =>
    have fits := length_takeAlternative? taken
    rw [marked, List.length_cons] at blanks
    omega
  · simp at taken

theorem length_takeStartedBranches? {text rest : Text} {branches : Branches}
    (taken : takeStartedBranches? text = some (branches, rest)) : rest.length ≤ text.length := by
  have angle := length_dropAngle text
  have parts := length_takeRun (fun c => c != '⟩' && c != '⊘' && c != '\n') (dropAngle text)
  unfold takeStartedBranches? at taken
  split at taken
  · next run =>
    rw [run] at parts
    simp only [List.length_cons] at parts
    split at taken
    · next marked =>
      have fits := length_takeMarkedAlternative? marked
      simp only [Option.some.injEq, Prod.mk.injEq] at taken
      rw [← taken.2]
      omega
    · obtain ⟨last, ended, equal⟩ := Option.map_eq_some_iff.mp taken
      have fits := length_endOfLine? ended
      simp only [Prod.mk.injEq] at equal
      rw [← equal.2]
      omega
  · next run =>
    rw [run] at parts
    simp only [List.length_cons] at parts
    obtain ⟨⟨other, last⟩, marked, equal⟩ := Option.map_eq_some_iff.mp taken
    have fits := length_takeAlternative? marked
    simp only [Prod.mk.injEq] at equal
    rw [← equal.2]
    omega
  · next run =>
    rw [run] at parts
    simp only at parts
    split at taken
    · next marked =>
      have fits := length_takeMarkedAlternative? marked
      simp only [Option.some.injEq, Prod.mk.injEq] at taken
      rw [← taken.2]
      omega
    · simp only [Option.some.injEq, Prod.mk.injEq] at taken
      rw [← taken.2]
      omega

theorem length_takeBranches? {text rest : Text} {branches : Branches}
    (taken : takeBranches? text = some (branches, rest)) : rest.length ≤ text.length := by
  have blankFits := length_dropWhile_le Text.isBlank text
  unfold takeBranches? at taken
  split at taken
  · next afterArrow arrow =>
    rw [arrow, List.length_cons] at blankFits
    have parts := length_takeRun Text.isBlank afterArrow
    split at taken
    next blanks start run =>
    rw [run] at parts
    simp only at parts
    split at taken
    · next started =>
      simp only [Option.some.injEq] at taken
      rw [taken] at started
      have fits := length_takeStartedBranches? started
      omega
    · obtain ⟨last, empty, equal⟩ := Option.map_eq_some_iff.mp taken
      have fits := length_emptyBranch? empty
      simp only [Prod.mk.injEq] at equal
      rw [← equal.2]
      omega
  · simp at taken

/-! ## Conditionals -/

structure Conditional where
  condition : Text
  branches : Branches
deriving DecidableEq, Repr

def takeConditional? : Text → Option (Conditional × Text)
  | '∇' :: rest =>
    match takeCondition? rest with
    | none => none
    | some (condition, afterCondition) =>
      (takeBranches? afterCondition).map fun (branches, after) => (⟨condition, branches⟩, after)
  | _ => none

def conditionals : Text.Recogniser Conditional where
  take := takeConditional?
  shorter := by
    intro text found rest taken
    unfold takeConditional? at taken
    split at taken
    · split at taken
      · simp at taken
      · next condition =>
        obtain ⟨⟨branches, after⟩, branched, equal⟩ := Option.map_eq_some_iff.mp taken
        have conditionShorter := length_takeCondition? condition
        have branchesFit := length_takeBranches? branched
        simp only [Prod.mk.injEq] at equal
        rw [← equal.2, List.length_cons]
        omega
    · simp at taken

def branchBlock (branch : Text) : Text :=
  "\x7b\n  ".toList ++ Text.trim branch ++ "\n\x7d".toList

def ifStatement (conditional : Conditional) : Text :=
  "if (".toList ++ Text.trim conditional.condition ++ ") ".toList ++
    branchBlock conditional.branches.consequent ++
    match conditional.branches.alternative with
    | none => []
    | some other => " else ".toList ++ branchBlock other

def rewriteConditionals (source : Text) : Text :=
  conditionals.replace ifStatement source

example : rewriteConditionals "∇(a) → b ⊘ c".toList =
    "if (a) \x7b\n  b\n\x7d else \x7b\n  c\n\x7d".toList := by decide +kernel

end SymbolScript.Construct
