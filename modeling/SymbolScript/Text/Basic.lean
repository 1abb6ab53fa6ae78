import SymbolScript.Instances

/-!
Texts and the operations on them that need no character table: runs, trimming, splitting, joining
and replacing single characters.
-/

namespace SymbolScript

/-- A text is the list of its code points, so every length and offset counts code points. -/
abbrev Text := List Char

namespace Text

/-! ## Runs -/

def mapRuns (inClass : Char → Bool) (rewrite : Text → Text) : Text → Text
  | [] => []
  | head :: tail =>
    if inClass head then
      rewrite (head :: tail.takeWhile inClass) ++ mapRuns inClass rewrite (tail.dropWhile inClass)
    else
      head :: mapRuns inClass rewrite tail
termination_by text => text.length
decreasing_by
  · have shorter := (List.dropWhile_sublist inClass (l := tail)).length_le
    simp only [List.length_cons]
    omega
  · simp

def runs (inClass : Char → Bool) : Text → List Text
  | [] => []
  | head :: tail =>
    if inClass head then
      (head :: tail.takeWhile inClass) :: runs inClass (tail.dropWhile inClass)
    else
      runs inClass tail
termination_by text => text.length
decreasing_by
  · have shorter := (List.dropWhile_sublist inClass (l := tail)).length_le
    simp only [List.length_cons]
    omega
  · simp

/-! ## Trimming -/

def trimBy (inClass : Char → Bool) (text : Text) : Text :=
  ((text.dropWhile inClass).reverse.dropWhile inClass).reverse

/-! ## Splitting and joining -/

/-- The pieces between the separators; a text without separators is one piece. -/
def splitOn (separator : Char) : Text → List Text
  | [] => [[]]
  | c :: rest =>
    if c = separator then
      [] :: splitOn separator rest
    else
      match splitOn separator rest with
      | [] => [[c]]
      | piece :: pieces => (c :: piece) :: pieces

/-- The text before the first separator and, if there is one, the text after it. -/
def cutAt (separator : Char) : Text → Text × Option Text
  | [] => ([], none)
  | c :: rest =>
    if c = separator then
      ([], some rest)
    else
      let (before, after) := cutAt separator rest
      (c :: before, after)

def join (separator : String) (pieces : List Text) : Text :=
  separator.toList.intercalate pieces

example : join ", " (splitOn '-' "a-b-c".toList) = "a, b, c".toList := by decide
example : cutAt ':' "k:v:w".toList = ("k".toList, some "v:w".toList) := by decide

/-! ## Replacing characters -/

def replaceChar (target : Char) (replacement : Text) (text : Text) : Text :=
  text.flatMap fun c => if c = target then replacement else [c]

def holds (text : Text) (c : Char) : Bool :=
  text.contains c

end Text

end SymbolScript
