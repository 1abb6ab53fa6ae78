import SymbolScript.Text.Basic

/-!
Paths of files. Reading a path drops empty parts and parts that are a single dot; a part of two
dots stays, because where it leads depends on the store.
-/

namespace SymbolScript

/-- The parts of a path, which starts with no slash, one slash or two. -/
structure Path where
  slashes : Nat := 0
  parts : List Text
deriving DecidableEq, Repr

namespace Path

def ofText (text : Text) : Path where
  slashes :=
    match (text.takeWhile (· == '/')).length with
    | 0 => 0
    | 2 => 2
    | _ => 1
  parts := (Text.splitOn '/' text).filter fun part => part != [] && part != ['.']

def toText (path : Path) : Text :=
  if path.slashes = 0 && path.parts.isEmpty then ['.']
  else List.replicate path.slashes '/' ++ Text.join "/" path.parts

example : (ofText "./d//../a.js/".toList).toText = "d/../a.js".toList := by decide

/-- Leaves out every part that the part of two dots after it leads back from. Parts of two dots
that nothing is in front of stay in a path without slashes, and go nowhere in any other. -/
def straighten (path : Path) : Path :=
  let step := fun (kept : List Text) (part : Text) =>
    match kept with
    | [] => if part = ['.', '.'] && path.slashes != 0 then [] else [part]
    | last :: others =>
      if part = ['.', '.'] && last != ['.', '.'] then others else part :: last :: others
  { path with parts := (path.parts.foldl step []).reverse }

example : (straighten (ofText "a/../../b".toList)).toText = "../b".toList := by decide

/-- The part of a name in front of its extension. An extension starts at the last dot, which is
neither the first nor the last character of the name. -/
def stem (name : Text) : Text :=
  let afterDot := name.reverse.takeWhile (· != '.')
  let beforeDot := name.take (name.length - afterDot.length - 1)
  if afterDot.isEmpty || beforeDot.isEmpty then name else beforeDot

example : stem "x.y.in".toList = "x.y".toList ∧ stem ".in".toList = ".in".toList ∧
    stem "dot.".toList = "dot.".toList ∧ stem "plain".toList = "plain".toList := by decide

def withExtension (extension : String) (path : Path) : Path :=
  match path.parts.getLast? with
  | none => path
  | some name => { path with parts := path.parts.dropLast ++ [stem name ++ extension.toList] }

end Path

end SymbolScript
