import SymbolScript.Text.Basic

/-!
Recognisers take one match off the front of a text. A text is then read from left to right as a
sequence of matches, which do not overlap, and of plain characters at which no match starts.
-/

namespace SymbolScript.Text

/-- A match of a recogniser uses up at least one character. -/
structure Recogniser (Match : Type) where
  take : Text → Option (Match × Text)
  shorter : ∀ {text found rest}, take text = some (found, rest) → rest.length < text.length

inductive Piece (Match : Type)
  | plain (c : Char)
  | found (value : Match)
deriving DecidableEq, Repr

namespace Piece

def render (spell : Match → Text) : Piece Match → Text
  | plain c => [c]
  | found value => spell value

def renderOr (spell : Match → Except ε Text) : Piece Match → Except ε Text
  | plain c => .ok [c]
  | found value => spell value

def found? : Piece Match → Option Match
  | plain _ => none
  | found value => some value

end Piece

namespace Recogniser

def pieces (recogniser : Recogniser Match) (text : Text) : List (Piece Match) :=
  match text with
  | [] => []
  | c :: rest =>
    match _ : recogniser.take (c :: rest) with
    | some (value, after) => .found value :: recogniser.pieces after
    | none => .plain c :: recogniser.pieces rest
termination_by text.length
decreasing_by
  · exact recogniser.shorter (by assumption)
  · simp

def replace (recogniser : Recogniser Match) (spell : Match → Text) (text : Text) : Text :=
  (recogniser.pieces text).flatMap (Piece.render spell)

/-- Puts a text in place of every match; the first match that has no text fails. -/
def replaceOr (recogniser : Recogniser Match) (spell : Match → Except ε Text)
    (text : Text) : Except ε Text :=
  ((recogniser.pieces text).mapM (Piece.renderOr spell)).map List.flatten

def all (recogniser : Recogniser Match) (text : Text) : List Match :=
  (recogniser.pieces text).filterMap Piece.found?

def first? (recogniser : Recogniser Match) (text : Text) : Option Match :=
  (recogniser.pieces text).findSome? Piece.found?

/-- Each match with the offset at which its text starts, where `spell` gives back that text. -/
def located (spell : Match → Text) : Nat → List (Piece Match) → List (Nat × Text)
  | _, [] => []
  | offset, .plain _ :: rest => located spell (offset + 1) rest
  | offset, .found value :: rest =>
    (offset, spell value) :: located spell (offset + (spell value).length) rest

end Recogniser

/-! ## Parts of a match -/

def takeRun (inClass : Char → Bool) (text : Text) : Text × Text :=
  (text.takeWhile inClass, text.dropWhile inClass)

theorem length_takeRun_le (inClass : Char → Bool) (text : Text) :
    (takeRun inClass text).2.length ≤ text.length :=
  (List.dropWhile_sublist inClass).length_le

end SymbolScript.Text
