import SymbolScript.Text.Blank

/-! Fields of a block: the pieces between separators that stand outside brackets and quotes. -/

namespace SymbolScript.Construct

def isQuote (c : Char) : Bool :=
  c == '\x27' || c == '\x22' || c == '\x60'

def isNestingOpener (c : Char) : Bool :=
  c == '(' || c == '[' || c == '{'

def isNestingCloser (c : Char) : Bool :=
  c == ')' || c == ']' || c == '}'

/-- The field that a text starts with and the fields after it, read inside an open quote or at a
depth of nested brackets. The depth falls below zero after a closing bracket too many. -/
def scanFields (isSeparator : Char → Bool) : Option Char → Int → Text → Text × List Text
  | _, _, [] => ([], [])
  | some quote, depth, c :: rest =>
    let (field, fields) :=
      scanFields isSeparator (if c = quote then none else some quote) depth rest
    (c :: field, fields)
  | none, depth, c :: rest =>
    if isQuote c then
      let (field, fields) := scanFields isSeparator (some c) depth rest
      (c :: field, fields)
    else if isNestingOpener c then
      let (field, fields) := scanFields isSeparator none (depth + 1) rest
      (c :: field, fields)
    else if isNestingCloser c then
      let (field, fields) := scanFields isSeparator none (depth - 1) rest
      (c :: field, fields)
    else if isSeparator c && depth == 0 then
      let (field, fields) := scanFields isSeparator none depth rest
      ([], field :: fields)
    else
      let (field, fields) := scanFields isSeparator none depth rest
      (c :: field, fields)

/-- The fields of a text, trimmed; fields that are blank are dropped. -/
def fields (isSeparator : Char → Bool) (text : Text) : List Text :=
  let (field, rest) := scanFields isSeparator none 0 text
  ((field :: rest).map Text.trim).filter fun piece => !piece.isEmpty

def isComma (c : Char) : Bool :=
  c == ','

def isSemicolonOrComma (c : Char) : Bool :=
  c == ';' || c == ','

def parameters (text : Text) : List Text :=
  ((Text.splitOn ',' text).map Text.trim).filter fun name => !name.isEmpty

def parameterList (text : Text) : Text :=
  Text.join ", " (parameters text)

example : fields isComma "a, f(b,c), 'd,e',".toList =
    ["a".toList, "f(b,c)".toList, "'d,e'".toList] := by decide +kernel

end SymbolScript.Construct
