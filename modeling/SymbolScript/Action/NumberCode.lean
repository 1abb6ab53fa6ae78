import SymbolScript.Action.Basic
import SymbolScript.Base64Number.Literal
import SymbolScript.VectorNumber.Basic

/-! The actions that encode and decode a number. -/

namespace SymbolScript.Action

/-! ## Formats -/

inductive NumberFormat
  | vector
  | base64
deriving DecidableEq, Repr

namespace NumberFormat

def spelling : NumberFormat → String
  | vector => "vector"
  | base64 => "base64"

def find? (name : Value) : Option NumberFormat :=
  [vector, base64].find? fun format => name.isText format.spelling

def detect (literal : Text) : NumberFormat :=
  if literal.head? = some '#' then .base64
  else if Text.holds literal VectorNumber.cross then .vector
  else .base64

end NumberFormat

/-! ## Encoding -/

/-- The vector literal of a value; truth values have literals of their own. -/
def encodeVector : Value → Except Failure Text
  | .bool value => .ok [VectorNumber.cross, if value then '⊤' else '⊥']
  | .number value => VectorNumber.encode value
  | value => do throw (.number (.notEncodable (← value.shown)))

def encodeBase64 : Value → Except Failure Text
  | .number (.whole value) => Base64Number.encode value
  | value => do throw (.number (.notWhole (← value.shown)))

/-- A double without a fraction as an integer; any other value stays. -/
def asWhole (value : Value) : Value :=
  match value with
  | .number (.real x) =>
    match wholeOf? x with
    | some number => wholeOf number
    | none => value
  | _ => value

def encodeNumber : Handler := fun request => do
  match request.field? "value" with
  | none => return missing "value"
  | some value =>
    let wanted := request.fieldOr "format" (textOf NumberFormat.vector.spelling)
    match NumberFormat.find? wanted with
    | none => unknown "format" wanted
    | some .vector =>
      let literal ← encodeVector value
      return .fields [entry "format" wanted, entry "value" value, entry "literal" (.text literal)]
    | some .base64 =>
      let number := asWhole value
      let literal := Base64Number.literal (← encodeBase64 number)
      return .fields [entry "format" wanted, entry "value" number, entry "literal" (.text literal)]

/-! ## Decoding -/

/-- The number that a literal stands for in a format. A base-64 number is either a literal after a
number sign or bare digits. -/
def decodeIn : NumberFormat → Text → Except Failure Number
  | .vector, literal => VectorNumber.decode literal
  | .base64, literal =>
    if literal.head? = some '#' then
      return .whole (← Base64Number.decodeLiteral literal)
    else
      return .whole (← Base64Number.decode literal)

/-- A number as an answer shows it: infinities are spelled out. -/
def answerNumber (number : Number) : Except Failure Value :=
  match number with
  | .real x => if x.isInf || x.isNaN then return .text (← number.spelled) else return .number number
  | .whole _ => .ok (.number number)

def cannotDecode (value : Value) : NumberFormat → Failure
  | .vector => .missingMember value.typeName "strip"
  | .base64 => .missingMember value.typeName "startswith"

def decodeNumber : Handler := fun request => do
  let literal := request.fieldOr "literal" .null
  if !literal.isTrue then return missing "literal"
  let wanted := request.fieldOr "format" .null
  let format ←
    if wanted.isTrue then
      match NumberFormat.find? wanted with
      | some format => pure format
      | none => throw (.number (.unknownFormat (← wanted.shown)))
    else
      match literal with
      | .text text => pure (NumberFormat.detect text)
      | value => throw (cannotDecode value .base64)
  match literal with
  | .text text =>
    let number ← decodeIn format text
    return .fields [entry "format" (textOf format.spelling), entry "literal" literal,
      entry "value" (← answerNumber number)]
  | value => throw (cannotDecode value format)

end SymbolScript.Action
