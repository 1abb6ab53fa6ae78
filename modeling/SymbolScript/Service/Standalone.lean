import SymbolScript.Decimal.Reading
import SymbolScript.Service.Endpoint

/-!
A framework in which the service runs without any other one. It takes spellings of truth values and
numbers in place of them, and checks all fields of a body, also after one was refused. What is
proved of the service holds in every framework that sends JSON as this one does.
-/

namespace SymbolScript.Service.Standalone

/-! ## Integers -/

/-- Takes off a leading plus sign, after which there is no minus sign. -/
def withoutPlus? : Text → Option Text
  | '+' :: '-' :: _ => none
  | '+' :: rest => some rest
  | text => some text

def startsInteger (c : Char) : Bool :=
  c == '-' || ('1' ≤ c && c ≤ '9')

/-- Passes over zeros and underscores. The last of them stays if a point or nothing follows. -/
def passZeros? (last : Char) : Text → Option Text
  | [] => some [last]
  | c :: rest =>
    if c == '0' || c == '_' then passZeros? c rest
    else if startsInteger c then some (c :: rest)
    else if c == '.' then some (last :: c :: rest)
    else none

def withoutLeadingZeros? : Text → Option Text
  | [] => none
  | c :: rest =>
    if c == '0' then passZeros? c rest
    else if startsInteger c then some (c :: rest)
    else none

def withoutZeroFraction (text : Text) : Text :=
  match Text.cutAt '.' text with
  | (whole, some fraction) =>
    if !fraction.isEmpty && fraction.all (· == '0') then whole else text
  | (_, none) => text

/-- Removes underscores, each of which stands alone and inside the text. -/
def withoutInnerUnderscores? (text : Text) : Option Text :=
  Decimal.withoutUnderscores? (· != '_') false text

def integerOfText? (text : Text) : Option Int := do
  let unsigned ← withoutPlus? (Text.trimBy Decimal.isMargin text)
  let numeral ← withoutLeadingZeros? unsigned
  Decimal.readStrict? (← withoutInnerUnderscores? (withoutZeroFraction numeral))

example : integerOfText? "+0_42.00".toList = some 42 := rfl

example : integerOfText? "42.".toList = none := rfl

/-! ## Doubles -/

/-- The double that a text spells. Margins are passed over only if there are no underscores. -/
def doubleOfText? (text : Text) : Option Float :=
  (Decimal.readPlain? (Text.trimBy Decimal.isMargin text)).or
    ((withoutInnerUnderscores? text).bind Decimal.readPlain?)

/-! ## Truth values -/

def trueSpellings : List String := ["1", "t", "y", "on", "yes", "true"]

def falseSpellings : List String := ["0", "f", "n", "no", "off", "false"]

def isSpelled (spellings : List String) (text : Text) : Bool :=
  spellings.any fun spelling => spelling.toList == text.map Char.toLower

def boolOfNumber? (number : Number) : Option Bool :=
  match number with
  | .whole value => if value = 1 then some true else if value = 0 then some false else none
  | .real value => if value == 1 then some true else if value == 0 then some false else none

def readBool? : Value → Option Bool
  | .bool value => some value
  | .number number => boolOfNumber? number
  | .text text =>
    if isSpelled trueSpellings text then some true
    else if isSpelled falseSpellings text then some false
    else none
  | _ => none

/-! ## Numbers -/

/-- An integer or a double; a text is read as an integer if it is one. -/
def readNumber? : Value → Option Number
  | .number number => some number
  | .bool value => some (.whole (if value then 1 else 0))
  | .text text =>
    match integerOfText? text with
    | some value => some (.whole value)
    | none => (doubleOfText? text).map .real
  | _ => none

def readDouble? : Value → Option Float
  | .number number => number.toFloat.toOption
  | .bool value => some (if value then 1 else 0)
  | .text text => doubleOfText? text
  | _ => none

/-! ## Fields -/

/-- The outcome of a check: what was found, or every value that was refused. -/
inductive Checked (α : Type)
  | valid (found : α)
  | invalid (refused : List Value)

namespace Checked

def reading (read : Value → Option α) (value : Value) : Checked α :=
  match read value with
  | some found => valid found
  | none => invalid [value]

def map (transform : α → β) : Checked α → Checked β
  | valid found => valid (transform found)
  | invalid refused => invalid refused

def apply : Checked (α → β) → Checked α → Checked β
  | valid transform, argument => argument.map transform
  | invalid refused, valid _ => invalid refused
  | invalid refused, invalid alsoRefused => invalid (refused ++ alsoRefused)

instance : Applicative Checked where
  pure := valid
  map := map
  seq transform argument := transform.apply (argument ())

end Checked

def readAs? : (type : FieldType) → Value → Option type.Denote
  | .text, .text text => some text
  | .text, _ => none
  | .optionalText, .null => some none
  | .optionalText, .text text => some (some text)
  | .optionalText, _ => none
  | .truth, value => readBool? value
  | .number, value => readNumber? value
  | .double, value => readDouble? value

def checkField (body : Dictionary Text Value) (field : Field) : Checked field.type.Denote :=
  match Dictionary.get? body field.name.toList, field.default? with
  | some given, _ => .reading (readAs? field.type) given
  | none, some value => .valid value
  | none, none => .invalid [.object body]

def checkFields (body : Dictionary Text Value) : (fields : List Field) → Checked (Arguments fields)
  | [] => .valid ()
  | field :: rest => Prod.mk <$> checkField body field <*> checkFields body rest

/-! ## Requests -/

def bodyFor (endpoint : Endpoint) (request : Request) : Option (Dictionary Text Value) :=
  match endpoint.method, request.body with
  | .get, _ => some (request.query.map fun (name, text) => (name, .text text))
  | .post, some (.object body) => some body
  | .post, _ => none

def unrouted (status : Nat) (detail : String) : Answer :=
  ⟨status, .json (.object [Action.entry "detail" (Action.textOf detail)])⟩

def receiveAt (endpoint : Endpoint) (request : Request) : Reception :=
  if request.method.map Char.toUpper ≠ endpoint.method.spelling.toList then
    .answered (unrouted 405 "Method Not Allowed")
  else match bodyFor endpoint request with
    | none => .answered ⟨422, .refusals [request.body.getD .null]⟩
    | some body =>
      match checkFields body endpoint.fields with
      | .valid arguments => .called endpoint arguments
      | .invalid refused => .answered ⟨422, .refusals refused⟩

def withoutSlashes (path : Text) : Text :=
  (path.reverse.dropWhile (· == '/')).reverse

/-- Finds an endpoint by its path. From a path with slashes at its end, a request is redirected to
the path without them, and it is made again there. -/
def endpoint? (endpoints : List Endpoint) (path : Text) : Option Endpoint :=
  let at? (path : Text) := endpoints.find? fun endpoint => endpoint.path.toList == path
  (at? path).or (if path = ['/'] then none else at? (withoutSlashes path))

/-- Receives a request, unless its body holds an integer beyond the digit limit and cannot be
written. -/
def receive (endpoints : List Endpoint) (request : Request) : Except Failure Reception := do
  (request.body.getD .null).numbers.forM fun number => discard number.shown
  match endpoint? endpoints request.path with
  | none => return .answered (unrouted 404 "Not Found")
  | some endpoint => return receiveAt endpoint request

/-! ## Answers -/

def checkNumber (number : Number) : Except Failure Unit := do
  if !number.isFinite then throw (.value .infiniteNumber)
  discard number.shown

def send (answer : Answer) : Except Failure Answer := do
  (answer.content.values.flatMap Value.numbers).forM checkNumber
  return answer

end Standalone

def standalone : Framework where
  receive := Standalone.receive
  send := Standalone.send
  failureStatus := 500

end SymbolScript.Service
