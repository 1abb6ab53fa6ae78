import SymbolScript.Decimal.Binary
import SymbolScript.Failure
import SymbolScript.Text.Blank
import SymbolScript.Text.Digit

/-!
Reading decimal numerals. Digits of every script count, blanks around a numeral are passed over,
and single underscores may stand between digits.
-/

namespace SymbolScript.Decimal

/-! ## Plain form -/

def isPlainDigit (c : Char) : Bool :=
  '0' ≤ c && c ≤ '9'

def plainDigitValue (c : Char) : Nat :=
  c.toNat - 48

def readDigits (digits : Text) : Nat :=
  Positional.read 10 (digits.map plainDigitValue)

/-- The blanks that may surround a numeral: all but the four information separators. -/
def isMargin (c : Char) : Bool :=
  Text.isBlank c && !(28 ≤ c.toNat && c.toNat ≤ 31)

/-- A numeral without its margins, in plain digits. A question mark, which no numeral holds, takes
the place of any other character outside ASCII. -/
def plainForm (text : Text) : Text :=
  (Text.trimBy isMargin text).map fun c =>
    if c.toNat < 127 then c
    else match Text.digitValue? c with
      | some value => digitChar value
      | none => '?'

def takeSign : Text → Bool × Text
  | '-' :: rest => (true, rest)
  | '+' :: rest => (false, rest)
  | text => (false, text)

/-- Removes the underscores of a text, each of which has to stand between two characters of a
class. -/
def withoutUnderscores? (inClass : Char → Bool) (afterMember : Bool) : Text → Option Text
  | [] => some []
  | c :: rest =>
    if c = '_' then
      if afterMember && rest.head?.any inClass then withoutUnderscores? inClass false rest else none
    else (withoutUnderscores? inClass (inClass c) rest).map (c :: ·)

/-! ## Integers -/

/-- Reads an integer. The digit limit is checked before anything that follows the digits. -/
def readInt (text : Text) : Except Failure Int :=
  let (negative, body) := takeSign (plainForm text)
  let run := body.takeWhile fun c => isPlainDigit c || c == '_'
  match withoutUnderscores? isPlainDigit false run with
  | none => .error (.value (.notAnInteger text))
  | some digits =>
    if digitLimit < digits.length then .error (.value (.tooManyDigitsToRead digits.length))
    else if run.isEmpty || run.length < body.length then
      .error (.value (.notAnInteger text))
    else
      .ok (if negative then -(readDigits digits : Int) else readDigits digits)

/-- Reads an integer that is spelled without needless zeros: plain digits after an optional minus
sign. The digit limit counts the sign too. -/
def readStrict? (text : Text) : Option Int :=
  let (negative, digits) :=
    match text with
    | '-' :: rest => (true, rest)
    | _ => (false, text)
  let isStrict := !digits.isEmpty && digits.all isPlainDigit &&
    (digits.length == 1 || digits.head? != some '0')
  if isStrict && text.length ≤ digitLimit then
    some (if negative then -(readDigits digits : Int) else readDigits digits)
  else none

def write (number : Int) : Except Failure Text :=
  if isWritable number then .ok (ofInt number) else .error (.value .tooManyDigitsToWrite)

/-! ## Doubles -/

/-- The double nearest to `digits · 10 ^ exponent`. Powers far outside the range of doubles are
settled without computing them. -/
def nearestScaled (negative : Bool) (digits : Nat) (exponent : Int) : Float :=
  let position := ((ofNat digits).length : Int) + exponent
  if digits = 0 ∨ position < -330 then nearest negative 0 1
  else if 310 < position then if negative then -infinity else infinity
  else nearest negative (digits * 10 ^ exponent.toNat) (10 ^ (-exponent).toNat)

def readExponent? : Text → Option Int
  | [] => some 0
  | mark :: rest =>
    let (negative, digits) := takeSign rest
    if (mark == 'e' || mark == 'E') && !digits.isEmpty && digits.all isPlainDigit then
      some (if negative then -(readDigits digits : Int) else readDigits digits)
    else none

def readScaled? (negative : Bool) (text : Text) : Option Float :=
  let whole := text.takeWhile isPlainDigit
  let afterWhole := text.dropWhile isPlainDigit
  let (fraction, afterFraction) :=
    match afterWhole with
    | '.' :: rest => (rest.takeWhile isPlainDigit, rest.dropWhile isPlainDigit)
    | rest => ([], rest)
  if whole.isEmpty && fraction.isEmpty then none
  else
    (readExponent? afterFraction).map fun exponent =>
      nearestScaled negative (readDigits (whole ++ fraction)) (exponent - fraction.length)

/-- Reads a double in plain characters: a decimal numeral, or the name of infinity or of the
not-a-number in any mix of upper and lower case. -/
def readPlain? (text : Text) : Option Float :=
  let (negative, body) := takeSign text
  let name := body.map Char.toLower
  if name = "inf".toList ∨ name = "infinity".toList then
    some (if negative then -infinity else infinity)
  else if name = "nan".toList then some notANumber
  else readScaled? negative body

def readFloat? (text : Text) : Option Float :=
  (withoutUnderscores? isPlainDigit false (plainForm text)).bind readPlain?

def readFloat (text : Text) : Except Failure Float :=
  match readFloat? text with
  | some value => .ok value
  | none => .error (.value (.notADecimal text))

end SymbolScript.Decimal
