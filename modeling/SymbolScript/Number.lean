import SymbolScript.Decimal.Fixed
import SymbolScript.Decimal.Reading
import SymbolScript.Decimal.Shortest

/-! Numbers: integers of any size and doubles, with the arithmetic that mixes them. -/

namespace SymbolScript

inductive Number
  | whole (value : Int)
  | real (value : Float)

/-- The integer a double stands for when it has no fraction. -/
def wholeOf? (x : Float) : Option Int :=
  match Decimal.Binary.ofFloat? x with
  | none => none
  | some value =>
    if value.isWhole then
      some (if Decimal.isNegative x then -(value.floor : Int) else value.floor)
    else none

def ceiling (x : Float) : Except Failure Int :=
  match Decimal.Binary.ofFloat? x with
  | none => if x.isNaN then .error (.value .wholeOfNotANumber) else .error (.range .wholeOfInfinity)
  | some value => .ok (if Decimal.isNegative x then -(value.floor : Int) else value.ceil)

/-- The double nearest to an integer; an integer beyond the largest double has none. -/
def floatOfInt (number : Int) : Except Failure Float :=
  let nearest := Decimal.nearest (number < 0) number.natAbs 1
  if nearest.isInf then .error (.range .integerTooLarge) else .ok nearest

namespace Number

def isZero : Number → Bool
  | whole value => value == 0
  | real value => value == 0

def toFloat : Number → Except Failure Float
  | whole value => floatOfInt value
  | real value => .ok value

def negate : Number → Number
  | whole value => whole (-value)
  | real value => real (-value)

def subtract : Number → Number → Except Failure Number
  | whole left, whole right => .ok (whole (left - right))
  | left, right => do return real ((← left.toFloat) - (← right.toFloat))

def multiply : Number → Number → Except Failure Number
  | whole left, whole right => .ok (whole (left * right))
  | left, right => do return real ((← left.toFloat) * (← right.toFloat))

def divide (left right : Number) : Except Failure Float :=
  if right.isZero then .error .zeroDivision
  else match left, right with
    | whole above, whole below =>
      let negative := (above < 0) != (below < 0)
      let quotient := Decimal.nearest negative above.natAbs below.natAbs
      if quotient.isInf then .error (.range .quotientTooLarge) else .ok quotient
    | left, right => do return (← left.toFloat) / (← right.toFloat)

/-- Whether a number is below another one; an integer and a double are compared exactly, and
nothing is below or above what is not a number. -/
def less : Number → Number → Bool
  | whole left, whole right => left < right
  | real left, real right => left < right
  | whole left, real right => lessThanReal left right
  | real left, whole right => !left.isNaN && lessThanReal (-right) (-left)
where
  lessThanReal (left : Int) (right : Float) : Bool :=
    match Decimal.Binary.ofFloat? right with
    | none => !right.isNaN && !Decimal.isNegative right
    | some value =>
      let numerator : Int := value.numerator
      let signed := if Decimal.isNegative right then -numerator else numerator
      left * value.denominator < signed

def isComparable : Number → Bool
  | whole _ => true
  | real value => !value.isNaN

def isFinite : Number → Bool
  | whole _ => true
  | real value => !value.isNaN && !value.isInf

def shown : Number → Except Failure Text
  | whole value => Decimal.write value
  | real value => .ok (Decimal.ofFloat value)

/-- A number as JavaScript source spells it: infinities by name, whole doubles without a
fraction. -/
def spelled : Number → Except Failure Text
  | whole value => Decimal.write value
  | real value =>
    if value.isInf then
      .ok (if Decimal.isNegative value then "-Infinity".toList else "Infinity".toList)
    else match wholeOf? value with
      | some integer => .ok (Decimal.ofInt integer)
      | none => .ok (Decimal.ofFloat value)

end Number

end SymbolScript
