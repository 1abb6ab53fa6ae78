import SymbolScript.Decimal.Basic
import SymbolScript.Decimal.Binary

/-!
The shortest decimal that reads back as a given double: of the decimals with the fewest digits
that round to the double, the one nearest to it, and of two equally near ones the even one.
-/

namespace SymbolScript.Decimal

/-- The decimal `digits · 10 ^ exponent`. -/
structure Scaled where
  digits : Nat
  exponent : Int
deriving DecidableEq, Repr

namespace Binary

/-! ## The interval of numbers that round to a double -/

/-- Four times the magnitude and the ends of the interval that rounds to it, in units of the
fourth part of the last binary place: the value, the lower end and the upper end. The lower gap is
half as wide below a power of two. -/
def roundingInterval (value : Binary) : Nat × Nat × Nat :=
  let lowerGap := if value.mantissa = 2 ^ 52 ∧ leastExponent < value.exponent then 1 else 2
  (4 * value.mantissa, 4 * value.mantissa - lowerGap, 4 * value.mantissa + 2)

/-- The number of digits before the point of a positive fraction, or minus the number of zeros
after the point of a fraction below one tenth. -/
def pointPosition (numerator denominator : Nat) : Int :=
  if denominator ≤ numerator then
    (ofNat (numerator / denominator)).length
  else
    let inverse := (denominator + numerator - 1) / numerator
    1 - ((ofNat (inverse - 1)).length : Int)

/-- On the grid of multiples of a power of ten, the multiple that rounds to the double, if there is
one; of two the nearer, and of two equally near the even one. The four numbers are the value, the
ends of its interval and the spacing of the grid, in one common unit. -/
def onGrid? (closed : Bool) (value lower upper spacing : Nat) : Option Nat :=
  let inside := fun point : Nat =>
    if closed then lower ≤ point && point ≤ upper else lower < point && point < upper
  let below := value / spacing
  let nearer := roundHalfEven value spacing
  if inside (nearer * spacing) then some nearer
  else if inside (below * spacing) then some below
  else if inside ((below + 1) * spacing) then some (below + 1)
  else none

def shortestOn (value : Binary) (point : Int) : List Nat → Scaled
  | [] => ⟨value.numerator, 0⟩
  | count :: counts =>
    let exponent := point - count
    let (middle, lower, upper) := value.roundingInterval
    let quarter := value.exponent - 2
    let scale := fun mark : Nat => mark * 2 ^ quarter.toNat * 10 ^ (-exponent).toNat
    let spacing := 2 ^ (-quarter).toNat * 10 ^ exponent.toNat
    match onGrid? (value.mantissa % 2 == 0) (scale middle) (scale lower) (scale upper) spacing with
    | some digits => ⟨digits, exponent⟩
    | none => shortestOn value point counts

def shortest (value : Binary) : Scaled :=
  shortestOn value (pointPosition value.numerator value.denominator) ((List.range 17).map (· + 1))

end Binary

/-! ## Spelling -/

namespace Scaled

def stripZeros (digits : Text) : Text :=
  (digits.reverse.dropWhile (· == '0')).reverse

/-- The digits around the point: the whole part, which is zero when the magnitude is below one,
and the fraction, which may be empty. -/
def parts (value : Scaled) : Text × Text :=
  let digits := ofNat value.digits
  let point := (digits.length : Int) + value.exponent
  if point ≤ 0 then
    (['0'], List.replicate (-point).toNat '0' ++ stripZeros digits)
  else
    let shown := digits ++ List.replicate (point.toNat - digits.length) '0'
    (shown.take point.toNat, stripZeros (shown.drop point.toNat))

/-- The spelling without an exponent; a whole number keeps the fraction zero. -/
def positional (value : Scaled) : Text :=
  let (whole, fraction) := value.parts
  whole ++ '.' :: (if fraction.isEmpty then ['0'] else fraction)

def scientific (value : Scaled) : Text :=
  let digits := stripZeros (ofNat value.digits)
  let power := ((ofNat value.digits).length : Int) + value.exponent - 1
  let mantissa := digits.take 1 ++ (if digits.length = 1 then [] else '.' :: digits.drop 1)
  mantissa ++ 'e' :: (if power < 0 then '-' else '+') :: padded 2 power.natAbs

/-- A magnitude is spelled with an exponent from ten to the sixteenth up, and below one
ten-thousandth. -/
def text (value : Scaled) : Text :=
  let power := ((ofNat value.digits).length : Int) + value.exponent - 1
  if power < -4 ∨ 16 ≤ power then value.scientific else value.positional

example : (Scaled.mk 25 (-1)).text = "2.5".toList := by decide +kernel
example : (Scaled.mk 1 16).text = "1e+16".toList := by decide +kernel
example : (Scaled.mk 12 (-6)).text = "1.2e-05".toList := by decide +kernel
example : (Scaled.mk 12 2).text = "1200.0".toList := by decide +kernel

end Scaled

/-- The shortest text that reads back as the double, with the names of the values that have no
digits. -/
def ofFloat (x : Float) : Text :=
  let sign := if isNegative x then ['-'] else []
  match Binary.ofFloat? x with
  | none => if x.isNaN then "nan".toList else sign ++ "inf".toList
  | some value => sign ++ (if value.mantissa = 0 then "0.0".toList else value.shortest.text)

end SymbolScript.Decimal
