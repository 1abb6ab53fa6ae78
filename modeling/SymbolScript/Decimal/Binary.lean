import SymbolScript.Instances

/-!
Doubles as exact fractions: the magnitude of a finite double is a whole number times a power of
two, and a fraction is turned into the nearest double. All arithmetic is on natural numbers.
-/

namespace SymbolScript.Decimal

/-! ## Rounding -/

/-- The whole number nearest to a fraction; a half goes to the even neighbour. -/
def roundHalfEven (numerator denominator : Nat) : Nat :=
  let below := numerator / denominator
  let rest := numerator % denominator
  if 2 * rest < denominator then below
  else if denominator < 2 * rest then below + 1
  else below + below % 2

example : roundHalfEven 25 10 = 2 := by decide
example : roundHalfEven 35 10 = 4 := by decide

/-! ## Magnitudes -/

/-- The magnitude `mantissa · 2 ^ exponent` of a finite double. -/
structure Binary where
  mantissa : Nat
  exponent : Int
deriving DecidableEq, Repr

/-- The sign bit of a double, which zeros and infinities have too. -/
def isNegative (x : Float) : Bool :=
  2 ^ 63 ≤ x.toBits.toNat

namespace Binary

def leastExponent : Int := -1074

/-- The magnitude of a finite double; infinities and the not-a-number have none. -/
def ofFloat? (x : Float) : Option Binary :=
  let bits := x.toBits.toNat
  let fraction := bits % 2 ^ 52
  let biased := bits / 2 ^ 52 % 2 ^ 11
  if biased = 2047 then none
  else if biased = 0 then some ⟨fraction, leastExponent⟩
  else some ⟨fraction + 2 ^ 52, leastExponent + (biased - 1 : Nat)⟩

/-- The magnitude is the fraction `numerator / denominator`. -/
def numerator (value : Binary) : Nat :=
  value.mantissa * 2 ^ value.exponent.toNat

def denominator (value : Binary) : Nat :=
  2 ^ (-value.exponent).toNat

def isWhole (value : Binary) : Bool :=
  value.numerator % value.denominator == 0

def floor (value : Binary) : Nat :=
  value.numerator / value.denominator

def ceil (value : Binary) : Nat :=
  (value.numerator + value.denominator - 1) / value.denominator

end Binary

/-! ## The nearest double -/

def infinity : Float := Float.ofBits 0x7ff0000000000000

def notANumber : Float := Float.ofBits 0x7ff8000000000000

/-- The exponent that leaves fifty-three binary digits before the point of a positive fraction, or
the least exponent if that is larger. -/
def binaryExponent (numerator denominator : Nat) : Int :=
  let estimate : Int := (numerator.log2 : Int) - denominator.log2 - 52
  let low := numerator * 2 ^ (-estimate).toNat < denominator * 2 ^ (estimate.toNat + 52)
  max Binary.leastExponent (if low then estimate - 1 else estimate)

/-- The double nearest to a fraction, or infinity beyond the largest double. -/
def nearestMagnitude (numerator denominator : Nat) : Float :=
  if numerator = 0 then
    Float.ofBits 0
  else
    let exponent := binaryExponent numerator denominator
    let mantissa :=
      roundHalfEven (numerator * 2 ^ (-exponent).toNat) (denominator * 2 ^ exponent.toNat)
    let bits := (exponent - Binary.leastExponent).toNat * 2 ^ 52 + mantissa
    Float.ofBits (UInt64.ofNat (min bits (2047 * 2 ^ 52)))

def nearest (negative : Bool) (numerator denominator : Nat) : Float :=
  let magnitude := nearestMagnitude numerator denominator
  if negative then -magnitude else magnitude

end SymbolScript.Decimal
