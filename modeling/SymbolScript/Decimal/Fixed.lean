import SymbolScript.Decimal.Basic
import SymbolScript.Decimal.Binary

/-! Decimals with a fixed number of places. -/

namespace SymbolScript.Decimal

/-- A magnitude rounded to a number of decimal places; a half goes to the even neighbour. -/
def Binary.fixed (places : Nat) (value : Binary) : Text :=
  let scaled := roundHalfEven (value.numerator * 10 ^ places) value.denominator
  let digits := padded (places + 1) scaled
  let split := digits.length - places
  digits.take split ++ (if places = 0 then [] else '.' :: digits.drop split)

def fixed (places : Nat) (x : Float) : Text :=
  let sign := if isNegative x then ['-'] else []
  match Binary.ofFloat? x with
  | none => if x.isNaN then "nan".toList else sign ++ "inf".toList
  | some value => sign ++ value.fixed places

/-- As `fixed`, with a plus sign on numbers that have no minus sign. -/
def signedFixed (places : Nat) (x : Float) : Text :=
  if isNegative x then fixed places x else '+' :: fixed places x

example : Binary.fixed 1 ⟨25, -2⟩ = "6.2".toList := by decide +kernel
example : Binary.fixed 0 ⟨3, -1⟩ = "2".toList := by decide +kernel
example : Binary.fixed 3 ⟨1, -10⟩ = "0.001".toList := by decide +kernel

end SymbolScript.Decimal
