import SymbolScript.Positional
import SymbolScript.Text.Basic

/-! Decimal text of integers, and padded digits. -/

namespace SymbolScript.Decimal

def digitChar (digit : Nat) : Char :=
  if digit < 10 then Char.ofNat (48 + digit) else Char.ofNat (87 + digit)

def ofNat (number : Nat) : Text :=
  (Positional.digits 10 number).map digitChar

def ofInt (number : Int) : Text :=
  if number < 0 then '-' :: ofNat number.natAbs else ofNat number.natAbs

def padded (width number : Nat) : Text :=
  let shown := ofNat number
  List.replicate (width - shown.length) '0' ++ shown

def hexadecimal (width number : Nat) : Text :=
  let shown := (Positional.digits 16 number).map digitChar
  List.replicate (width - shown.length) '0' ++ shown

example : ofInt (-120) = "-120".toList := by decide +kernel
example : padded 3 7 = "007".toList := by decide +kernel
example : hexadecimal 2 173 = "ad".toList := by decide +kernel

/-- An integer is written or read as decimal text only up to this number of digits. -/
def digitLimit : Nat := 4300

def isWritable (number : Int) : Bool :=
  number.natAbs < 10 ^ digitLimit

end SymbolScript.Decimal
