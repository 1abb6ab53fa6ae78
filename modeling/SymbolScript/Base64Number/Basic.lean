import SymbolScript.Failure

/-!
Base-64 numbers: natural numbers in positional notation with sixty-four digits, the capital
letters, the small letters, the decimal digits, the plus sign and the slash.
-/

namespace SymbolScript.Base64Number

def alphabet : Text :=
  "ABCDEFGHIJKLMNOPQRSTUVWXYZabcdefghijklmnopqrstuvwxyz0123456789+/".toList

def digit (value : Nat) : Char :=
  alphabet.getD value 'A'

def value? (c : Char) : Option Nat :=
  alphabet.idxOf? c

def isDigit (c : Char) : Bool :=
  (value? c).isSome

theorem value?_digit : ∀ value < 64, value? (digit value) = some value := by
  decide +kernel

def ofNat (number : Nat) : Text :=
  (Positional.digits 64 number).map digit

def encode (number : Int) : Except Failure Text :=
  if number < 0 then
    if Decimal.isWritable number then .error (.number (.negative number))
    else .error (.value .tooManyDigitsToWrite)
  else .ok (ofNat number.toNat)

def digitValues : Text → Except Failure (List Nat)
  | [] => .ok []
  | c :: rest =>
    match value? c with
    | none => .error (.number (.base64Character c))
    | some value => (digitValues rest).map (value :: ·)

def decode (text : Text) : Except Failure Nat :=
  if text.isEmpty then .error (.number .emptyBase64)
  else (digitValues text).map (Positional.read 64)

def roundNumbers : List (String × String) := [
  ("ZERO", "A"), ("ONE", "B"), ("TEN", "K"), ("SIXTY_FOUR", "BA"), ("HUNDRED", "Bk"),
  ("THOUSAND", "Po"), ("MILLION", "D0JA"), ("BILLION", "7msoA")]

example : roundNumbers.map (fun (_, digits) => digits.toList) =
    [0, 1, 10, 64, 100, 1000, 1000000, 1000000000].map ofNat := by decide +kernel

end SymbolScript.Base64Number
