/-!
Positional notation for natural numbers in any base from two up: the digits of a number, most
significant first, and the number that a list of digits stands for. The main statement is that
reading the digits of a number gives the number back.
-/

namespace SymbolScript.Positional

/-! ## Digits of a number -/

/-- Puts the digits of a number in front of digits that are already known. -/
def digitsOnto (base number : Nat) (lower : List Nat) : List Nat :=
  if base < 2 ∨ number < base then
    number :: lower
  else
    digitsOnto base (number / base) (number % base :: lower)
termination_by number
decreasing_by exact Nat.div_lt_self (by omega) (by omega)

/-- The digits of a number, most significant first; zero has the one digit zero. -/
def digits (base number : Nat) : List Nat :=
  digitsOnto base number []

example : digits 10 1024 = [1, 0, 2, 4] := by decide +kernel
example : digits 64 0 = [0] := by decide +kernel

/-! ## Numbers from digits -/

/-- Continues the number read so far with further digits. -/
def readFrom (base high : Nat) (lower : List Nat) : Nat :=
  lower.foldl (fun number digit => number * base + digit) high

def read (base : Nat) (digits : List Nat) : Nat :=
  readFrom base 0 digits

@[simp] theorem readFrom_nil (base high : Nat) : readFrom base high [] = high := rfl

@[simp] theorem readFrom_cons (base high digit : Nat) (lower : List Nat) :
    readFrom base high (digit :: lower) = readFrom base (high * base + digit) lower := rfl

theorem readFrom_digitsOnto (base number : Nat) (lower : List Nat) :
    readFrom base 0 (digitsOnto base number lower) = readFrom base number lower := by
  fun_induction digitsOnto base number lower with
  | case1 number lower small => simp
  | case2 number lower large induction =>
    rw [induction, readFrom_cons, Nat.mul_comm, Nat.div_add_mod]

theorem read_digits (base number : Nat) : read base (digits base number) = number := by
  simp [read, digits, readFrom_digitsOnto]

end SymbolScript.Positional
