import SymbolScript.Base64Number.Literal
import SymbolScript.Proofs.Positional
import SymbolScript.Proofs.Text.Recogniser

/-! Base-64 numbers are read back. -/

namespace SymbolScript.Base64Number

theorem digitValues_map_digit {values : List Nat} (small : ∀ value ∈ values, value < 64) :
    digitValues (values.map digit) = .ok values := by
  induction values with
  | nil => rfl
  | cons value rest induction =>
      have first := value?_digit value (small value List.mem_cons_self)
      have later := induction fun other member => small other (List.mem_cons_of_mem value member)
      rw [List.map_cons, digitValues, first]
      simp only [later]
      rfl

theorem ofNat_ne_nil (number : Nat) : ofNat number ≠ [] := by
  simpa [ofNat] using Positional.digits_ne_nil 64 number

theorem decode_ofNat (number : Nat) : decode (ofNat number) = .ok number := by
  have small : ∀ value ∈ Positional.digits 64 number, value < 64 :=
    fun value member => Positional.lt_of_mem_digits (by decide) member
  have nonempty : ¬ (ofNat number).isEmpty = true := by
    simpa using ofNat_ne_nil number
  rw [decode, if_neg nonempty, ofNat, digitValues_map_digit small, Except.map,
    Positional.read_digits]

theorem encodeLiteral_of_natural {number : Int} (natural : 0 ≤ number) :
    encodeLiteral number = .ok (literal (ofNat number.toNat)) := by
  rw [encodeLiteral, encode, if_neg (by omega)]
  rfl

end SymbolScript.Base64Number
