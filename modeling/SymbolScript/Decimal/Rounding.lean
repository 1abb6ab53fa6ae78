import SymbolScript.Decimal.Fixed
import SymbolScript.Decimal.Reading

/-! Doubles rounded to decimal places. -/

namespace SymbolScript.Decimal

def round (places : Nat) (x : Float) : Float :=
  match Binary.ofFloat? x with
  | none => x
  | some _ => (readFloat? (fixed places x)).getD x

end SymbolScript.Decimal
