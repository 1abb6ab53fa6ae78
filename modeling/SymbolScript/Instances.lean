/-!
Powers, sums and comparisons of texts are read with the instances of the core library in every
module, also where a library of algebra or of orders brings instances of its own.
-/

namespace SymbolScript

@[default_instance 20000]
instance (priority := 2000) corePow {α : Type} [NatPow α] : Pow α Nat :=
  instPowNat

instance (priority := 2000) zeroNat : Zero Nat :=
  Zero.ofOfNat0

instance (priority := 2000) zeroInt : Zero Int :=
  Zero.ofOfNat0

instance (priority := 2000) textLE : LE (List Char) :=
  List.instLE

instance (priority := 2000) decidableTextLE (left right : List Char) : Decidable (left ≤ right) :=
  List.decidableLE left right

end SymbolScript
