/-! Sets of code points, written as ascending lists of inclusive ranges. -/

namespace SymbolScript.Text

abbrev CodePoints := List (Nat × Nat)

namespace CodePoints

/-- Looks a code point up and stops at the first range that lies above it. -/
def holds : CodePoints → Nat → Bool
  | [], _ => false
  | (first, last) :: rest, point =>
    if point < first then false else point ≤ last || holds rest point

end CodePoints

end SymbolScript.Text
