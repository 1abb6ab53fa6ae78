import Mathlib.Data.List.Chain
import SymbolScript.Text.WordChar

/-!
Looking up word characters. The search through the ranges stops at the first one above the code
point, so it finds the points of every range because the ranges are ascending.
-/

namespace SymbolScript.Text

namespace CodePoints

def IsAscending (points : CodePoints) : Prop :=
  points.IsChain fun lower upper => lower.1 ≤ lower.2 ∧ lower.2 < upper.1

instance (points : CodePoints) : Decidable points.IsAscending :=
  inferInstanceAs (Decidable (points.IsChain _))

variable {range : Nat × Nat} {points : CodePoints}

theorem IsAscending.le_of_mem (ascending : IsAscending (range :: points)) {other : Nat × Nat}
    (member : other ∈ points) : range.1 ≤ other.1 := by
  induction points generalizing range with
  | nil => cases member
  | cons next points induction =>
      rcases List.isChain_cons_cons.mp ascending with ⟨⟨filled, apart⟩, later⟩
      rcases List.mem_cons.mp member with rfl | deeper
      · omega
      · have farther := induction later deeper
        omega

theorem IsAscending.holds_of_mem (ascending : points.IsAscending) (member : range ∈ points)
    {point : Nat} (above : range.1 ≤ point) (below : point ≤ range.2) :
    points.holds point = true := by
  induction points with
  | nil => cases member
  | cons first points induction =>
      rcases List.mem_cons.mp member with rfl | later
      · rw [holds, if_neg (by omega)]
        simp [below]
      · have lower := ascending.le_of_mem later
        rw [holds, if_neg (by omega), induction (List.IsChain.tail ascending) later, Bool.or_true]

end CodePoints

theorem alphanumericPoints_ascending : alphanumericPoints.IsAscending := by
  decide +kernel

theorem isWordChar_of_ideograph {c : Char} (above : 0x4e00 ≤ c.toNat) (below : c.toNat ≤ 0xa48c) :
    isWordChar c = true := by
  have listed : (0x4e00, 0xa48c) ∈ alphanumericPoints := by decide +kernel
  rw [isWordChar, if_neg (by omega)]
  exact alphanumericPoints_ascending.holds_of_mem listed above below

end SymbolScript.Text
