/-! Means of doubles. The order in which a sum adds its terms decides how it is rounded. -/

namespace SymbolScript.Mean

def sumInOrder (start : Float) (terms : List Float) : Float :=
  terms.foldl (· + ·) start

def rows (terms : List Float) : List (List Float) × List Float :=
  let count := terms.length / 8
  ((List.range count).map fun row => (terms.drop (8 * row)).take 8, terms.drop (8 * count))

/-- Adds terms in eight lanes, which keeps the lanes' rounding errors apart; the lanes are added in
pairs, and then the terms left over. -/
def sumInLanes (terms : List Float) : Float :=
  let (full, rest) := rows terms
  match full with
  | [] => sumInOrder 0 rest
  | first :: others =>
    match others.foldl (List.zipWith (· + ·)) first with
    | [a, b, c, d, e, f, g, h] =>
      sumInOrder (((a + b) + (c + d)) + ((e + f) + (g + h))) rest
    | lanes => sumInOrder (sumInOrder 0 lanes) rest

def laneLimit : Nat := 128

/-- The sum of doubles. Terms beyond the limit of lanes are halved first, at a multiple of
eight. -/
def sum (terms : List Float) : Float :=
  if _ : terms.length ≤ laneLimit then sumInLanes terms
  else
    let half := terms.length / 2 - terms.length / 2 % 8
    sum (terms.take half) + sum (terms.drop half)
termination_by terms.length
decreasing_by
  all_goals
    simp only [laneLimit, Nat.not_le, List.length_take, List.length_drop] at *
    omega

def mean (terms : List Float) : Float :=
  sum terms / Float.ofNat terms.length

end SymbolScript.Mean
