import SymbolScript.Report.Basic
import SymbolScript.SymbolChoice.Efficiency

/-! The report on refinements: which symbols score below a threshold, and what would score
better. -/

namespace SymbolScript.Report.Refinement

open SymbolChoice

def usageRow (symbol : Text) (usage : Usage) : Except Failure (List String) := do
  return [String.ofList symbol, String.ofList usage.meaning, String.ofList usage.frequency,
    share (← usage.efficiency.toFloat)]

def refinementRow (refinement : SymbolChoice.Refinement) : List String :=
  [String.ofList refinement.current, String.ofList refinement.meaning,
    String.ofList refinement.alternative, "+" ++ percent 1 refinement.improvement]

def categoryLine (name : Text) (score : Float) : String :=
  s!"   {field 14 (String.ofList name)} {percent 1 (score * 100)}"

def averageGain (refinements : List SymbolChoice.Refinement) : Float :=
  Mean.sumInOrder 0 (refinements.map SymbolChoice.Refinement.improvement) /
    Float.ofNat usages.length

def text (threshold : Number) : Except Failure String := do
  let found ← refinements usages threshold
  let limit ← (← threshold.multiply (.whole 100)).toFloat
  let average := (← averageEfficiency usages) * 100
  let opportunities ←
    if found.isEmpty then pure "   none"
    else grid ["Current", "Usage", "Suggested", "Improvement"] "<<<>" (found.map refinementRow)
  return print <|
    ["GaiaScript Symbol Refinement Analysis\n",
      "Current Symbol Efficiency:",
      ← grid ["Symbol", "Usage", "Frequency", "Efficiency"] "<<<>"
        (← usages.mapM fun (symbol, usage) => usageRow symbol usage),
      s!"\nRefinement Opportunities (efficiency < {percent 0 limit}):",
      opportunities,
      "\nCategory Efficiency:"] ++
    ((← categoryEfficiency categories).map fun (name, score) => categoryLine name score) ++
    [s!"\nAverage symbol efficiency: {percent 1 average}"] ++
    if found.isEmpty then []
    else [s!"Projected average after refinement: {percent 1 (average + averageGain found)}"]

end SymbolScript.Report.Refinement
