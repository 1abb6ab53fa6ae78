import SymbolScript.Decimal.Fixed
import SymbolScript.Report.Table
import SymbolScript.TokenCost

/-! Parts that reports are made of: numbers and percentages, padded fields, tables and samples. -/

namespace SymbolScript.Report

/-! ## Fields -/

def whole (number : Int) : String :=
  String.ofList (Decimal.ofInt number)

def places (count : Nat) (x : Float) : String :=
  String.ofList (Decimal.fixed count x)

def percent (count : Nat) (x : Float) : String :=
  places count x ++ "%"

def share (x : Float) : String :=
  percent 0 (x * 100)

def field (width : Nat) (text : String) : String :=
  String.ofList (CellFormat.apply text.toList (.filled ' ' .left width))

def fieldRight (width : Nat) (text : String) : String :=
  String.ofList (CellFormat.apply text.toList (.filled ' ' .right width))

/-! ## Tables -/

def gridOf (widths : Option (List Int)) (headers : List String) (marks : String)
    (rows : List (List String)) : Except Failure String :=
  (table (headers.map String.toList) (rows.map (List.map String.toList)) widths
    marks.toList).map String.ofList

def grid : List String → String → List (List String) → Except Failure String :=
  gridOf none

/-! ## Lines -/

def print (lines : List String) : String :=
  String.join (lines.map (· ++ "\n"))

/-! ## Samples -/

def sample (name traditional symbolic : String) : TokenCost.Sample where
  name := name.toList
  traditional := traditional.toList
  symbolic := symbolic.toList

def symbolSamples : List TokenCost.Sample := [
  sample "Mathematical Function"
    "function calculate(x, y) \x7b return x + y; \x7d"
    "λ⟨calculate, x, y⟩ x + y ⟨/λ⟩",
  sample "State Declaration"
    "const state = \x7b count: 0, active: true \x7d;"
    "Σ⟨count: ⊗∅, active: 𝔹⟨true⟩⟩",
  sample "CSS Styling"
    "style=\x7b\x7b color: 'blue', padding: '10px', margin: '5px' \x7d\x7d"
    "Φ\x7bρ: blue, φ: ⊗α⊗∅px, μ: ⊗⑤px\x7d",
  sample "Control Flow"
    "if (age >= 18) \x7b return 'adult'; \x7d else \x7b return 'minor'; \x7d"
    "∇(age >= ⊗α⊗⑧) → 'adult' ⊘ 'minor'"]

def tokenRow (comparison : TokenCost.Comparison) : Except Failure (List String) := do
  let totals := comparison.totals
  return [String.ofList comparison.sample.name, whole totals.traditionalTokens,
    whole totals.symbolicTokens, percent 1 (← totals.tokenReduction)]

end SymbolScript.Report
