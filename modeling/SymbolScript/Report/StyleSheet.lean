import SymbolScript.Pipeline
import SymbolScript.Report.Basic

/-! The report on styles: how much shorter symbols are than the names of properties and values. -/

namespace SymbolScript.Report.StyleSheet

/-! ## Compression -/

structure Row where
  name : Text
  symbol : Text
  reduction : Float

def compressionRows (entries : Dictionary Text Text) : Except Failure (List Row) :=
  entries.mapM fun (symbol, name) => do
    return ⟨name, symbol, ← TokenCost.reduction (.whole name.length) (.whole symbol.length)⟩

def nameTotal (rows : List Row) : Nat :=
  (rows.map fun row => row.name.length).sum

def symbolTotal (rows : List Row) : Nat :=
  (rows.map fun row => row.symbol.length).sum

def Row.cells (row : Row) : List String :=
  [String.ofList row.name, String.ofList row.symbol, whole row.name.length,
    whole row.symbol.length, percent 1 row.reduction]

def entries (glossary : Glossary) : Dictionary Text Text :=
  glossary.map fun (c, word) => ([c], word.toList)

def compressionLines (title plural : String) (glossary : Glossary) :
    Except Failure (List String) := do
  let rows ← compressionRows (entries glossary)
  let names := nameTotal rows
  let symbols := symbolTotal rows
  let overall ← TokenCost.reduction (.whole names) (.whole symbols)
  return [
    s!"CSS {title} Compression:",
    ← grid [title, "Symbol", "Trad", "Math", "Reduction"] "<<>>>" (rows.map Row.cells),
    s!"\n   {plural}: {whole rows.length}, {whole names} -> {whole symbols} chars",
    s!"   {title} compression: {percent 1 overall}"]

/-! ## An example -/

def styleSheet : String :=
  ".container \x7b\n" ++
  "  display: flex;\n" ++
  "  flex-direction: column;\n" ++
  "  justify-content: center;\n" ++
  "  align-items: center;\n" ++
  "  width: 100%;\n" ++
  "  height: 100vh;\n" ++
  "  margin: 0 auto;\n" ++
  "  padding: 20px;\n" ++
  "  background-color: #ffffff;\n" ++
  "  border-radius: 8px;\n" ++
  "  box-shadow: 0 4px 6px rgba(0,0,0,0.1);\n" ++
  "  font-size: 16px;\n" ++
  "  text-align: center;\n" ++
  "  transition: all 0.3s ease;\n" ++
  "\x7d"

def symbolSheet : String :=
  "Φ\x7bδ:☰;Μ:column;Ξ:◐;Ο:◐;ω:100%;η:100vh;μ:0 auto;φ:20px;Γ:#ffffff;" ++
  "Ρ:8px;Σ:0 4px 6px rgba(0,0,0,0.1);σ:16px;χ:◐;τ:all 0.3s ease\x7d"

def sheetRate : Number := .real 0.6

def symbolSheetRate : Number := .real 0.3

def text : Except Failure String := do
  let comparison ← TokenCost.compare (.perCharacter sheetRate) (.perCharacter symbolSheetRate)
    (sample "CSS rule" styleSheet symbolSheet)
  let totals := comparison.totals
  let lengthReduction ← totals.lengthReduction
  let tokenReduction ← totals.tokenReduction
  let compiled := String.ofList (compile {} symbolSheet.toList).javascript
  return print <|
    ["GaiaScript CSS Mathematical System\n"] ++
    (← compressionLines "Property" "Properties" Glossary.styleProperties) ++ [""] ++
    (← compressionLines "Value" "Values" Glossary.styleValues) ++
    ["\nPractical Example:",
      styleSheet,
      symbolSheet,
      s!"\nCompiles to:\n{compiled}",
      "\nExample Comparison (estimated):",
      s!"   Traditional: {whole totals.traditionalLength} chars, " ++
        s!"{whole totals.traditionalTokens} tokens",
      s!"   Mathematical: {whole totals.symbolicLength} chars, " ++
        s!"{whole totals.symbolicTokens} tokens",
      s!"   Character reduction: {percent 1 lengthReduction}",
      s!"   Token reduction: {percent 1 tokenReduction}"]

end SymbolScript.Report.StyleSheet
