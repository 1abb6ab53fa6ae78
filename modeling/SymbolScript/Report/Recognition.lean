import SymbolScript.LanguageModel
import SymbolScript.Report.Basic
import SymbolScript.SymbolChoice.Recognition

/-! The report on recognition: which symbols all models know, and what each model makes of them. -/

namespace SymbolScript.Report.Recognition

def keywordRatio : Number := .real 3.5

def symbolRatio : Number := .real 5.5

def symbolRow (probe : SymbolChoice.ProbeSymbol) : List String :=
  [probe.symbol, probe.category, probe.meaning,
    if SymbolChoice.isUniversal probe.category then "Yes" else "Partial"]

def modelRow (model : String) (profile : LanguageModel.Profile) : List String :=
  [model, profile.unicode, profile.mathTokens, profile.greek, share profile.efficiency]

def text : Except Failure String := do
  let universal := SymbolChoice.universalCount SymbolChoice.probeSymbols
  let total := SymbolChoice.probeSymbols.length
  let ratio := Float.ofNat universal / Float.ofNat total * 100
  let comparisons ← symbolSamples.mapM
    (TokenCost.compare (.ratio keywordRatio) (.ratio symbolRatio))
  return print [
    "GaiaScript Cross-Model Consistency Testing\n",
    "Symbol Consistency Analysis:",
    ← grid ["Symbol", "Type", "Meaning", "Universal"] ""
      (SymbolChoice.probeSymbols.map fun (_, probe) => symbolRow probe),
    s!"\nUniversal Recognition: {whole universal}/{whole total} symbols ({percent 1 ratio})",
    "\nModel-Specific Analysis:",
    ← grid ["Model", "Unicode", "Math Tokens", "Greek", "Efficiency"] ""
      (LanguageModel.profiles.map fun (model, profile) => modelRow model profile),
    "\nTokenization Test Cases:",
    ← grid ["Test Case", "Trad", "Math", "Token Reduction"] "<>>>" (← comparisons.mapM tokenRow)]

end SymbolScript.Report.Recognition
