import SymbolScript.LanguageModel
import SymbolScript.Report.Basic

/-! The report on adaptation: what suits each model, and what ASCII stand-ins cost. -/

namespace SymbolScript.Report.Adaptation

open LanguageModel

def ratio : Number := .real 4

def modelLines (model : String) (adaptation : LanguageModel.Adaptation) : List String :=
  [s!"\n   {model} ({adaptation.tier.spelling} encoding):"] ++
  (adaptation.strengths.map fun line => s!"     + {line}") ++
  (adaptation.optimizations.map fun line => s!"     > {line}") ++
  (adaptation.considerations.map fun line => s!"     ! {line}")

def gainRow (model : String) (profile : Profile) : Except Failure (List String) := do
  let optimized := ((Dictionary.get? adaptations model).map LanguageModel.Adaptation.optimized).getD
    profile.efficiency
  return [model, share profile.efficiency, share optimized,
    String.ofList (Decimal.signedFixed 0 (← expectedGain model)) ++ "%"]

def withStandIns (sample : TokenCost.Sample) : TokenCost.Sample :=
  { sample with traditional := Fallback.apply .word sample.symbolic }

def text : Except Failure String := do
  let gains ← profiles.mapM fun (model, profile) => gainRow model profile
  let comparisons ← symbolSamples.mapM fun sample =>
    TokenCost.compare (.ratio ratio) (.ratio ratio) (withStandIns sample)
  return print <|
    ["GaiaScript LLM-Specific Adaptation Research\n", "Model-Specific Recommendations:"] ++
    (adaptations.flatMap fun (model, adaptation) => modelLines model adaptation) ++
    ["\nExpected Performance Gains:",
      ← grid ["Model", "Current", "Optimized", "Gain"] "<>>>" gains,
      "\nASCII Fallbacks:",
      ← grid ["Symbol", "Short", "Word", "Name"] ""
        (Fallback.table.map fun (c, fallback) =>
          [String.singleton c, fallback.short, fallback.word, fallback.name]),
      "\nContext Symbol Sets:",
      ← grid ["Context", "Symbols"] ""
        (contextSymbols.map fun (context, symbols) => [context, " ".intercalate symbols]),
      "\nFrequency Tiers:"] ++
    (frequencyTiers.map fun (tier, symbols) =>
      "   " ++ field 7 tier ++ " " ++ " ".intercalate symbols) ++
    ["\nFallback Cost (ASCII word fallbacks vs symbols):",
      ← grid ["Test Case", "Fallback", "Symbols", "Saved by Symbols"] "<>>>"
        (← comparisons.mapM tokenRow),
      "\nSummary:",
      "   Model-specific gains are marginal (0-2%); fallbacks keep smaller",
      "   models compatible at the cost of the symbol savings above."]

end SymbolScript.Report.Adaptation
