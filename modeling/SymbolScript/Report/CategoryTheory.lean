import SymbolScript.Glossary.CategoryTheory
import SymbolScript.Report.Basic

/-! The report on category theory: its symbols, and how many words its constructs need. -/

namespace SymbolScript.Report.CategoryTheory

def constructs : List (String × TokenCost.Sample) := [
  ("∘", sample "Composition"
    "const compose = (f, g) => x => f(g(x));"
    "λ∘⟨f,g⟩ (x) ↦ f(g(x)) ⟨/λ∘⟩"),
  ("𝔽", sample "Functor"
    "const map = f => values => values.map(f);"
    "𝔽⟨map,f⟩ 𝔸⟨values⟩ ↦ values.map(f) ⟨/𝔽⟩"),
  ("𝕄", sample "Monad"
    "const bind = m => f => m.flatMap(f);"
    "𝕄⟨bind,m,f⟩ m >>= f ⟨/𝕄⟩"),
  ("×", sample "Product"
    "const product = (a, b) => (\x7b first: a, second: b \x7d);"
    "ℙ⟨A × B⟩ ≡ \x7bα: A, β: B\x7d"),
  ("⊕", sample "Coproduct"
    ("const left = value => (\x7b tag: \"left\", value \x7d); " ++
      "const right = value => (\x7b tag: \"right\", value \x7d);")
    "Σ⟨A ⊕ B⟩ ≡ \x7btag: \"left\", value: A\x7d | \x7btag: \"right\", value: B\x7d"),
  ("⟹", sample "Natural transformation"
    "const naturalTransform = functorF => functorG => a => functorG(functorF(a));"
    "η⟹⟨F,G⟩ ∀A. F(A) → G(A) ⟨/η⟹⟩")]

def patterns : List (List String) := [
  ["Kleisli Category", "↦ ∘ 𝕄", "67%"],
  ["Yoneda Lemma", "⟹ ≅ ↦", "73%"],
  ["Adjoint Functors", "⊣ ⊢ ≅", "71%"]]

def symbolRows : List (List String) :=
  CategoryTheory.groups.flatMap fun (group, entries) =>
    entries.map fun (symbol, meaning) => [group, symbol, meaning]

def constructRow (symbol : String) (comparison : TokenCost.Comparison) :
    Except Failure (List String) := do
  match ← tokenRow comparison with
  | name :: counts => return name :: symbol :: counts
  | [] => return [symbol]

def text : Except Failure String := do
  let compared ← constructs.mapM fun (symbol, sample) =>
    return (symbol, ← TokenCost.compare .words .words sample)
  let summary ← TokenCost.summarize (compared.map (·.2))
  let reduction ← summary.tokenReduction
  return print [
    "GaiaScript Category Theory Symbols\n",
    "Symbol Map:",
    ← grid ["Group", "Symbol", "Meaning"] "" symbolRows,
    "\nEncodings (words):",
    ← grid ["Construct", "Symbol", "JS", "Gaia", "Reduction"] "<<>>>"
      (← compared.mapM fun (symbol, comparison) => constructRow symbol comparison),
    s!"\n   Traditional JS: {whole summary.traditionalTokens} words",
    s!"   GaiaScript: {whole summary.symbolicTokens} words",
    s!"   Reduction: {percent 1 reduction}",
    s!"   Symbols: {whole CategoryTheory.symbols.length} category theory operators",
    "\nAdvanced Patterns:",
    ← grid ["Pattern", "Symbols", "Token Reduction"] "<<>" patterns]

end SymbolScript.Report.CategoryTheory
