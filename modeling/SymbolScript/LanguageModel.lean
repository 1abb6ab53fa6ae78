import SymbolScript.Dictionary
import SymbolScript.Failure
import SymbolScript.Glossary.Fallback

/-!
Language models: how well they read symbols, what to keep in mind for each of them, and the form in
which a source text is sent to a model.
-/

namespace SymbolScript.LanguageModel

/-! ## Profiles -/

structure Profile where
  unicode : String
  mathTokens : String
  greek : String
  efficiency : Float

def profiles : Dictionary String Profile := [
  ("GPT-4", ⟨"excellent", "single-token", "native", 0.95⟩),
  ("Claude", ⟨"excellent", "single-token", "native", 0.98⟩),
  ("PaLM/Gemini", ⟨"very good", "mostly single-token", "native", 0.92⟩),
  ("LLaMA", ⟨"good", "mostly single-token", "good", 0.94⟩),
  ("Mistral", ⟨"good", "mostly single-token", "good", 0.93⟩)]

/-! ## Tiers -/

inductive Tier
  | advanced
  | standard
  | compatible
deriving DecidableEq, Repr

namespace Tier

def all : List Tier := [advanced, standard, compatible]

def spelling : Tier → String
  | advanced => "advanced"
  | standard => "standard"
  | compatible => "compatible"

def fallbackLevel? : Tier → Option FallbackLevel
  | advanced | standard => none
  | compatible => some .word

end Tier

/-! ## Adaptations -/

structure Adaptation where
  strengths : List String
  optimizations : List String
  considerations : List String
  tier : Tier
  optimized : Float

def adaptations : Dictionary String Adaptation := [
  ("GPT-4", {
    strengths := [
      "Excellent Unicode support for all mathematical symbols",
      "Single-token recognition for Greek letters",
      "Strong mathematical reasoning with symbols"]
    optimizations := [
      "Current symbol set is already optimal"]
    considerations := [
      "Prefers standard mathematical notation"]
    tier := .advanced
    optimized := 0.95 }),
  ("Claude", {
    strengths := [
      "Superior mathematical symbol understanding",
      "Excellent semantic preservation",
      "Strong compositional understanding"]
    optimizations := [
      "Category theory symbols for advanced abstractions",
      "Proof notation for mathematical reasoning"]
    considerations := [
      "Can handle more complex symbol compositions"]
    tier := .advanced
    optimized := 0.99 }),
  ("PaLM/Gemini", {
    strengths := [
      "Good Unicode support",
      "Strong multilingual capabilities"]
    optimizations := [
      "Fallback representations for rare symbols",
      "Prefer well-established Unicode blocks"]
    considerations := [
      "May benefit from explicit symbol definitions"]
    tier := .standard
    optimized := 0.94 }),
  ("LLaMA", {
    strengths := [
      "Open-source flexibility",
      "Efficient tokenization"]
    optimizations := [
      "ASCII fallbacks for maximum compatibility",
      "Simplified symbol variants"]
    considerations := [
      "Fine-tuned variants need symbol documentation"]
    tier := .standard
    optimized := 0.95 }),
  ("Mistral", {
    strengths := [
      "Efficient tokenization",
      "Compact model benefits from symbol efficiency"]
    optimizations := [
      "Focus on the most common mathematical symbols",
      "Optimize for instruction-following with symbols"]
    considerations := [
      "Prefers clear, unambiguous symbols"]
    tier := .standard
    optimized := 0.94 })]

/-- The tier of a model; models without an adaptation are in the compatible tier. -/
def tierOf (model : String) : Tier :=
  ((Dictionary.get? adaptations model).map Adaptation.tier).getD .compatible

def adapt (model : String) (source : Text) : Text :=
  match (tierOf model).fallbackLevel? with
  | none => source
  | some level => Fallback.apply level source

def expectedGain (model : String) : Except Failure Float :=
  match Dictionary.get? profiles model, Dictionary.get? adaptations model with
  | some profile, some adaptation => .ok ((adaptation.optimized - profile.efficiency) * 100)
  | _, _ => .error (.missingKey model.toList)

/-! ## Sets of symbols -/

def contextSymbols : List (String × List String) := [
  ("Code generation", ["λ", "→", "⇒", "∀", "∃", "∧", "∨", "¬"]),
  ("Mathematical", ["∈", "∉", "⊂", "⊃", "∪", "∩", "∅", "ℝ", "ℤ", "ℕ"]),
  ("User interface", ["ρ", "β", "φ", "μ", "☰", "⊞", "◐", "⬛"])]

def frequencyTiers : List (String × List String) := [
  ("high", ["λ", "Σ", "∆", "→", "∇"]),
  ("medium", ["Ω", "Φ", "∀", "∃"]),
  ("low", ["⊗", "⊙", "⊎", "≃"])]

end SymbolScript.LanguageModel
