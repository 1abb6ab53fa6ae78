import SymbolScript.Decimal.Rounding
import SymbolScript.Dictionary
import SymbolScript.Mean
import SymbolScript.Number

/-!
How efficient a symbol is, judged by the place of its code point, and the search for alternatives
that score better than the symbols in use.
-/

namespace SymbolScript.SymbolChoice

/-! ## Scores -/

def scoreAt (point : Nat) : Float :=
  if point < 0x100 then 0.85
  else if point < 0x1000 then 0.90
  else if point < 0x2000 then 0.92
  else if point < 0x3000 then 0.95
  else 0.88

/-- The score of a symbol is that of its first character. -/
def score : Text → Except Failure Float
  | [] => .error .missingPosition
  | c :: _ => .ok (scoreAt c.toNat)

/-! ## Symbols in use -/

structure Usage where
  meaning : Text
  frequency : Text
  efficiency : Number
  alternatives : List Text

abbrev UsageTable := Dictionary Text Usage

private def used (symbol meaning frequency : String) (efficiency : Float)
    (alternatives : List String) : Text × Usage :=
  (symbol.toList, {
    meaning := meaning.toList
    frequency := frequency.toList
    efficiency := .real efficiency
    alternatives := alternatives.map String.toList })

def usages : UsageTable := [
  used "λ" "function" "very high" 0.98 ["ƒ", "⨍", "𝑓"],
  used "Σ" "state" "high" 0.97 ["𝑆", "⟨S⟩", "§"],
  used "∆" "component" "high" 0.96 ["𝐶", "◊", "⟨C⟩"],
  used "Ω" "interface" "medium" 0.95 ["𝐼", "⟨I⟩", "⌘"],
  used "Φ" "style" "high" 0.96 ["𝜙", "⟨S⟩", "✦"],
  used "ℝ" "real numbers" "medium" 0.94 ["𝑅", "ℜ", "⟨R⟩"],
  used "𝕊" "strings" "high" 0.95 ["𝑆", "⟨S⟩", "§"],
  used "𝔸" "arrays" "high" 0.94 ["𝐴", "⟨A⟩", "[]"],
  used "𝕆" "objects" "high" 0.94 ["𝑂", "⟨O⟩", "\x7b\x7d"],
  used "𝔹" "booleans" "medium" 0.93 ["𝐵", "⟨B⟩", "⊤⊥"],
  used "⊗" "tensor/vector" "high" 0.92 ["⊙", "⊛", "×"],
  used "ρ" "color" "high" 0.91 ["𝑐", "⟨c⟩", "🎨"],
  used "φ" "padding" "high" 0.92 ["𝑝", "⟨p⟩", "▫"],
  used "μ" "margin" "high" 0.91 ["𝑚", "⟨m⟩", "▪"],
  used "β" "border" "medium" 0.91 ["𝑏", "⟨b⟩", "▭"]]

/-! ## Refinements -/

/-- A symbol and an alternative that scores better, by how many percentage points. -/
structure Refinement where
  current : Text
  meaning : Text
  alternative : Text
  improvement : Float

/-- The first of the alternatives with the highest score, if that is above the given one. -/
def best? (efficiency : Number) (alternatives : List Text) :
    Except Failure (Option (Text × Float)) :=
  alternatives.foldlM (fun best alternative => do
    let found ← score alternative
    let seed := match best with
      | none => efficiency
      | some (_, highest) => .real highest
    return if seed.less (.real found) then some (alternative, found) else best) none

def defaultThreshold : Number := .real 0.94

/-- Whether a symbol with this efficiency is left alone. -/
def reaches (threshold efficiency : Number) : Bool :=
  !efficiency.less threshold && efficiency.isComparable && threshold.isComparable

def refine? (threshold : Number) (symbol : Text) (usage : Usage) :
    Except Failure (Option Refinement) := do
  if reaches threshold usage.efficiency then return none
  match ← best? usage.efficiency usage.alternatives with
  | none => return none
  | some (alternative, highest) =>
    let gain ← (← (Number.real highest).subtract usage.efficiency).toFloat
    return some {
      current := symbol
      meaning := usage.meaning
      alternative
      improvement := Decimal.round 1 (gain * 100) }

def refinements (table : UsageTable) (threshold : Number) : Except Failure (List Refinement) :=
  return (← table.mapM fun (symbol, usage) => refine? threshold symbol usage).filterMap id

/-! ## Averages -/

def averageEfficiency (table : UsageTable) : Except Failure Float := do
  if table.isEmpty then return 0
  return Mean.mean (← table.mapM fun (_, usage) => usage.efficiency.toFloat)

def categories : Dictionary Text (List Text) := [
  ("Mathematical", ["λ", "Σ", "∆", "Ω", "Φ", "∇", "∀", "∃"]),
  ("Type System", ["ℝ", "𝕊", "𝔸", "𝕆", "𝔹"]),
  ("Greek Letters", ["α", "β", "γ", "δ", "ρ", "φ", "μ"]),
  ("Operators", ["⊗", "→", "⇒", "⊕", "⊙"]),
  ("Constants", ["π", "e", "∞", "∅"])].map fun ((name, symbols) : String × List String) =>
    (name.toList, symbols.map String.toList)

/-- The mean score in each category; an empty category has none, which counts as zero. -/
def categoryEfficiency (categories : Dictionary Text (List Text)) :
    Except Failure (Dictionary Text Float) :=
  categories.mapM fun (name, symbols) => do
    if symbols.isEmpty then return (name, 0)
    return (name, Mean.mean (← symbols.mapM score))

end SymbolScript.SymbolChoice
