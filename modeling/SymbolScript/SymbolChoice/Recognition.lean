import SymbolScript.Dictionary

/-! Which symbols every language model recognises, judged by the category that they belong to. -/

namespace SymbolScript.SymbolChoice

structure ProbeSymbol where
  symbol : String
  meaning : String
  category : String
deriving DecidableEq, Repr

def universalCategories : List String :=
  ["core", "type", "constant", "control", "greek"]

def isUniversal (category : String) : Bool :=
  universalCategories.contains category

def probeSymbols : Dictionary String ProbeSymbol := [
  ("functions", ⟨"λ", "lambda/function", "core"⟩), ("state", ⟨"Σ", "sigma/state", "core"⟩),
  ("component", ⟨"∆", "delta/component", "core"⟩),
  ("interface", ⟨"Ω", "omega/interface", "core"⟩), ("style", ⟨"Φ", "phi/style", "core"⟩),
  ("real", ⟨"ℝ", "real numbers", "type"⟩), ("string", ⟨"𝕊", "strings", "type"⟩),
  ("array", ⟨"𝔸", "arrays", "type"⟩), ("object", ⟨"𝕆", "objects", "type"⟩),
  ("boolean", ⟨"𝔹", "booleans", "type"⟩), ("pi", ⟨"π", "pi constant", "constant"⟩),
  ("euler", ⟨"e", "euler's number", "constant"⟩), ("infinity", ⟨"∞", "infinity", "constant"⟩),
  ("empty", ⟨"∅", "empty set", "constant"⟩), ("tensor", ⟨"⊗", "tensor product", "operator"⟩),
  ("alpha", ⟨"α", "alpha/1", "greek"⟩), ("beta", ⟨"β", "beta/2", "greek"⟩),
  ("gamma", ⟨"γ", "gamma/3", "greek"⟩), ("rho", ⟨"ρ", "rho/color", "css"⟩),
  ("phi", ⟨"φ", "phi/padding", "css"⟩), ("mu", ⟨"μ", "mu/margin", "css"⟩),
  ("delta", ⟨"δ", "delta/display", "css"⟩), ("arrow", ⟨"→", "flow/then", "control"⟩),
  ("implies", ⟨"⇒", "implies/if", "control"⟩), ("forall", ⟨"∀", "for all", "control"⟩),
  ("exists", ⟨"∃", "there exists", "control"⟩), ("nabla", ⟨"∇", "condition", "control"⟩)]

def universalCount (table : Dictionary String ProbeSymbol) : Nat :=
  table.countP fun (_, probe) => isUniversal probe.category

example : universalCount probeSymbols = 22 ∧ probeSymbols.length = 27 := by decide +kernel

end SymbolScript.SymbolChoice
