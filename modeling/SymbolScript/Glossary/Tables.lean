import SymbolScript.Decimal.Basic
import SymbolScript.Glossary.Basic

/-! The glossaries of the notation. -/

namespace SymbolScript.Glossary

/-! ## Source symbols -/

/-- Symbols that a finished source text no longer holds, with their JavaScript spellings. -/
def sourceSymbols : Glossary := [
  ('λ', "function"), ('Σ', "let state = "), ('∆', "const Component_"), ('Ω', "function App"),
  ('Φ', "style"), ('ℝ', "number"), ('𝕊', "string"), ('𝔸', "Array"), ('𝕆', "Object"),
  ('𝔹', "boolean"), ('ρ', "color"), ('β', "border"), ('φ', "padding"), ('μ', "margin"),
  ('δ', "display"), ('τ', "transition"), ('κ', "background"), ('∇', "if"), ('⊘', "else"),
  ('¬', "!"), ('≡', "==="), ('✱', "*"), ('⊥', "none"), ('⚡', "pointer"), ('◐', "center"),
  ('☰', "flex"), ('⊞', "grid")]

def styleProperties : Glossary := [
  ('δ', "display"), ('π', "position"), ('ω', "width"), ('η', "height"), ('Θ', "min-width"),
  ('Ι', "max-width"), ('Κ', "min-height"), ('Λ', "max-height"), ('μ', "margin"),
  ('φ', "padding"), ('β', "border"), ('Ρ', "border-radius"), ('σ', "font-size"),
  ('λ', "line-height"), ('χ', "text-align"), ('ε', "text-decoration"), ('θ', "text-transform"),
  ('ψ', "letter-spacing"), ('ξ', "word-spacing"), ('ρ', "color"), ('κ', "background"),
  ('Γ', "background-color"), ('α', "opacity"), ('Σ', "box-shadow"), ('Υ', "transform"),
  ('τ', "transition"), ('☰', "flex"), ('Μ', "flex-direction"), ('Ν', "flex-wrap"),
  ('Ξ', "justify-content"), ('Ο', "align-items"), ('Π', "align-content"), ('⊞', "grid"),
  ('γ', "overflow"), ('υ', "visibility"), ('ζ', "z-index")]

def styleValues : Glossary := [
  ('☰', "flex"), ('⊞', "grid"), ('—', "inline"), ('⊥', "none"), ('⊙', "absolute"),
  ('◯', "relative"), ('⬟', "fixed"), ('◦', "static"), ('◐', "center"), ('←', "left"),
  ('→', "right"), ('↑', "top"), ('↓', "bottom"), ('≡', "justify"), ('⌐', "baseline"),
  ('∞', "auto"), ('◉', "visible"), ('⊗', "hidden"), ('⬛', "solid"), ('⚡', "pointer")]

def typeSymbols : Glossary := [
  ('ℝ', "number"), ('𝕊', "string"), ('𝔸', "Array"), ('𝕆', "Object"), ('𝔹', "boolean")]

/-! ## Keywords and words -/

def keywords : Glossary := [
  ('函', "function"), ('變', "variable"), ('常', "constant"), ('類', "class"), ('狀', "state"),
  ('組', "component"), ('界', "interface"), ('樣', "style"), ('導', "import"), ('型', "type"),
  ('模', "module"), ('空', "namespace")]

def symbolNames : Glossary := [
  ('λ', "lambda"), ('Σ', "sigma"), ('Ω', "omega"), ('Δ', "delta"), ('Φ', "phi"), ('Ψ', "psi"),
  ('∅', "empty"), ('∞', "infinity"), ('⊕', "plus"), ('⊗', "times"), ('→', "arrow"),
  ('⇒', "implies")]

def coreWords : Glossary := [
  ('的', "the"), ('之', "of"), ('和', "and"), ('至', "to"), ('在', "in"), ('是', "is"), ('你', "you"),
  ('都', "are"), ('為', "for"), ('它', "it"), ('與', "with"), ('上', "on"), ('這', "this"),
  ('但', "but"), ('她', "her"), ('或', "or"), ('他', "his"), ('將', "will"), ('能', "can"),
  ('有', "have"), ('所', "what")]

def technicalTerms : Glossary := [
  ('編', "build"), ('執', "execution"), ('令', "commands"), ('語', "language"),
  ('需', "requirements"), ('總', "always"), ('用', "use"), ('碼', "code"), ('格', "style"),
  ('則', "guidelines"), ('導', "imports"), ('式', "formatting"), ('名', "naming"), ('狀', "state"),
  ('宣', "declaration"), ('錯', "error"), ('處', "handling"), ('標', "standard"), ('專', "project"),
  ('結', "structure"), ('生', "ecosystem"), ('技', "technical"), ('規', "specification"),
  ('系', "system"), ('述', "description"), ('特', "features"), ('法', "syntax"), ('數', "numbers"),
  ('操', "operations"), ('層', "layers")]

def digits : List (Char × Nat) := [
  ('零', 0), ('一', 1), ('二', 2), ('三', 3), ('四', 4), ('五', 5), ('六', 6), ('七', 7),
  ('八', 8), ('九', 9)]

def digitWords : Glossary := [
  ('零', "0"), ('一', "1"), ('二', "2"), ('三', "3"), ('四', "4"), ('五', "5"), ('六', "6"),
  ('七', "7"), ('八', "8"), ('九', "9")]

example : digitWords.map (fun (c, word) => (c, word.toList)) =
    digits.map (fun (c, value) => (c, Decimal.ofNat value)) := by decide +kernel

/-! No glossary has two entries for one character or for one word. -/

example : (sourceSymbols.map (·.1)).Nodup := by decide
example : (keywords.map (·.1)).Nodup ∧ (keywords.map (·.2)).Nodup := by decide
example : (coreWords.map (·.1)).Nodup ∧ (coreWords.map (·.2)).Nodup := by decide
example : (technicalTerms.map (·.1)).Nodup ∧ (technicalTerms.map (·.2)).Nodup := by decide

end SymbolScript.Glossary
