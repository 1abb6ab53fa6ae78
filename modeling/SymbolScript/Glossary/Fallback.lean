import SymbolScript.Failure
import SymbolScript.Glossary.Basic

/-! ASCII stand-ins for symbols, at three levels of detail. -/

namespace SymbolScript

structure Fallback where
  short : String
  word : String
  name : String
deriving DecidableEq, Repr

inductive FallbackLevel
  | short
  | word
  | name
deriving DecidableEq, Repr

namespace Fallback

def table : List (Char × Fallback) := [
  ('λ', ⟨"\\", "fn", "lambda"⟩),
  ('Σ', ⟨"S", "sum", "state"⟩),
  ('∆', ⟨"D", "delta", "component"⟩),
  ('Ω', ⟨"O", "omega", "interface"⟩),
  ('Φ', ⟨"P", "phi", "style"⟩),
  ('⊗', ⟨"*", "x", "tensor"⟩),
  ('∇', ⟨"?", "if", "nabla"⟩),
  ('∀', ⟨"@", "all", "forall"⟩),
  ('∃', ⟨"E", "exists", "some"⟩),
  ('⊥', ⟨"F", "false", "bottom"⟩),
  ('⊤', ⟨"T", "true", "top"⟩)]

def spelling (fallback : Fallback) : FallbackLevel → String
  | .short => fallback.short
  | .word => fallback.word
  | .name => fallback.name

def glossary (level : FallbackLevel) : Glossary :=
  table.map fun (c, fallback) => (c, fallback.spelling level)

def apply (level : FallbackLevel) (text : Text) : Text :=
  (glossary level).expand text

end Fallback

namespace FallbackLevel

def all : List FallbackLevel := [.short, .word, .name]

def spelling : FallbackLevel → String
  | short => "short"
  | word => "word"
  | name => "name"

def ofText? (text : Text) : Option FallbackLevel :=
  all.find? fun level => level.spelling.toList == text

end FallbackLevel

def Fallback.applyNamed (level text : Text) : Except Failure Text :=
  match FallbackLevel.ofText? level with
  | some level => .ok (Fallback.apply level text)
  | none => .error (.symbol (.unknownLevel level))

example : Fallback.apply .short "∇ ok".toList = "? ok".toList := by decide +kernel

end SymbolScript
