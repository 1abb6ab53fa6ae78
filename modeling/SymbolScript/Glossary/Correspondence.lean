import SymbolScript.Dictionary
import SymbolScript.Failure
import SymbolScript.Glossary.Tables

/-!
Named correspondences between words and symbols, with look-up in both directions, and the
combining marks of type modifiers.
-/

namespace SymbolScript

abbrev Correspondence := Dictionary String String

/-! ## Type modifiers -/

namespace TypeModifier

def marks : List (String × Char) := [
  ("typed", '\u0301'),
  ("nullable", '\u0300'),
  ("array", '\u0302'),
  ("async", '\u0303'),
  ("static", '\u0304'),
  ("mutable", '\u0307'),
  ("tuple", '\u0308'),
  ("reactive", '\u030a'),
  ("validated", '\u030c')]

def mark? (name : Text) : Option Char :=
  (marks.find? fun entry => entry.1.toList == name).map (·.2)

def attach (base : Text) : List Text → Except Failure Text
  | [] => .ok base
  | name :: names =>
    match mark? name with
    | some mark => attach (base ++ [mark]) names
    | none => .error (.symbol (.unknownModifier name))

end TypeModifier

/-! ## Correspondences -/

namespace Correspondence

def keywordSymbols : Correspondence :=
  [("函", "λ"), ("狀", "Σ"), ("組", "∆"), ("界", "Ω"), ("樣", "Φ")]

def propertySymbols : Correspondence :=
  Dictionary.ofPairs
    (Glossary.styleProperties.map fun (symbol, property) => (property, String.singleton symbol))

def englishSymbols : Correspondence :=
  [("function", "λ"), ("state", "Σ"), ("component", "∆"), ("interface", "Ω"), ("style", "Φ")]

def modifierMarks : Correspondence :=
  TypeModifier.marks.map fun (name, mark) => (name, String.singleton mark)

def categories : Dictionary String Correspondence := [
  ("λ", keywordSymbols), ("ρ", propertySymbols), ("Ξ", englishSymbols),
  ("\u20dd", modifierMarks)]

def reversedCategories : Dictionary String Correspondence :=
  categories.map fun (category, entries) => (category, Dictionary.invert entries)

def lookupIn (table : Dictionary String Correspondence) (category key : Text) :
    Except Failure Text :=
  match Dictionary.get? table (String.ofList category) with
  | none => .error (.symbol (.unknownCategory (Text.quoted category)))
  | some entries =>
    match Dictionary.get? entries (String.ofList key) with
    | none => .error (.symbol (.unmapped key category))
    | some value => .ok value.toList

def symbolOf (category word : Text) : Except Failure Text :=
  lookupIn categories category word

def wordOf (category symbol : Text) : Except Failure Text :=
  lookupIn reversedCategories category symbol

end Correspondence

end SymbolScript
