import SymbolScript.Glossary.Correspondence
import SymbolScript.Report.Basic

/-! The report on type marks: what the combining marks of modifiers look like. -/

namespace SymbolScript.Report.TypeMark

def examples : List (String × List String × String) := [
  ("λ", ["async"], "async function"),
  ("λ", ["async", "typed"], "typed async function"),
  ("𝕊", ["nullable"], "nullable string"),
  ("ℝ", ["array"], "number array"),
  ("Σ", ["reactive"], "reactive state"),
  ("𝕆", ["validated", "mutable"], "validated mutable object"),
  ("𝔸", ["tuple"], "tuple"),
  ("Ω", ["static"], "static interface")]

def marked (base : String) (modifiers : List String) : Except Failure String := do
  return String.ofList (← TypeModifier.attach base.toList (modifiers.map String.toList))

def modifierRow (name : String) (mark : Char) : Except Failure (List String) := do
  return [name, String.ofList ['◌', mark], ← marked "λ" [name]]

def exampleLine (base : String) (modifiers : List String) (meaning : String) :
    Except Failure String := do
  let symbol ← marked base modifiers
  let names := " + ".intercalate modifiers
  return s!"   {field 4 symbol} {meaning} ({names})"

def text : Except Failure String := do
  return print <|
    ["GaiaScript Type Notation\n",
      "Modifiers:",
      ← grid ["Modifier", "Mark", "On λ"] ""
        (← TypeModifier.marks.mapM fun (name, mark) => modifierRow name mark),
      "\nExamples:"] ++
    (← examples.mapM fun (base, modifiers, meaning) => exampleLine base modifiers meaning) ++
    ["\nSymbol categories:"] ++
    Correspondence.categories.map fun (category, entries) =>
      s!"   {category}: {whole entries.length} entries"

end SymbolScript.Report.TypeMark
