import SymbolScript.Action.Basic
import SymbolScript.Glossary.Correspondence

/-! The action that lists symbols. -/

namespace SymbolScript.Action

def glossaryObject (glossary : Glossary) : Value :=
  .object (glossary.map fun (c, word) => ([c], textOf word))

def correspondenceObject (entries : Correspondence) : Value :=
  .object (entries.map fun (key, value) => entry key (textOf value))

def correspondence? : Value → Option Correspondence
  | .text category => Dictionary.get? Correspondence.categories (String.ofList category)
  | _ => none

def listSymbols : Handler := fun request => do
  match request.given? "category" with
  | none =>
    let names := (Dictionary.keys Correspondence.categories).map textOf
    return .fields [entry "symbols" (glossaryObject Glossary.sourceSymbols),
      entry "categories" (.list names)]
  | some category =>
    if !category.isHashable then throw (.type (.unhashable category.typeName))
    match correspondence? category with
    | none => unknown "symbol category" category
    | some entries =>
      return .fields [entry "category" category,
        entry "symbols" (correspondenceObject entries)]

end SymbolScript.Action
