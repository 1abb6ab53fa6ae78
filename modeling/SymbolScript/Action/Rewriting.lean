import SymbolScript.Action.Basic
import SymbolScript.Glossary.Expansion
import SymbolScript.Glossary.Fallback
import SymbolScript.WordCode

/-! The actions that expand and compress a text. -/

namespace SymbolScript.Action

/-- A way to rewrite a text, and how it fails on a value that is not a text, by the name of its
type. -/
structure Mode where
  name : String
  rewrite : Text → Except Failure Text
  refuse : String → Failure

namespace Mode

def cannotReplace (typeName : String) : Failure :=
  .missingMember typeName "replace"

def cannotSearch (typeName : String) : Failure :=
  .type (.notText typeName)

def expanding : List Mode := [
  ⟨"keywords", fun text => .ok (Glossary.expandKeywords text), cannotReplace⟩,
  ⟨"chinese", fun text => .ok (Glossary.expandWords text), cannotReplace⟩,
  ⟨"words", WordCode.decodeWords, cannotSearch⟩,
  ⟨"ascii", fun text => .ok (Fallback.apply .word text), cannotReplace⟩]

def compressing : List Mode := [
  ⟨"keywords", fun text => .ok (Glossary.compressKeywords text), cannotSearch⟩,
  ⟨"chinese", fun text => .ok (Glossary.compressWords text), cannotSearch⟩,
  ⟨"words", fun text => .ok (WordCode.encodeWords text), cannotSearch⟩]

def names (modes : List Mode) : List Text :=
  (modes.map fun mode => mode.name.toList).mergeSort fun left right => decide (left ≤ right)

def find? (modes : List Mode) (name : Value) : Option Mode :=
  modes.find? fun mode => name.isText mode.name

end Mode

def rewriteWith (modes : List Mode) : Handler := fun request => do
  match request.given? "text" with
  | none => return missing "text"
  | some subject =>
    let wanted := request.fieldOr "mode" (textOf "keywords")
    if !wanted.isHashable then throw (.type (.unhashable wanted.typeName))
    match Mode.find? modes wanted with
    | none =>
      let names := Text.join ", " ((Mode.names modes).map Text.quoted)
      return .refusal ("Unknown mode: ".toList ++ (← wanted.shown) ++
        " (expected one of [".toList ++ names ++ "])".toList)
    | some mode =>
      match subject with
      | .text text =>
        return .fields [entry "mode" wanted, entry "text" (.text (← mode.rewrite text))]
      | value => throw (mode.refuse value.typeName)

def expand : Handler := rewriteWith Mode.expanding

def compress : Handler := rewriteWith Mode.compressing

end SymbolScript.Action
