import SymbolScript.Construct.Import
import SymbolScript.Proofs.Construct.Layout
import SymbolScript.Proofs.Construct.Nesting

/-!
Programs as lists of items, each an ASCII line or one construct of the notation on a line of its
own, with the source text of an item and the JavaScript that should come of it.
-/

namespace SymbolScript.Program

open Construct Text

/-! ## Parts of items -/

/-- A text in ASCII on one line, with no blank at either end. -/
structure Line where
  text : Text
  filled : text ≠ []
  ascii : IsAscii text
  oneLine : '\n' ∉ text
  first : ∀ c ∈ text.head?, isBlank c = false
  last : ∀ c ∈ text.getLast?, isBlank c = false

def nameChars : Text :=
  charsFrom 'A' 26 ++ charsFrom 'a' 26 ++ charsFrom '0' 10 ++ ['_', '$']

structure Name where
  text : Text
  filled : text ≠ []
  chars : ∀ c ∈ text, c ∈ nameChars

def valueStops : Text :=
  ",()[]\x7b\x7d\x27\x22\x60".toList

structure Value extends Line where
  plain : ∀ c ∈ text, c ∉ valueStops

structure Condition extends Line where
  nested : WellNested (onePair '(' ')') text

structure Entry where
  name : Name
  value : Value

/-! ## Items -/

def stateMarks : List Char := ['狀', 'Σ']

def functionTags : List Char := ['函', 'λ']

def componentTags : List Char := ['組', '∆']

inductive Item
  | text (line : Line)
  | imports (source : ImportSource) (names : List Name) (filled : names ≠ [])
  | state (mark : Char) (marked : mark ∈ stateMarks) (entries : List Entry) (filled : entries ≠ [])
  | function (tag : Char) (tagged : tag ∈ functionTags) (name : Name) (parameters : List Name)
      (body : Line)
  | component (tag : Char) (tagged : tag ∈ componentTags) (name : Name) (parameters : List Name)
      (body : Line)
  | conditional (condition : Condition) (branch : Line) (other : Option Line)

def nameList (names : List Name) : Text :=
  join "," (names.map Name.text)

def shownNames (names : List Name) : Text :=
  join ", " (names.map Name.text)

def Entry.declaration (entry : Entry) : Text :=
  entry.name.text ++ ":".toList ++ entry.value.text

def Entry.shown (entry : Entry) : Text :=
  "  ".toList ++ entry.name.text ++ ": ".toList ++ entry.value.text

def blockSource (tag : Char) (name : Name) (parameters : List Name) (body : Line) : Text :=
  tag :: "⟨".toList ++ nameList (name :: parameters) ++ "⟩".toList ++ body.text ++ "⟨/".toList ++
    tag :: "⟩".toList

namespace Item

/-- The notation of an item. -/
def source : Item → Text
  | text line => line.text
  | imports source names _ => source.mark :: "⟨".toList ++ nameList names ++ "⟩".toList
  | state mark _ entries _ =>
    mark :: "⟨".toList ++ join "," (entries.map Entry.declaration) ++ "⟩".toList
  | function tag _ name parameters body => blockSource tag name parameters body
  | component tag _ name parameters body => blockSource tag name parameters body
  | conditional condition branch other =>
    "∇(".toList ++ condition.text ++ ") → ".toList ++ branch.text ++
      match other with
      | none => []
      | some line => " ⊘ ".toList ++ line.text

/-- The JavaScript of an item. -/
def rendering : Item → Text
  | text line => line.text
  | imports source names _ =>
    "import \x7b ".toList ++ shownNames names ++ " \x7d from \"".toList ++ source.module.toList ++
      "\";".toList
  | state _ _ entries _ =>
    "const state = \x7b\n".toList ++ join ",\n" (entries.map Entry.shown) ++ "\n\x7d;".toList
  | function _ _ name parameters body =>
    "function ".toList ++ name.text ++ "(".toList ++ shownNames parameters ++ ") \x7b\n  ".toList ++
      body.text ++ "\n\x7d".toList
  | component _ _ name parameters body =>
    "function ".toList ++ name.text ++ "(".toList ++
      (if parameters = [] then [] else "\x7b ".toList ++ shownNames parameters ++ " \x7d".toList) ++
      ") \x7b\n  return (\n    ".toList ++ body.text ++ "\n  );\n\x7d".toList
  | conditional condition branch other =>
    "if (".toList ++ condition.text ++ ") \x7b\n  ".toList ++ branch.text ++ "\n\x7d".toList ++
      match other with
      | none => []
      | some line => " else \x7b\n  ".toList ++ line.text ++ "\n\x7d".toList

end Item

/-- A program has one item after another, each on a line of its own. -/
def source (items : List Item) : Text :=
  join "\n" (items.map Item.source)

def rendering (items : List Item) : Text :=
  join "\n" (items.map Item.rendering)

end SymbolScript.Program
