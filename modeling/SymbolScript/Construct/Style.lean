import SymbolScript.Construct.Field
import SymbolScript.Glossary.Tables
import SymbolScript.Text.Casing
import SymbolScript.Text.Recogniser

/-!
Style blocks: declarations of properties and values in braces. A style block in front of a text in
double square brackets becomes an element with that style, any other one a style object.
-/

namespace SymbolScript.Construct

/-! ## Style objects -/

def camelCase (name : Text) : Text :=
  match Text.splitOn '-' name with
  | [] => []
  | head :: parts => head ++ parts.flatMap Text.capitalize

/-- A text that is one symbol of a glossary becomes its word. -/
def spellOut (glossary : Glossary) : Text → Text
  | [c] =>
    match glossary.word? c with
    | some word => word.toList
    | none => [c]
  | text => text

def isStringQuote (c : Char) : Bool :=
  c == '\x27' || c == '\x22'

/-- The entry of a declaration; a text without a colon declares nothing. -/
def styleEntry? (declaration : Text) : Option Text :=
  match Text.cutAt ':' declaration with
  | (_, none) => none
  | (key, some value) =>
    let property := spellOut Glossary.styleProperties (Text.trimBy isStringQuote (Text.trim key))
    let shown := spellOut Glossary.styleValues (Text.trimBy isStringQuote (Text.trim value))
    some (camelCase property ++ ": '".toList ++ shown ++ "'".toList)

def styleObject (declarations : Text) : Text :=
  '{' :: Text.join ", " ((fields isSemicolonOrComma declarations).filterMap styleEntry?) ++ ['}']

/-! ## Style blocks -/

def takeStyle? : Text → Option (Text × Text)
  | mark :: '{' :: body =>
    if mark = 'Φ' ∨ mark = '樣' then
      match Text.takeRun (fun c => c != '{' && c != '}') body with
      | (declarations, '}' :: rest) => some (declarations, rest)
      | _ => none
    else none
  | _ => none

theorem length_of_takeStyle? {text declarations rest : Text}
    (taken : takeStyle? text = some (declarations, rest)) : rest.length < text.length := by
  unfold takeStyle? at taken
  split at taken
  · next body =>
    have fits := Text.length_takeRun_le (fun c => c != '{' && c != '}') body
    split at taken
    · split at taken
      · next run =>
        rw [run] at fits
        simp only [Option.some.injEq, Prod.mk.injEq] at taken
        rw [← taken.2]
        simp only [List.length_cons] at fits ⊢
        omega
      · simp at taken
    · simp at taken
  · simp at taken

def styles : Text.Recogniser Text where
  take := takeStyle?
  shorter := length_of_takeStyle?

/-- Takes a style block, blanks and a text in double square brackets off the front of a text. -/
def takeStyledText? (text : Text) : Option ((Text × Text) × Text) :=
  match takeStyle? text with
  | none => none
  | some (declarations, afterStyle) =>
    match afterStyle.dropWhile Text.isBlank with
    | '⟦' :: body =>
      match Text.takeRun (· != '⟧') body with
      | (content, _ :: rest) => some ((declarations, content), rest)
      | (_, []) => none
    | _ => none

def styledTexts : Text.Recogniser (Text × Text) where
  take := takeStyledText?
  shorter := by
    intro text found rest taken
    unfold takeStyledText? at taken
    split at taken
    · simp at taken
    · next declarations afterStyle style =>
      have styleShorter := length_of_takeStyle? style
      have blankFits := (List.dropWhile_sublist Text.isBlank (l := afterStyle)).length_le
      split at taken
      · next body blanks =>
        have bodyFits := Text.length_takeRun_le (· != '⟧') body
        rw [blanks] at blankFits
        split at taken
        · next run =>
          rw [run] at bodyFits
          simp only [Option.some.injEq, Prod.mk.injEq] at taken
          rw [← taken.2]
          simp only [List.length_cons] at bodyFits blankFits
          omega
        · simp at taken
      · simp at taken

def styledElement (styled : Text × Text) : Text :=
  "<div style=\x7b".toList ++ styleObject styled.1 ++ "\x7d>".toList ++ Text.trim styled.2 ++
    "</div>".toList

/-- Replaces the styled texts of a text by elements, and then its other style blocks by style
objects. -/
def rewriteStyles (source : Text) : Text :=
  styles.replace styleObject (styledTexts.replace styledElement source)

example : styleObject "ρ:red;Γ: ◐".toList =
    "\x7bcolor: 'red', backgroundColor: 'center'\x7d".toList := by decide +kernel

end SymbolScript.Construct
