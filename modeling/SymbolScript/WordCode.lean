import SymbolScript.Decimal.Reading
import SymbolScript.Dictionary
import SymbolScript.Text.Casing
import SymbolScript.Text.Recogniser

/-! Word codes: frequent English words written as a `w` with a subscript index. -/

namespace SymbolScript.WordCode

/-! ## The indexed words -/

def commonWords : List String := [
  "the", "of", "and", "to", "a", "in", "is", "you", "are", "for", "it", "with", "on", "this",
  "but", "her", "or", "his", "she", "will"]

def technicalWords : List String := [
  "execution", "commands", "gaiascript", "language", "requirements", "always", "use", "code",
  "style", "guidelines", "imports", "formatting", "naming", "state", "declaration", "functions",
  "ui", "components", "styles", "variable", "interpolation", "error", "handling", "standard",
  "project", "structure", "ecosystem", "technical", "specification", "system", "description",
  "features", "tech", "syntax", "numbers", "operations", "layers"]

def indices : List (String × Nat) :=
  commonWords.zipIdx ++ technicalWords.zipIdx 81

example : (indices.map (·.1)).Nodup ∧ (indices.map (·.2)).Nodup := by decide +kernel

def indexOf? (word : Text) : Option Nat :=
  (indices.find? fun entry => entry.1.toList == word).map (·.2)

def wordAt? (index : Nat) : Option Text :=
  (indices.find? fun entry => entry.2 == index).map (·.1.toList)

/-! ## Codes -/

def subscript (c : Char) : Char :=
  Char.ofNat (0x2080 + Decimal.plainDigitValue c)

def isSubscript (c : Char) : Bool :=
  0x2080 ≤ c.toNat && c.toNat ≤ 0x2089

def code (index : Nat) : Text :=
  'w' :: (Decimal.ofNat index).map subscript

def readIndex (subscripts : Text) : Except Failure Nat :=
  if Decimal.digitLimit < subscripts.length then
    .error (.value (.tooManyDigitsToRead subscripts.length))
  else
    .ok (Positional.read 10 (subscripts.map fun c => c.toNat - 0x2080))

def takeCode? : Text → Option (Text × Text)
  | 'w' :: rest =>
    match Text.takeRun isSubscript rest with
    | ([], _) => none
    | (subscripts, after) => some (subscripts, after)
  | _ => none

def codes : Text.Recogniser Text where
  take := takeCode?
  shorter := by
    intro text found rest taken
    unfold takeCode? at taken
    split at taken
    · next body =>
      have fits := Text.length_takeRun_le isSubscript body
      split at taken
      · simp at taken
      · next run =>
        rw [run] at fits
        simp only [Option.some.injEq, Prod.mk.injEq] at taken
        rw [← taken.2, List.length_cons]
        simp only at fits
        omega
    · simp at taken

/-! ## Words and texts -/

/-- The code of a word in any mix of upper and lower case; a word without a code stays. -/
def encodeWord (word : Text) : Text :=
  match indexOf? (Text.lowercase word) with
  | some index => code index
  | none => word

/-- The word of a text that is a code as a whole. -/
def decodeWord (text : Text) : Except Failure Text :=
  match takeCode? text with
  | some (subscripts, []) => do
    let index ← readIndex subscripts
    match wordAt? index with
    | some word => return word
    | none => throw (.symbol (.unknownWordIndex index))
  | _ => .error (.symbol (.notAWordCode text))

def encodeWords (text : Text) : Text :=
  Text.mapRuns Char.isAlpha encodeWord text

/-- The word of a code, or the code itself if its index has no word. -/
def spellCode (subscripts : Text) : Except Failure Text := do
  let index ← readIndex subscripts
  return (wordAt? index).getD ('w' :: subscripts)

def decodeWords (text : Text) : Except Failure Text :=
  codes.replaceOr spellCode text

example : encodeWords "The code!".toList = "w₀ w₈₈!".toList := by decide +kernel

end SymbolScript.WordCode
