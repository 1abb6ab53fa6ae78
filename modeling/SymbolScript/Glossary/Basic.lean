import SymbolScript.Text.Blank
import SymbolScript.Text.WordChar

/-!
Glossaries pair single characters with words. Expansion replaces the characters of a text by their
words wherever they stand; compression puts the characters back for whole words only, so that a
word inside a longer one stays.
-/

namespace SymbolScript

/-- Characters and their words, in the order in which they are replaced. -/
abbrev Glossary := List (Char × String)

namespace Glossary

/-- Replaces every character of the glossary, one entry after another. -/
def expand (glossary : Glossary) (text : Text) : Text :=
  glossary.foldl (fun text (c, word) => Text.replaceChar c word.toList text) text

/-- Replaces a word where it stands between characters that are not word characters. -/
def replaceWord (word replacement : Text) (text : Text) : Text :=
  Text.mapRuns Text.isWordChar (fun run => if run = word then replacement else run) text

/-- Replaces every whole word of the glossary by its character, one entry after another. -/
def compress (glossary : Glossary) (text : Text) : Text :=
  glossary.foldl (fun text (c, word) => replaceWord word.toList [c] text) text

def word? (glossary : Glossary) (c : Char) : Option String :=
  (glossary.find? (·.1 == c)).map (·.2)

end Glossary

end SymbolScript
