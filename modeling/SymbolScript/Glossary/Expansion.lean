import SymbolScript.Decimal.Reading
import SymbolScript.Glossary.Tables

/-!
Expansion of texts to English and compression of English texts, either with the keywords and symbol
names or with the CJK words and digits.
-/

namespace SymbolScript.Glossary

/-! ## Keywords -/

def expandKeywords (text : Text) : Text :=
  symbolNames.expand (keywords.expand text)

def compressKeywords (text : Text) : Text :=
  keywords.compress text

/-! ## Words and digits -/

def expandWords (text : Text) : Text :=
  digitWords.expand (technicalTerms.expand (coreWords.expand text))

def compressWords (text : Text) : Text :=
  digitWords.compress (technicalTerms.compress (coreWords.compress text))

example : compressWords "the code 5 55".toList = "的 碼 五 55".toList := by decide +kernel

/-! ## Single digits -/

def digitOf? (number : Int) : Option Char :=
  (digits.find? fun entry => (entry.2 : Int) == number).map (·.1)

def readDigit (text : Text) : Except Failure Int :=
  match digits.find? fun entry => [entry.1] == text with
  | some (_, value) => .ok value
  | none => (Decimal.readInt text).mapError fun _ => .symbol (.notADigit text)

end SymbolScript.Glossary
