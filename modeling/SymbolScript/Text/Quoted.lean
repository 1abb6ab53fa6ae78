import SymbolScript.Decimal.Basic
import SymbolScript.Text.Printable

/-! Quoted texts, as messages show them. -/

namespace SymbolScript.Text

def singleQuote : Char := '\x27'
def doubleQuote : Char := '\x22'

/-- Single quotes stand around a text unless it holds a single quote and no double quote. -/
def quoteFor (text : Text) : Char :=
  if text.holds singleQuote && !text.holds doubleQuote then doubleQuote else singleQuote

/-- The spelling of a character between the given quotes. Characters that are not printable are
given by their code points. -/
def quotedChar (quote c : Char) : Text :=
  if c = quote || c = '\\' then ['\\', c]
  else if c = '\n' then "\\n".toList
  else if c = '\r' then "\\r".toList
  else if c = '\t' then "\\t".toList
  else if isPrintable c then [c]
  else if c.toNat < 0x100 then "\\x".toList ++ Decimal.hexadecimal 2 c.toNat
  else if c.toNat < 0x10000 then "\\u".toList ++ Decimal.hexadecimal 4 c.toNat
  else "\\U".toList ++ Decimal.hexadecimal 8 c.toNat

def quoted (text : Text) : Text :=
  let quote := quoteFor text
  quote :: text.flatMap (quotedChar quote) ++ [quote]

example : quoted "it's".toList = "\"it's\"".toList := by decide +kernel
example : quoted "a\n".toList = "'a\\n'".toList := by decide +kernel

end SymbolScript.Text
