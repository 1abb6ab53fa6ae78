import SymbolScript.Construct.Bracket
import SymbolScript.Construct.Field

/-! Literal blocks: strings, arrays, objects, bare values and comments. -/

namespace SymbolScript.Construct

def stringLiteral (inner : Text) : Text :=
  '\x22' :: Text.replaceChar '\x22' "\\\"".toList inner ++ ['\x22']

def itemList (inner : Text) : Text :=
  Text.join ", " (fields isComma inner)

def arrayLiteral (inner : Text) : Text :=
  '[' :: itemList inner ++ [']']

def objectLiteral (inner : Text) : Text :=
  '{' :: itemList inner ++ ['}']

/-- How each literal block is written; a comment leaves nothing. -/
def literalHandlers : Handlers
  | '文' | '𝕊' => some stringLiteral
  | '列' | '𝔸' => some arrayLiteral
  | '物' | '𝕆' => some objectLiteral
  | '𝔹' | 'ℝ' => some Text.trim
  | '檔' => some fun _ => []
  | _ => none

def rewriteLiterals (source : Text) : Except Failure Text :=
  rewriteBlocks literalHandlers source

example : arrayLiteral "1, 2,,".toList = "[1, 2]".toList := by decide +kernel

end SymbolScript.Construct
