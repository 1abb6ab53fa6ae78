import SymbolScript.Text.Basic

/-! Blank characters: the characters that separate words and are trimmed from texts. -/

namespace SymbolScript.Text

/-- The control characters that move the cursor, the four information separators, the next-line
character and every space, line or paragraph separator. -/
def isBlank (c : Char) : Bool :=
  let point := c.toNat
  (9 ≤ point && point ≤ 13) || (28 ≤ point && point ≤ 32) || point == 0x85 || point == 0xa0 ||
    point == 0x1680 || (0x2000 ≤ point && point ≤ 0x200a) || point == 0x2028 ||
    point == 0x2029 || point == 0x202f || point == 0x205f || point == 0x3000

example : isBlank '\u3000' = true := by decide
example : isBlank '\u200b' = false := by decide

def trim (text : Text) : Text :=
  trimBy isBlank text

def words (text : Text) : List Text :=
  runs (fun c => !isBlank c) text

end SymbolScript.Text
