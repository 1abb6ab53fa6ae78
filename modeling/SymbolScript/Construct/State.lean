import SymbolScript.Construct.Bracket
import SymbolScript.Construct.Field

/-! State blocks: named values that become the fields of one constant object. -/

namespace SymbolScript.Construct

/-- One field of the state object; a name without a value is undefined. -/
def stateEntry (declaration : Text) : Text :=
  let (name, value) := Text.cutAt ':' declaration
  let shown := Text.trim (value.getD [])
  "  ".toList ++ Text.trim name ++ ": ".toList ++
    (if shown.isEmpty then "undefined".toList else shown)

def stateObject (inner : Text) : Text :=
  "const state = \x7b\n".toList ++
    Text.join ",\n" ((fields isComma inner).map stateEntry) ++ "\n\x7d;".toList

def stateHandlers : Handlers
  | '狀' | 'Σ' => some stateObject
  | _ => none

def rewriteStates (source : Text) : Except Failure Text :=
  rewriteBlocks stateHandlers source

example : stateObject "n: 1, m".toList =
    "const state = \x7b\n  n: 1,\n  m: undefined\n\x7d;".toList := by decide +kernel

end SymbolScript.Construct
