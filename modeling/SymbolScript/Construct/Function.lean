import SymbolScript.Construct.Field
import SymbolScript.Construct.TaggedBlock
import SymbolScript.Text.Blank

/-! Function blocks. -/

namespace SymbolScript.Construct

def isFunctionTag (c : Char) : Bool :=
  c == '函' || c == 'λ'

def functions : Text.Recogniser TaggedBlock :=
  taggedBlocks isFunctionTag fun _ => false

def functionDeclaration (block : TaggedBlock) : Text :=
  "function ".toList ++ Text.trim block.name ++ "(".toList ++ parameterList block.parameters ++
    ") \x7b\n  ".toList ++ Text.trim block.body ++ "\n\x7d".toList

def rewriteFunctions (source : Text) : Text :=
  functions.replace functionDeclaration source

end SymbolScript.Construct
