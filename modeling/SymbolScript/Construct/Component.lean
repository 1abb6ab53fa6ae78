import SymbolScript.Construct.Field
import SymbolScript.Construct.TaggedBlock
import SymbolScript.Text.Blank

/-! Component blocks and the block of the application root, whose header is a star. -/

namespace SymbolScript.Construct

/-! ## Components -/

def isComponentTag (c : Char) : Bool :=
  c == '組' || c == '∆'

def isStar (c : Char) : Bool :=
  c == '✱'

def components : Text.Recogniser TaggedBlock :=
  taggedBlocks isComponentTag isStar

def returnedBody (body : Text) : Text :=
  " \x7b\n  return (\n    ".toList ++ Text.trim body ++ "\n  );\n\x7d".toList

def propertySignature (list : Text) : Text :=
  match parameterList list with
  | [] => []
  | names => "\x7b ".toList ++ names ++ " \x7d".toList

def componentFunction (block : TaggedBlock) : Text :=
  "function ".toList ++ Text.trim block.name ++ "(".toList ++
    propertySignature block.parameters ++ ")".toList ++ returnedBody block.body

/-! ## The application root -/

def isRootTag (c : Char) : Bool :=
  c == '界' || c == 'Ω'

def takeRoot? : Text → Option (Text × Text)
  | tag :: opener :: '✱' :: closer :: rest =>
    if isRootTag tag && isOpener opener && isCloser closer then splitClosingTag? tag rest else none
  | _ => none

def roots : Text.Recogniser Text where
  take := takeRoot?
  shorter := by
    intro text found rest taken
    unfold takeRoot? at taken
    split at taken
    · split at taken
      · have shorter := length_of_splitClosingTag? taken
        simp only [List.length_cons]
        omega
      · simp at taken
    · simp at taken

def rootFunction (body : Text) : Text :=
  "export default function App()".toList ++ returnedBody body

/-- Replaces the component blocks of a text and then its root blocks by functions. -/
def rewriteComponents (source : Text) : Text :=
  roots.replace rootFunction (components.replace componentFunction source)

end SymbolScript.Construct
