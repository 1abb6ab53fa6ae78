import SymbolScript.Construct.Bracket
import SymbolScript.Construct.Field
import SymbolScript.Text.Recogniser

/-! Import blocks: lists of names taken from the runtime or from the view library. -/

namespace SymbolScript.Construct

inductive ImportSource
  | runtime
  | react
deriving DecidableEq, Repr

namespace ImportSource

def mark : ImportSource → Char
  | runtime => '導'
  | react => 'Ψ'

def module : ImportSource → String
  | runtime => "@gaiascript/runtime"
  | react => "react"

end ImportSource

/-- Takes an opening bracket, a text without block brackets that is not empty, and a closing
bracket, which may be of the other kind. -/
def takeEnclosed? : Text → Option (Text × Text)
  | opener :: body =>
    if isOpener opener then
      match Text.takeRun (fun c => !isBlockBracket c) body with
      | (c :: inner, closer :: rest) =>
        if isCloser closer then some (c :: inner, rest) else none
      | _ => none
    else none
  | [] => none

theorem length_of_takeEnclosed? {text inner rest : Text}
    (taken : takeEnclosed? text = some (inner, rest)) : rest.length < text.length := by
  unfold takeEnclosed? at taken
  split at taken
  · next opener body =>
    have fits := Text.length_takeRun_le (fun c => !isBlockBracket c) body
    split at taken
    · split at taken
      · next run =>
        rw [run] at fits
        split at taken
        · simp only [Option.some.injEq, Prod.mk.injEq] at taken
          rw [← taken.2]
          simp only [List.length_cons] at fits ⊢
          omega
        · simp at taken
      · simp at taken
    · simp at taken
  · simp at taken

def takeImport? (source : ImportSource) : Text → Option (Text × Text)
  | mark :: rest => if mark = source.mark then takeEnclosed? rest else none
  | [] => none

def imports (source : ImportSource) : Text.Recogniser Text where
  take := takeImport? source
  shorter := by
    intro text found rest taken
    unfold takeImport? at taken
    split at taken
    · split at taken
      · have shorter := length_of_takeEnclosed? taken
        simp only [List.length_cons]
        omega
      · simp at taken
    · simp at taken

def importStatement (source : ImportSource) (names : Text) : Text :=
  "import \x7b ".toList ++ parameterList names ++ " \x7d from \"".toList ++
    source.module.toList ++ "\";".toList

def rewriteImports (source : Text) : Text :=
  let fromRuntime := (imports .runtime).replace (importStatement .runtime) source
  (imports .react).replace (importStatement .react) fromRuntime

example : importStatement .react "a,b".toList = "import \x7b a, b \x7d from \"react\";".toList := by
  decide +kernel

end SymbolScript.Construct
