import SymbolScript.Action.Basic
import SymbolScript.Pipeline

/-! The action that compiles a source text. -/

namespace SymbolScript.Action

def target? : Value → Option Target
  | .text name => Target.ofText? name
  | _ => none

/-- Compiles a value. One that is not a text makes an unsuccessful outcome. -/
def compileValue (options : CompileOptions) : Value → Outcome
  | .text source => SymbolScript.compile options source
  | value =>
    { success := false, diagnostics := [(TypeFault.notText value.typeName).message] }

def outcomeFields (target : Target) (outcome : Outcome) : Dictionary Text Value := [
  entry "success" (.bool outcome.success),
  entry "target" (textOf target.spelling),
  entry "output" (.text (outcome.outputFor target)),
  entry "javascript" (.text outcome.javascript),
  entry "typescript" (.text outcome.typescript),
  entry "go" (.text outcome.go),
  entry "diagnostics" (.list (outcome.diagnostics.map .text))]

def compile : Handler := fun request => do
  match request.given? "source" with
  | none => return missing "source"
  | some source =>
    let wanted := request.fieldOr "target" (textOf Target.javascript.spelling)
    match target? wanted with
    | none => unknown "target" wanted
    | some target =>
      let debug := (request.fieldOr "debug" (.bool false)).isTrue
      return .fields (outcomeFields target (compileValue { target, debug } source))

end SymbolScript.Action
