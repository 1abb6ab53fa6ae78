import SymbolScript.Construct.Component
import SymbolScript.Construct.Conditional
import SymbolScript.Construct.Function
import SymbolScript.Construct.Import
import SymbolScript.Construct.Layout
import SymbolScript.Construct.Literal
import SymbolScript.Construct.NumberLiteral
import SymbolScript.Construct.State
import SymbolScript.Construct.Style
import SymbolScript.Dictionary

/-!
Compilation of a source text: a list of named passes, each from text to text, is run in order until
one fails.
-/

namespace SymbolScript

/-! ## Targets and outcomes -/

inductive Target
  | javascript
  | typescript
  | go
deriving DecidableEq, Repr

namespace Target

def all : List Target := [javascript, typescript, go]

def spelling : Target → String
  | javascript => "javascript"
  | typescript => "typescript"
  | go => "go"

def extension : Target → String
  | javascript => ".js"
  | typescript => ".ts"
  | go => ".go"

def ofText? (text : Text) : Option Target :=
  all.find? fun target => target.spelling.toList == text

end Target

structure CompileOptions where
  target : Target := .javascript
  debug : Bool := false
  outputPath : Option Text := none
deriving DecidableEq, Repr

/-- What a compilation gives: the output for each target, or empty outputs and, as the last
diagnostic, why it failed. -/
structure Outcome where
  success : Bool
  javascript : Text := []
  typescript : Text := []
  go : Text := []
  diagnostics : List Text := []
  outputPath : Option Text := none
deriving DecidableEq, Repr

def Outcome.outputFor (outcome : Outcome) : Target → Text
  | .javascript => outcome.javascript
  | .typescript => outcome.typescript
  | .go => outcome.go

/-- The program that stands for every source when the target is Go. -/
def goProgram : Text :=
  ("package main\n\nimport \"fmt\"\n\nfunc main() \x7b\n" ++
    "    fmt.Println(\"GaiaScript Go output\")\n\x7d\n").toList

/-! ## Passes -/

structure Pass where
  name : String
  apply : Text → Except Failure Text

namespace Pass

def total (name : String) (apply : Text → Text) : Pass :=
  ⟨name, fun text => .ok (apply text)⟩

def standard : List Pass := [
  ⟨"decode_numbers", Construct.decodeNumbers⟩,
  ⟨"transform_literals", Construct.rewriteLiterals⟩,
  total "transform_imports" Construct.rewriteImports,
  ⟨"transform_state", Construct.rewriteStates⟩,
  total "transform_functions" Construct.rewriteFunctions,
  total "transform_components" Construct.rewriteComponents,
  total "transform_styles" Construct.rewriteStyles,
  total "transform_conditionals" Construct.rewriteConditionals,
  total "substitute_symbols" Construct.substituteSymbols,
  total "cleanup" Construct.tidy]

end Pass

/-- How a list of passes went: the texts after the passes that succeeded, and either the last text
or the name and the failure of the pass that stopped the run. -/
structure Run where
  stages : List (String × Text)
  result : Except (String × Failure) Text

def runPasses : List Pass → Text → Run
  | [], text => ⟨[], .ok text⟩
  | pass :: rest, text =>
    match pass.apply text with
    | .error failure => ⟨[], .error (pass.name, failure)⟩
    | .ok next =>
      let run := runPasses rest next
      { run with stages := (pass.name, next) :: run.stages }

/-! ## Compilation -/

def stageLine (stage : String × Text) : Text :=
  stage.1.toList ++ ": ".toList ++ Decimal.ofNat stage.2.length ++ " chars".toList

def headerLine (source : Text) : Text :=
  "Compiled ".toList ++ Decimal.ofNat source.length ++ " characters".toList

/-- Compiles a source text with the given passes. A pass that fails makes an unsuccessful
outcome. -/
def compileWith (passes : List Pass) (options : CompileOptions) (source : Text) : Outcome :=
  let run := runPasses passes source
  let lines := if options.debug then run.stages.map stageLine else []
  match run.result with
  | .error (_, failure) =>
    { success := false, diagnostics := lines ++ [failure.message] }
  | .ok text =>
    { success := true
      javascript := text
      typescript := text
      go := goProgram
      diagnostics := if options.debug then headerLine source :: lines else [] }

def compile (options : CompileOptions) (source : Text) : Outcome :=
  compileWith Pass.standard options source

/-- Compiles named sources; of two sources with one name the second counts. -/
def compileMany (passes : List Pass) (options : CompileOptions)
    (sources : List (Text × Text)) : List (Text × Outcome) :=
  (Dictionary.ofPairs sources).map fun (name, source) =>
    (name, compileWith passes options source)

end SymbolScript
