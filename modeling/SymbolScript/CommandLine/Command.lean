import SymbolScript.Action.NumberCode
import SymbolScript.Action.Rewriting
import SymbolScript.CommandLine.Arguments
import SymbolScript.Pipeline
import SymbolScript.Report.Catalogue

/-! The commands of the command line, and how they are read from its arguments. -/

namespace SymbolScript.CommandLine

/-! ## Commands -/

inductive Command
  | compile (input : Text) (options : CompileOptions)
  | encodeNumber (value : Text) (format : Option Text)
  | decodeNumber (literal : Text) (format : Option Text)
  | expand (text mode : Text)
  | compress (text mode : Text)
  | tokens (text : Text) (traditional : Option Text) (method : Text) (charactersPerToken : Float)
  | report (topic : Report.Topic) (picture : Option Text)

/-! ## Grammars -/

def isOneOf (spellings : List String) (text : Text) : Bool :=
  spellings.any fun spelling => spelling.toList == text

def helpOption : OptionSpec where
  key := "help"
  spellings := ["-h", "--help"]

def frontGrammar : Grammar where
  options := [
    helpOption,
    { key := "version", spellings := ["--version"] },
    { key := "verbose", spellings := ["-v", "--verbose"] }]

def compileGrammar : Grammar where
  words := [{ key := "input" }]
  options := [
    helpOption,
    { key := "output", spellings := ["-o", "--output"], takesValue := true },
    { key := "target"
      spellings := ["-t", "--target"]
      takesValue := true
      accepts := isOneOf (Target.all.map Target.spelling) },
    { key := "debug", spellings := ["--debug"] }]

def numberGrammar : Grammar where
  words := [{ key := "direction", accepts := isOneOf ["encode", "decode"] }, { key := "value" }]
  options := [
    helpOption,
    { key := "format"
      spellings := ["--format"]
      takesValue := true
      accepts := isOneOf ["vector", "base64"] }]

def rewriteGrammar (modes : List Action.Mode) : Grammar where
  words := [{ key := "text" }]
  options := [
    helpOption,
    { key := "mode"
      spellings := ["--mode"]
      takesValue := true
      accepts := isOneOf (modes.map Action.Mode.name) }]

def tokensGrammar : Grammar where
  words := [{ key := "text" }]
  options := [
    helpOption,
    { key := "traditional", spellings := ["--traditional"], takesValue := true },
    { key := "method"
      spellings := ["--method"]
      takesValue := true
      accepts := isOneOf ["bpe", "ratio"] },
    { key := "ratio"
      spellings := ["--chars-per-token"]
      takesValue := true
      accepts := fun text => (Decimal.readFloat? text).isSome }]

def reportGrammar : Grammar where
  words := [{ key := "topic", accepts := isOneOf (Report.Topic.all.map Report.Topic.spelling) }]
  options := [
    helpOption,
    { key := "measured", spellings := ["--measured"] },
    { key := "picture", spellings := ["--plot"], takesValue := true }]

/-! ## Reading -/

def compileCommand (arguments : Arguments) : Command :=
  .compile (arguments.valueOr "input" "") {
    target := (Target.ofText? (arguments.valueOr "target" "")).getD .javascript
    debug := arguments.hasFlag "debug"
    outputPath := arguments.value? "output" }

def numberCommand (arguments : Arguments) : Command :=
  let value := arguments.valueOr "value" ""
  let format := arguments.value? "format"
  if arguments.valueOr "direction" "" = "encode".toList then .encodeNumber value format
  else .decodeNumber value format

def tokensCommand (arguments : Arguments) : Command :=
  .tokens (arguments.valueOr "text" "") (arguments.value? "traditional")
    (arguments.valueOr "method" "bpe")
    ((Decimal.readFloat? (arguments.valueOr "ratio" "4")).getD 4)

def reportCommand (arguments : Arguments) : Command :=
  .report ((Report.Topic.ofText? (arguments.valueOr "topic" "")).getD .vectorNumbers)
    (arguments.value? "picture")

def commands : List (String × Grammar × (Arguments → Command)) := [
  ("compile", compileGrammar, compileCommand),
  ("number", numberGrammar, numberCommand),
  ("expand", rewriteGrammar Action.Mode.expanding,
    fun arguments => .expand (arguments.valueOr "text" "") (arguments.valueOr "mode" "keywords")),
  ("compress", rewriteGrammar Action.Mode.compressing,
    fun arguments => .compress (arguments.valueOr "text" "") (arguments.valueOr "mode" "keywords")),
  ("tokens", tokensGrammar, tokensCommand),
  ("report", reportGrammar, reportCommand)]

def readNamed (name : Text) (rest : List Text) (hasUnknown : Bool) : Except Stop Command :=
  match commands.find? fun command => command.1.toList == name with
  | none => .error .misuse
  | some (_, grammar, make) => do
    let arguments ← grammar.read rest
    if hasUnknown || arguments.hasUnknown then throw .misuse
    return make arguments

def readFront (arguments : Arguments) : List (Token × Text) → Except Stop Command
  | [] => .error (if arguments.hasUnknown then .misuse else .noCommand)
  | (.word name, _) :: rest => readNamed name (rest.map (·.2)) arguments.hasUnknown
  | (.separator, _) :: _ => .error .misuse
  | (.unknownOption, _) :: rest => readFront { arguments with hasUnknown := true } rest
  | (.option spec spelling attached, _) :: rest => do
    let (settings, _) ← frontGrammar.settings spec spelling attached []
    readFront (← settings.foldlM Arguments.put arguments) rest

def readCommand (texts : List Text) : Except Stop Command := do
  readFront {} (← frontGrammar.tokens texts)

end SymbolScript.CommandLine
