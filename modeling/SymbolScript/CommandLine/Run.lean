import SymbolScript.Action.Dispatch
import SymbolScript.CommandLine.Command
import SymbolScript.SourceFile

/-!
Runs of the command line. A run reads the standard input, and ends with an exit code, what it has
printed, and the store with what it has written.
-/

namespace SymbolScript.CommandLine

/-! ## Runs -/

/-- How a run ends: before there is a command to run, after its command, or by a failure that is
none of the command's own. -/
inductive Ending
  | stopped (code : Nat)
  | finished (code : Nat) (errors : Text)
  | failed (cause : Failure)
deriving DecidableEq, Repr

structure Run where
  ending : Ending
  printed : Text := []
  store : Store

def lines (texts : List Text) : Text :=
  texts.flatMap fun text => text ++ ['\n']

def conclude (store : Store) : Except Failure Text → Run
  | .ok printed => { ending := .finished 0 [], printed, store }
  | .error cause =>
    if cause.isOwn then
      { ending := .finished 1 (lines ["error: ".toList ++ cause.message]), store }
    else { ending := .failed cause, store }

def refuse (store : Store) (message : Text) : Run :=
  { ending := .finished 1 (lines ["error: ".toList ++ message]), store }

/-! ## Commands -/

def runRequest (store : Store) (request : Action.Request)
    (print : Action.Request → Except Failure Text) : Run :=
  match Action.dispatch request with
  | .success fields => conclude store (print fields)
  | .refusal message => refuse store message
  | .failure cause => refuse store (Action.Response.report cause)

def fieldLine (name : String) (fields : Action.Request) : Except Failure Text := do
  return lines [← (fields.fieldOr name .null).plain]

/-- The text of an argument, or the standard input if it is a hyphen. -/
def textOrInput (input text : Text) : Text :=
  if text = ['-'] then input else text

/-- Reads an integer or, if it is none, a double. -/
def readNumber (text : Text) : Except Failure Number :=
  match Decimal.readInt text with
  | .ok value => .ok (.whole value)
  | .error _ => (Decimal.readFloat text).map .real

def request (action : String) (fields : List (Text × Value)) : Action.Request :=
  Action.entry "action" (Action.textOf action) :: fields

def encodeRequest (number : Number) (format : Option Text) : Action.Request :=
  request "encode_number" [
    Action.entry "value" (.number number),
    Action.entry "format" (.text (format.getD "vector".toList))]

def decodeRequest (literal : Text) (format : Option Text) : Action.Request :=
  request "decode_number" <|
    Action.entry "literal" (.text literal) ::
      (format.map fun name => Action.entry "format" (.text name)).toList

def rewriteRequest (action : String) (text mode : Text) : Action.Request :=
  request action [Action.entry "text" (.text text), Action.entry "mode" (.text mode)]

def costRequest (text : Text) (traditional : Option Text) (method : Text)
    (charactersPerToken : Float) : Action.Request :=
  request "token_cost" <| [
    Action.entry "source" (.text text),
    Action.entry "method" (.text method),
    Action.entry "chars_per_token" (.number (.real charactersPerToken))] ++
    (traditional.map fun text => Action.entry "traditional" (.text text)).toList

def runEncode (store : Store) (value : Text) (format : Option Text) : Run :=
  match readNumber value with
  | .error cause => { ending := .failed cause, store }
  | .ok number => runRequest store (encodeRequest number format) (fieldLine "literal")

def runDecode (store : Store) (literal : Text) (format : Option Text) : Run :=
  runRequest store (decodeRequest literal format) (fieldLine "value")

def runRewrite (store : Store) (action : String) (text mode : Text) : Run :=
  runRequest store (rewriteRequest action text mode) (fieldLine "text")

def percentage (value : Value) : Except Failure Text := do
  return Decimal.fixed 1 (← value.toFloat) ++ ['%']

def costLines (fields : Action.Request) : Except Failure Text := do
  let field := fun name => fields.fieldOr name .null
  let say := fun name => (field name).plain
  let cost := [
    "Characters: ".toList ++ (← say "chars"),
    "Tokens (".toList ++ (← say "method") ++ "): ".toList ++ (← say "tokens")]
  match fields.field? "traditional_tokens" with
  | none => return lines cost
  | some tokens =>
    return lines <| cost ++ [
      "Traditional: ".toList ++ (← say "traditional_chars") ++ " chars, ".toList ++
        (← tokens.plain) ++ " tokens".toList,
      "Character reduction: ".toList ++ (← percentage (field "char_reduction")),
      "Token reduction: ".toList ++ (← percentage (field "token_reduction"))]

def runTokens (store : Store) (text : Text) (traditional : Option Text) (method : Text)
    (charactersPerToken : Float) : Run :=
  runRequest store (costRequest text traditional method charactersPerToken) costLines

/-- Prints a report. A picture of its token comparisons cannot be drawn if it has none. -/
def runReport (store : Store) (topic : Report.Topic) (picture : Option Text) : Run :=
  let run := conclude store ((Report.text SymbolChoice.defaultThreshold topic).map String.toList)
  if (picture.getD []).isEmpty || topic.comparesTokens then run
  else
    let message := ("Report '" ++ topic.spelling ++ "' has no token comparisons to plot").toList
    { run with ending := .finished 1 (lines [message]) }

/-- Compiles a file. Diagnostics are printed, or are errors if the source does not compile. -/
def runCompile (store : Store) (input : Text) (options : CompileOptions) : Run :=
  match SourceFile.compile options input store with
  | (.error cause, after) => conclude after (.error cause)
  | (.ok outcome, after) =>
    if outcome.success then
      let done := "Compiled ".toList ++ input ++ " -> ".toList ++ outcome.outputPath.getD []
      conclude after (.ok (lines (outcome.diagnostics ++ [done])))
    else
      let undone := "Compilation failed: ".toList ++ input
      { ending := .finished 1 (lines (outcome.diagnostics ++ [undone])), store := after }

def runCommand (store : Store) (input : Text) : Command → Run
  | .compile path options => runCompile store path options
  | .encodeNumber value format => runEncode store value format
  | .decodeNumber literal format => runDecode store literal format
  | .expand text mode => runRewrite store "expand" (textOrInput input text) mode
  | .compress text mode => runRewrite store "compress" (textOrInput input text) mode
  | .tokens text traditional method charactersPerToken =>
    runTokens store (textOrInput input text) traditional method charactersPerToken
  | .report topic picture => runReport store topic picture

/-! ## Stops -/

def versionLine : Text :=
  lines ["GaiaScript 1.0.0".toList]

def usage : Text :=
  lines ["Commands: ".toList ++ Text.join ", " (commands.map (·.1.toList))]

def stop (store : Store) : Stop → Run
  | .misuse => { ending := .stopped 2, store }
  | .helpWanted => { ending := .stopped 0, printed := usage, store }
  | .versionWanted => { ending := .stopped 0, printed := versionLine, store }
  | .noCommand => { ending := .finished 1 [], printed := usage, store }

def run (arguments : List Text) (input : Text) (store : Store) : Run :=
  match readCommand arguments with
  | .ok command => runCommand store input command
  | .error reason => stop store reason

end SymbolScript.CommandLine
