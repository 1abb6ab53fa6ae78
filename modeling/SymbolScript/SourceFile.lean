import SymbolScript.Pipeline
import SymbolScript.Store.Basic

/-!
Compilation of source files. The source is read from a store and, if it compiles, the output for
the chosen target is written to the store.
-/

namespace SymbolScript.SourceFile

/-- Makes every line break a line feed: a carriage return is one, and so is a carriage return with
a line feed. -/
def unifyBreaks : Text → Text
  | [] => []
  | '\r' :: '\n' :: rest => '\n' :: unifyBreaks rest
  | '\r' :: rest => '\n' :: unifyBreaks rest
  | c :: rest => c :: unifyBreaks rest

example : unifyBreaks "a\r\n\rb\n".toList = "a\n\nb\n".toList := by decide +kernel

/-- Paths with a null character name nothing. -/
def checkPath (path : Path) : Except Failure Unit :=
  if Text.holds path.toText '\x00' then .error (.value .embeddedNull) else .ok ()

def load (store : Store) (path : Path) : Except Failure Text := do
  checkPath path
  match store.read path with
  | .error cause => throw (.source (.cannotRead path.toText cause))
  | .ok content =>
    match Text.Utf8.decode? content with
    | none => throw .undecodable
    | some source => return unifyBreaks source

def save (store : Store) (path : Path) (text : Text) : Except Failure Store := do
  checkPath path
  match store.write path (Text.Utf8.encode text) with
  | .error cause => throw (.source (.cannotWrite path.toText cause))
  | .ok after => return after

/-- Where the output goes: the path of the options, unless it is empty, or the path of the source
with the extension of the target. -/
def outputPath (options : CompileOptions) (source : Path) : Path :=
  match options.outputPath with
  | none | some [] => source.withExtension options.target.extension
  | some path => Path.ofText path

/-- Compiles a file with the given passes. A source that does not compile gives an unsuccessful
outcome, and the store stays as it was; so it does after a failure. -/
def compileWith (passes : List Pass) (options : CompileOptions) (path : Text) (store : Store) :
    Except Failure Outcome × Store :=
  let sourcePath := Path.ofText path
  match load store sourcePath with
  | .error failure => (.error failure, store)
  | .ok source =>
    let outcome := SymbolScript.compileWith passes options source
    if outcome.success then
      let target := outputPath options sourcePath
      match save store target (outcome.outputFor options.target) with
      | .error failure => (.error failure, store)
      | .ok after => (.ok { outcome with outputPath := some target.toText }, after)
    else (.ok outcome, store)

def compile (options : CompileOptions) (path : Text) (store : Store) :
    Except Failure Outcome × Store :=
  compileWith Pass.standard options path store

end SymbolScript.SourceFile
