import SymbolScript.CommandLine.Run

/-!
The program. It loads the files that its command names, runs the command, and saves the files that
the run has changed.
-/

open SymbolScript

def pathsOf : CommandLine.Command → List Path
  | .compile input options =>
    let source := Path.ofText input
    [source, SourceFile.outputPath options source]
  | _ => []

def locationOf (path : Path) : Location :=
  ⟨if path.slashes = 0 then .working 0 else .root, path.parts⟩

def loadDirectory (store : Store) (path : Path) : IO Store := do
  try
    if ← (← IO.FS.realPath (String.ofList path.toText)).isDir then
      return { store with directories := locationOf path :: store.directories }
    else return store
  catch _ => return store

/-- Adds the file at a path to a store, if there is one, and the directories above it. A file that
may not be read is closed. -/
def load (store : Store) (path : Path) : IO Store := do
  let above := (List.range (path.parts.length + 1)).map fun count =>
    { path with parts := path.parts.take count }
  let store ← above.foldlM loadDirectory store
  try
    let content ← IO.FS.readBinFile (String.ofList path.toText)
    let contents := Dictionary.set (locationOf path) content.data.toList store.contents
    return { store with contents }
  catch
    | .permissionDenied .. =>
      let contents := Dictionary.set (locationOf path) [] store.contents
      return { store with contents, closed := locationOf path :: store.closed }
    | _ => return store

def save (before after : Store) : IO Unit := do
  for (location, content) in after.contents do
    if Dictionary.get? before.contents location ≠ some content then
      let path : Path := ⟨if location.anchor = .root then 1 else 0, location.names⟩
      IO.FS.writeBinFile (String.ofList path.toText) ⟨content.toArray⟩

def main (arguments : List String) : IO UInt32 := do
  let texts := arguments.map String.toList
  let paths := ((CommandLine.readCommand texts).map pathsOf).toOption.getD []
  let store ← paths.foldlM load {}
  let input ← if arguments.contains "-" then (← IO.getStdin).readToEnd else pure ""
  let run := CommandLine.run texts input.toList store
  save store run.store
  IO.print (String.ofList run.printed)
  match run.ending with
  | .stopped code => return code.toUInt32
  | .finished code errors =>
    IO.eprint (String.ofList errors)
    return code.toUInt32
  | .failed cause =>
    IO.eprintln (String.ofList cause.message)
    return 1
