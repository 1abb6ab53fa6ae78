import SymbolScript.Dictionary
import SymbolScript.Failure
import SymbolScript.Store.Path
import SymbolScript.Text.Utf8

/-!
A store of files in directories. The locations above a file are directories, and so are the working
directory and what lies above it; other directories are listed. Some locations may be protected.
-/

namespace SymbolScript

/-! ## Locations -/

/-- Where names are counted from: the root, or a number of directories above the working
directory. -/
inductive Anchor
  | root
  | working (above : Nat)
deriving DecidableEq, Repr

/-- A place in a store: the names of the directories to go down, and the name of the file. -/
structure Location where
  anchor : Anchor := .working 0
  names : List Text
deriving DecidableEq, Repr

namespace Location

def up (location : Location) : Location :=
  match location.names, location.anchor with
  | [], .root => location
  | [], .working above => ⟨.working (above + 1), []⟩
  | names, anchor => ⟨anchor, names.dropLast⟩

def down (name : Text) (location : Location) : Location :=
  { location with names := location.names ++ [name] }

end Location

/-! ## Stores -/

structure Store where
  contents : Dictionary Location Bytes := []
  directories : List Location := []
  /-- The files that may not be read and the directories that may not be entered. -/
  closed : List Location := []
  /-- The locations at which no file may be written, whether there is one or not. -/
  readOnly : List Location := []

namespace Store

/-- What a store holds at a location. -/
inductive Entry
  | file (content : Bytes)
  | directory
  | nothing
deriving DecidableEq, Repr

def isDirectory (store : Store) (location : Location) : Bool :=
  location.names.isEmpty || store.directories.contains location ||
    store.contents.any fun (file, _) =>
      file.anchor == location.anchor && file.names != location.names &&
        location.names.isPrefixOf file.names

def entry (store : Store) (location : Location) : Entry :=
  match Dictionary.get? store.contents location with
  | some content => .file content
  | none => if isDirectory store location then .directory else .nothing

/-! ## Following paths -/

def nameLimit : Nat := 255

def pathLimit : Nat := 4096

/-- Follows parts from a directory. All parts but the last have to lead to directories that may be
entered, and a name cannot be too long. -/
def follow (store : Store) (path : Path) (location : Location) :
    List Text → Except StoreFault Location
  | [] => .ok location
  | part :: rest =>
    match store.entry location with
    | .file _ => .error (.notDirectory path.toText)
    | .nothing => .error (.missing path.toText)
    | .directory =>
      if store.closed.contains location then .error (.denied path.toText)
      else if part = ['.', '.'] then follow store path location.up rest
      else if nameLimit < (Text.Utf8.encode part).length then .error (.nameTooLong path.toText)
      else follow store path (location.down part) rest

def locate (store : Store) (path : Path) : Except StoreFault Location :=
  if pathLimit ≤ (Text.Utf8.encode path.toText).length then .error (.nameTooLong path.toText)
  else follow store path ⟨if path.slashes = 0 then .working 0 else .root, []⟩ path.parts

/-! ## Reading and writing -/

def read (store : Store) (path : Path) : Except StoreFault Bytes := do
  let location ← store.locate path
  match store.entry location with
  | .file content =>
    if store.closed.contains location then throw (.denied path.toText) else return content
  | .directory => throw (.isDirectory path.toText)
  | .nothing => throw (.missing path.toText)

def write (store : Store) (path : Path) (content : Bytes) : Except StoreFault Store := do
  let location ← store.locate path
  match store.entry location with
  | .directory => throw (.isDirectory path.toText)
  | _ =>
    if store.readOnly.contains location then throw (.denied path.toText)
    else return { store with contents := Dictionary.set location content store.contents }

def files (store : Store) : List (Text × Bytes) :=
  let named := store.contents.filterMap fun (location, content) =>
    if location.anchor = .working 0 then some (Text.join "/" location.names, content) else none
  named.mergeSort fun left right => decide (left.1 ≤ right.1)

def ofFiles (files : List (Text × Bytes)) : Store where
  contents := Dictionary.ofPairs (files.map fun (path, content) =>
    (⟨.working 0, (Path.ofText path).parts⟩, content))

end Store

end SymbolScript
