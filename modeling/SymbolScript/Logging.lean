import SymbolScript.LogLevel
import SymbolScript.Store.Basic

/-! Where log messages go: to the console and, if one is named, to a file. -/

namespace SymbolScript.Logging

def name : String := "gaia"

inductive Handler
  | console
  | file
deriving DecidableEq, Repr

def Handler.spelling : Handler → String
  | console => "StreamHandler"
  | file => "FileHandler"

structure Setup where
  level : Int
  handlers : List (Handler × Int)
deriving DecidableEq, Repr

/-- Sets logging up anew. A file that is named is emptied, and made if there is none; its path is
straightened first. -/
def setUp (level : Value) (file : Option Text) (store : Store) :
    Except Failure (Setup × Store) := do
  let level ← LogLevel.ofValue level
  match file with
  | none | some [] => return (⟨level, [(.console, level)]⟩, store)
  | some path =>
    match store.write (Path.ofText path).straighten [] with
    | .error cause => throw (.store cause)
    | .ok after => return (⟨level, [(.console, level), (.file, level)]⟩, after)

end SymbolScript.Logging
