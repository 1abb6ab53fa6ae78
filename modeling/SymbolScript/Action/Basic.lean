import SymbolScript.Value

/-!
Actions answer requests. A request has named fields; an answer has named fields as well, unless the
request is refused because of what its fields hold.
-/

namespace SymbolScript.Action

abbrev Request := Dictionary Text Value

namespace Request

def field? (request : Request) (name : String) : Option Value :=
  Dictionary.get? request name.toList

/-- A field that is there and not null. -/
def given? (request : Request) (name : String) : Option Value :=
  match request.field? name with
  | some .null => none
  | field => field

/-- A field, which may be null, or a value that stands in if it is not there. -/
def fieldOr (request : Request) (name : String) (value : Value) : Value :=
  (request.field? name).getD value

end Request

inductive Reply
  | fields (entries : Dictionary Text Value)
  | refusal (message : Text)

abbrev Handler := Request → Except Failure Reply

def missing (name : String) : Reply :=
  .refusal ("Missing '" ++ name ++ "' field").toList

def unknown (what : String) (value : Value) : Except Failure Reply := do
  return .refusal (("Unknown " ++ what ++ ": ").toList ++ (← value.shown))

def entry (name : String) (value : Value) : Text × Value :=
  (name.toList, value)

def textOf (text : String) : Value :=
  .text text.toList

def wholeOf (number : Int) : Value :=
  .number (.whole number)

end SymbolScript.Action
