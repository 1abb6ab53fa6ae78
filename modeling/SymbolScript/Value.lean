import SymbolScript.Dictionary
import SymbolScript.Number

/-! Values of requests and answers, with their types, their truth and their texts. -/

namespace SymbolScript

/-- A value as a request carries it. Objects keep the order of their entries. -/
inductive Value
  | null
  | bool (value : Bool)
  | number (value : Number)
  | text (value : Text)
  | list (items : List Value)
  | object (entries : List (Text × Value))

namespace Value

/-! ## Types and truth -/

def typeName : Value → String
  | null => "NoneType"
  | bool _ => "bool"
  | number (.whole _) => "int"
  | number (.real _) => "float"
  | text _ => "str"
  | list _ => "list"
  | object _ => "dict"

/-- Zeros and empty values count as false. -/
def isTrue : Value → Bool
  | null => false
  | bool value => value
  | number value => !value.isZero
  | text value => !value.isEmpty
  | list items => !items.isEmpty
  | object entries => !entries.isEmpty

def isHashable : Value → Bool
  | list _ | object _ => false
  | _ => true

def isText (value : Value) (spelling : String) : Bool :=
  match value with
  | text value => value == spelling.toList
  | _ => false

/-! ## Texts -/

mutual

/-- The text of a value inside a message, where texts are quoted. -/
def shown : Value → Except Failure Text
  | null => .ok "None".toList
  | bool value => .ok (if value then "True".toList else "False".toList)
  | number value => value.shown
  | text value => .ok (Text.quoted value)
  | list items => do return '[' :: Text.join ", " (← shownItems items) ++ [']']
  | object entries => do return '{' :: Text.join ", " (← shownEntries entries) ++ ['}']

def shownItems : List Value → Except Failure (List Text)
  | [] => .ok []
  | item :: rest => do return (← shown item) :: (← shownItems rest)

def shownEntries : List (Text × Value) → Except Failure (List Text)
  | [] => .ok []
  | (key, value) :: rest => do
    return (Text.quoted key ++ ": ".toList ++ (← shown value)) :: (← shownEntries rest)

end

def plain : Value → Except Failure Text
  | text value => .ok value
  | value => value.shown

/-! ## Numbers -/

def length : Value → Except Failure Nat
  | text value => .ok value.length
  | list items => .ok items.length
  | object entries => .ok entries.length
  | value => .error (.type (.noLength value.typeName))

def toFloat : Value → Except Failure Float
  | bool value => .ok (if value then 1 else 0)
  | number value => value.toFloat
  | text value => Decimal.readFloat value
  | value => .error (.type (.notAReal value.typeName))

mutual

def numbers : Value → List Number
  | number value => [value]
  | list items => itemNumbers items
  | object entries => entryNumbers entries
  | _ => []

def itemNumbers : List Value → List Number
  | [] => []
  | item :: rest => numbers item ++ itemNumbers rest

def entryNumbers : List (Text × Value) → List Number
  | [] => []
  | (_, value) :: rest => numbers value ++ entryNumbers rest

end

def isFinite (value : Value) : Bool :=
  value.numbers.all Number.isFinite

end Value

end SymbolScript
