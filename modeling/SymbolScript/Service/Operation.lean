import SymbolScript.Action.Dispatch

/-!
Operations of the web service. An action carries an operation out, and what the action responds
becomes the answer.
-/

namespace SymbolScript.Service

/-- What a request may ask for, with everything that has to be known to carry it out. -/
inductive Operation
  | expand (text mode : Text)
  | compress (text mode : Text)
  | encodeNumber (value : Number) (format : Text)
  | decodeNumber (literal : Text) (format : Option Text)
  | tokenCost (source : Text) (traditional : Option Text) (method : Text)
      (charactersPerToken : Float)
  | listSymbols (category : Option Text)

def textEntry (name : String) (text : Text) : Text × Value :=
  Action.entry name (.text text)

def optionalEntry (name : String) (text : Option Text) : Dictionary Text Value :=
  (text.map (textEntry name)).toList

namespace Operation

def action : Operation → String
  | expand _ _ => "expand"
  | compress _ _ => "compress"
  | encodeNumber _ _ => "encode_number"
  | decodeNumber _ _ => "decode_number"
  | tokenCost _ _ _ _ => "token_cost"
  | listSymbols _ => "list_symbols"

def fields : Operation → Dictionary Text Value
  | expand text mode | compress text mode => [textEntry "text" text, textEntry "mode" mode]
  | encodeNumber value format => [Action.entry "value" (.number value), textEntry "format" format]
  | decodeNumber literal format => textEntry "literal" literal :: optionalEntry "format" format
  | tokenCost source traditional method charactersPerToken => [
      textEntry "source" source,
      textEntry "method" method,
      Action.entry "chars_per_token" (.number (.real charactersPerToken))] ++
      optionalEntry "traditional" traditional
  | listSymbols category => optionalEntry "category" category

def request (operation : Operation) : Action.Request :=
  Action.entry "action" (Action.textOf operation.action) :: operation.fields

end Operation

/-! ## Answers -/

/-- What an answer says. Of a request that is refused, it names the values that were at fault. -/
inductive Content
  | json (value : Value)
  | page (html : Text)
  | refusals (values : List Value)

def Content.values : Content → List Value
  | json value => [value]
  | page _ => []
  | refusals values => values

structure Answer where
  status : Nat
  content : Content

namespace Answer

def ok (fields : Dictionary Text Value) : Answer :=
  ⟨200, .json (.object fields)⟩

def refused (fields : Dictionary Text Value) : Answer :=
  ⟨400, .json (.object fields)⟩

/-- The answer with the fields of a response. If they name an error, it is a refusal. -/
def ofFields (fields : Dictionary Text Value) : Answer :=
  if (Dictionary.get? fields "error".toList).isSome then refused fields else ok fields

end Answer

def carryOutWith (tokenizer? : Option Action.Tokenizer) (operation : Operation) : Answer :=
  .ofFields (Action.dispatchWith tokenizer? operation.request).entries

end SymbolScript.Service
