import SymbolScript.Action.Compilation
import SymbolScript.Action.NumberCode
import SymbolScript.Action.Rewriting
import SymbolScript.Action.SymbolList
import SymbolScript.Action.TokenCost

/-! Requests are dispatched by the action that they name. -/

namespace SymbolScript.Action

/-- How a request ends: with an answer, refused because of its fields, or with a failure of the
action. -/
inductive Response
  | success (entries : Dictionary Text Value)
  | refusal (message : Text)
  | failure (cause : Failure)

namespace Response

/-- A failure as an answer reports it. Failures of the notation are reported by their message, all
others with their title in front. -/
def report (cause : Failure) : Text :=
  if cause.isOwn then cause.message else cause.title.toList ++ ": ".toList ++ cause.message

def entries : Response → Dictionary Text Value
  | success entries => entries
  | refusal message => [entry "error" (.text message)]
  | failure cause => [entry "error" (.text (report cause))]

def isSuccess : Response → Bool
  | success _ => true
  | _ => false

end Response

def handlersWith (tokenizer? : Option Tokenizer) : List (String × Handler) := [
  ("compile", compile),
  ("expand", expand),
  ("compress", compress),
  ("encode_number", encodeNumber),
  ("decode_number", decodeNumber),
  ("token_cost", tokenCostWith tokenizer?),
  ("list_symbols", listSymbols)]

def answerWith (tokenizer? : Option Tokenizer) (request : Request) : Except Failure Reply :=
  let action := request.fieldOr "action" .null
  if !action.isTrue then .ok (missing "action")
  else match (handlersWith tokenizer?).find? fun handler => action.isText handler.1 with
    | some (_, handler) => handler request
    | none => unknown "action" action

def dispatchWith (tokenizer? : Option Tokenizer) (request : Request) : Response :=
  match answerWith tokenizer? request with
  | .ok (.fields entries) => .success entries
  | .ok (.refusal message) => .refusal message
  | .error cause => .failure cause

/-- The response where there is no vocabulary to count tokens by. -/
def dispatch (request : Request) : Response :=
  dispatchWith none request

end SymbolScript.Action
