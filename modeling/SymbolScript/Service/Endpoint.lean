import SymbolScript.Service.Operation
import SymbolScript.Service.Page

/-!
Endpoints of the web service. An endpoint declares the fields that it takes and their types. What
receives requests, checks their fields and sends answers is a framework from outside.
-/

namespace SymbolScript.Service

/-! ## Declared fields -/

inductive FieldType
  | text
  | optionalText
  | truth
  | number
  | double

@[reducible] def FieldType.Denote : FieldType → Type
  | text => Text
  | optionalText => Option Text
  | truth => Bool
  | number => Number
  | double => Float

/-- A field with a default may be left out of a request. -/
structure Field where
  name : String
  type : FieldType
  default? : Option type.Denote := none

/-- Values for declared fields, in order. -/
@[reducible] def Arguments : List Field → Type
  | [] => Unit
  | field :: rest => field.type.Denote × Arguments rest

/-! ## Endpoints -/

/-- What an endpoint does when it is called. -/
inductive Call
  | showPage
  | compile (source target : Text) (debug : Bool)
  | carryOut (operation : Operation)
  | listExamples

/-- Fields are sent as query parameters or in a body. -/
inductive Method
  | get
  | post

def Method.spelling : Method → String
  | get => "GET"
  | post => "POST"

structure Endpoint where
  method : Method
  path : String
  fields : List Field
  call : Arguments fields → Call

namespace Endpoint

def page : Endpoint where
  method := .get
  path := "/"
  fields := []
  call := fun () => .showPage

def compiling : Endpoint where
  method := .post
  path := "/api/compile"
  fields := [⟨"source", .text, none⟩, ⟨"target", .text, some "javascript".toList⟩,
    ⟨"debug", .truth, some false⟩]
  call := fun (source, target, debug, ()) => .compile source target debug

def rewriting (path : String) (operation : Text → Text → Operation) : Endpoint where
  method := .post
  path := path
  fields := [⟨"text", .text, none⟩, ⟨"mode", .text, some "keywords".toList⟩]
  call := fun (text, mode, ()) => .carryOut (operation text mode)

def encodingNumber : Endpoint where
  method := .post
  path := "/api/number/encode"
  fields := [⟨"value", .number, none⟩, ⟨"format", .text, some "vector".toList⟩]
  call := fun (value, format, ()) => .carryOut (.encodeNumber value format)

def decodingNumber : Endpoint where
  method := .post
  path := "/api/number/decode"
  fields := [⟨"literal", .text, none⟩, ⟨"format", .optionalText, some none⟩]
  call := fun (literal, format, ()) => .carryOut (.decodeNumber literal format)

def estimatingCost : Endpoint where
  method := .post
  path := "/api/token-cost"
  fields := [⟨"source", .text, none⟩, ⟨"traditional", .optionalText, some none⟩,
    ⟨"method", .text, some "bpe".toList⟩, ⟨"chars_per_token", .double, some 4⟩]
  call := fun (source, traditional, method, charactersPerToken, ()) =>
    .carryOut (.tokenCost source traditional method charactersPerToken)

def listingSymbols : Endpoint where
  method := .get
  path := "/api/symbols"
  fields := [⟨"category", .optionalText, some none⟩]
  call := fun (category, ()) => .carryOut (.listSymbols category)

def listingExamples : Endpoint where
  method := .get
  path := "/api/examples"
  fields := []
  call := fun () => .listExamples

end Endpoint

def endpoints : List Endpoint :=
  open Endpoint in
  [page, compiling, rewriting "/api/expand" .expand, rewriting "/api/compress" .compress,
    encodingNumber, decodingNumber, estimatingCost, listingSymbols, listingExamples]

/-! ## Calls -/

def compileAs (source target : Text) (debug : Bool) : Answer :=
  match Target.ofText? target with
  | none => .refused [textEntry "error" ("Unknown target: ".toList ++ Text.quoted target)]
  | some target => .ok (Action.outcomeFields target (SymbolScript.compile { target, debug } source))

def exampleList : Value :=
  .list (examples.map fun (name, source) =>
    .object [Action.entry "name" (Action.textOf name),
      Action.entry "source" (Action.textOf source)])

def Call.answerWith (tokenizer? : Option Action.Tokenizer) : Call → Answer
  | showPage => ⟨200, .page indexPage⟩
  | compile source target debug => compileAs source target debug
  | carryOut operation => carryOutWith tokenizer? operation
  | listExamples => .ok [Action.entry "examples" exampleList]

/-! ## Frameworks -/

structure Request where
  method : Text
  path : Text
  body : Option Value := none
  query : Dictionary Text Text := []

/-- What a request comes to: a call of an endpoint with the fields that it declares, or an answer
for which no endpoint is called. -/
inductive Reception
  | called (endpoint : Endpoint) (arguments : Arguments endpoint.fields)
  | answered (answer : Answer)

/-- A framework for services. Its failures get a status of their own. -/
structure Framework where
  receive : List Endpoint → Request → Except Failure Reception
  send : Answer → Except Failure Answer
  failureStatus : Nat

def Framework.respondWith (framework : Framework) (tokenizer? : Option Action.Tokenizer)
    (request : Request) : Except Failure Answer := do
  match ← framework.receive endpoints request with
  | .called endpoint arguments =>
    framework.send ((endpoint.call arguments).answerWith tokenizer?)
  | .answered answer => framework.send answer

end SymbolScript.Service
