import SymbolScript.Proofs.Action.TokenCost
import SymbolScript.Proofs.CommandLine.Ending
import SymbolScript.Proofs.Service.Sending

/-!
The status that is due to an answer, and the one that is sent. They are the same if the answer is
settled: it can be sent, it is a refusal, or it is a failure of the notation.
-/

namespace SymbolScript.Service

open SymbolScript.Action

/-! ## Statuses -/

/-- The status that is due to a response: failures of the notation are errors of the request, and
all others are errors of the service. -/
def dueStatus : Response → Nat
  | .success _ => 200
  | .refusal _ => 400
  | .failure cause => if cause.isOwn then 400 else 500

/-- The status that reaches the sender of a request in a framework. -/
def Framework.sentStatus (framework : Framework) : Except Failure Answer → Nat
  | .ok answer => answer.status
  | .error _ => framework.failureStatus

namespace Operation

/-- What makes an operation fail in another way than the notation does: word codes, integral parts
of vector numbers and integers to encode beyond the digit limit, a quotient that is no finite
number, and a text that the vocabulary does not split. -/
inductive Breaks (tokenizer? : Option Tokenizer) : Operation → Prop
  | longCode {text subscripts : Text} (found : subscripts ∈ WordCode.codes.all text)
      (long : Decimal.digitLimit < subscripts.length) :
      Breaks tokenizer? (expand text "words".toList)
  | longFraction {literal : Text} {name? : Option Text}
      (chosen : CommandLine.Command.literalFormat? literal name? = some .vector)
      (failed : VectorNumber.decode literal = .error (.value .tooManyDigitsToWrite)) :
      Breaks tokenizer? (decodeNumber literal name?)
  | longVector {number : Int} (long : Decimal.isWritable number = false) :
      Breaks tokenizer? (encodeNumber (.whole number) "vector".toList)
  | longNegative {number : Int} (negative : number < 0)
      (long : Decimal.isWritable number = false) :
      Breaks tokenizer? (encodeNumber (.whole number) "base64".toList)
  | endlessQuotient {source text : Text} {traditional : Option Text} {ratio : Float}
      (positive : ¬ratio ≤ 0) (counted : text ∈ source :: traditional.toList)
      (endless : (Number.real (Decimal.nearest false text.length 1 / ratio)).isFinite = false) :
      Breaks tokenizer? (tokenCost source traditional "ratio".toList ratio)
  | unsplit {tokenizer : Tokenizer} {source : Text} {traditional : Option Text} {ratio : Float}
      {cause : Failure} (chosen : tokenizer? = some tokenizer)
      (failed : (source :: traditional.toList).mapM (fun text => tokenizer (.text text)) =
        .error cause)
      (foreign : cause.isOwn = false) :
      Breaks tokenizer? (tokenCost source traditional "bpe".toList ratio)

/-- What an operation succeeds with and no answer can hold: an infinite double that was written, and
an integer beyond the digit limit that was read or written. -/
inductive Overfills : Operation → Prop
  | infinity {x : Float} (infinite : x.isInf = true) :
      Overfills (encodeNumber (.real x) "vector".toList)
  | longNatural {number : Int} (natural : 0 ≤ number) (long : Decimal.isWritable number = false) :
      Overfills (encodeNumber (.whole number) "base64".toList)
  | longInteger {literal : Text} {name? : Option Text} {format : NumberFormat} {number : Int}
      (chosen : CommandLine.Command.literalFormat? literal name? = some format)
      (decoded : decodeIn format literal = .ok (.whole number))
      (long : Decimal.isWritable number = false) :
      Overfills (decodeNumber literal name?)

def handlerWith (tokenizer? : Option Tokenizer) : Operation → Handler
  | expand _ _ => Action.expand
  | compress _ _ => Action.compress
  | encodeNumber _ _ => Action.encodeNumber
  | decodeNumber _ _ => Action.decodeNumber
  | tokenCost _ _ _ _ => tokenCostWith tokenizer?
  | listSymbols _ => Action.listSymbols

theorem answerWith_request (tokenizer? : Option Tokenizer) (operation : Operation) :
    answerWith tokenizer? operation.request =
      operation.handlerWith tokenizer? operation.request := by
  have named : operation.request.fieldOr "action" .null = textOf operation.action := rfl
  have filled : (textOf operation.action).isTrue = true := by
    cases operation <;> rw [action] <;> rfl
  have known : (handlersWith tokenizer?).find?
      (fun handler => (textOf operation.action).isText handler.1) =
        some (operation.action, operation.handlerWith tokenizer?) := by
    cases operation <;> simp [action, handlerWith, handlersWith, textOf, Value.isText]
  rw [answerWith, named]
  simp [filled, known]

end Operation

/-! ## Successes -/

section Successes

abbrev NamesNoError : Except Failure Reply → Prop :=
  AnswersWith fun entries => Dictionary.get? entries "error".toList = none

theorem namesNoError_costBy {count : Value → Except Failure Int} {request : Action.Request}
    {method source : Value} : NamesNoError (costBy count request method source) :=
  answersWith_costBy (fun _ _ _ => rfl) (fun _ _ _ _ _ _ _ _ _ _ _ _ => rfl)

theorem namesNoError_answerWith (tokenizer? : Option Tokenizer) (request : Action.Request) :
    NamesNoError (answerWith tokenizer? request) := by
  unfold answerWith
  dsimp only
  split
  · exact .refusal _
  · split
    · next name handler found =>
      have member := List.mem_of_find?_eq_some found
      simp only [handlersWith, List.mem_cons, Prod.mk.injEq, List.not_mem_nil, or_false] at member
      rcases member with ⟨-, rfl⟩ | ⟨-, rfl⟩ | ⟨-, rfl⟩ | ⟨-, rfl⟩ | ⟨-, rfl⟩ | ⟨-, rfl⟩ | ⟨-, rfl⟩
      · exact answersWith_compile fun _ _ => rfl
      · exact answersWith_rewriteWith fun _ _ => rfl
      · exact answersWith_rewriteWith fun _ _ => rfl
      · exact answersWith_encodeNumber fun _ _ _ => rfl
      · exact answersWith_decodeNumber fun _ _ _ _ _ => rfl
      · exact answersWith_tokenCostWith (fun _ _ _ _ => namesNoError_costBy)
          (fun _ _ => answersWith_costByRatio fun _ => namesNoError_costBy)
      · exact answersWith_listSymbols (fun _ => rfl) (fun _ _ => rfl)
    · exact .unknown _ _

end Successes

/-! ## Settled answers -/

/-- Whether a handler's answer gets the status that is due: it can be sent, or it is a refusal or a
failure of the notation. -/
def IsSettled : Except Failure Reply → Prop
  | .ok (.fields entries) => ∀ entry ∈ entries, entry.2.IsSendable
  | .ok (.refusal _) => True
  | .error cause => cause.isOwn = true

section Carrying

variable {tokenizer? : Option Tokenizer} {operation : Operation} {framework : Framework}

theorem carryOutWith_of_fields {entries : Dictionary Text Value}
    (answered : answerWith tokenizer? operation.request = .ok (.fields entries)) :
    carryOutWith tokenizer? operation = .ok entries := by
  have unnamed := namesNoError_answerWith tokenizer? operation.request entries answered
  rw [carryOutWith, dispatchWith, answered, Response.entries, Answer.ofFields, unnamed]
  rfl

theorem isSendable_error (message : Text) :
    (Value.object [entry "error" (.text message)]).IsSendable := by
  rw [Value.isSendable_object_iff, List.forall_mem_singleton]
  exact Value.isSendable_text message

variable (sends : framework.SendsJson)
include sends

theorem sentStatus_error (message : Text) :
    framework.sentStatus (framework.send (.ofFields [entry "error" (.text message)])) = 400 := by
  have refused : Answer.ofFields [entry "error" (.text message)] =
      ⟨400, .json (.object [entry "error" (.text message)])⟩ := rfl
  rw [refused, sends.sent 400 (isSendable_error message)]
  rfl

theorem sentStatus_of_isSettled
    (settled : IsSettled (answerWith tokenizer? operation.request)) :
    framework.sentStatus (framework.send (carryOutWith tokenizer? operation)) =
      dueStatus (dispatchWith tokenizer? operation.request) := by
  cases answered : answerWith tokenizer? operation.request with
  | error cause =>
      rw [answered] at settled
      rw [carryOutWith, dispatchWith, answered, Response.entries, sentStatus_error sends]
      exact (if_pos settled).symm
  | ok reply =>
      rw [answered] at settled
      cases reply with
      | refusal message =>
          rw [carryOutWith, dispatchWith, answered, Response.entries, sentStatus_error sends]
          rfl
      | fields entries =>
          have sendable := (Value.isSendable_object_iff entries).mpr settled
          rw [carryOutWith_of_fields answered, dispatchWith, answered, Answer.ok,
            sends.sent 200 sendable]
          rfl

theorem sentStatus_of_error {cause : Failure}
    (failed : answerWith tokenizer? operation.request = .error cause)
    (unsettled : ¬IsSettled (answerWith tokenizer? operation.request)) :
    framework.sentStatus (framework.send (carryOutWith tokenizer? operation)) = 400 ∧
      dueStatus (dispatchWith tokenizer? operation.request) = 500 := by
  rw [failed] at unsettled
  rw [carryOutWith, dispatchWith, failed]
  exact ⟨sentStatus_error sends _, if_neg unsettled⟩

theorem sentStatus_of_fields {entries : Dictionary Text Value}
    (answered : answerWith tokenizer? operation.request = .ok (.fields entries))
    (unsettled : ¬IsSettled (answerWith tokenizer? operation.request)) :
    framework.sentStatus (framework.send (carryOutWith tokenizer? operation)) = 500 ∧
      dueStatus (dispatchWith tokenizer? operation.request) = 200 := by
  rw [answered] at unsettled
  have unsendable := mt (Value.isSendable_object_iff entries).mp unsettled
  rcases sends.unsent 200 unsendable with ⟨cause, failed⟩
  rw [carryOutWith_of_fields answered, dispatchWith, answered, Answer.ok, failed]
  exact ⟨sends.failureStatus, rfl⟩

end Carrying

end SymbolScript.Service
