import SymbolScript.Proofs.Service.Settled.Costs
import SymbolScript.Proofs.Service.Settled.Numbers
import SymbolScript.Proofs.Service.Settled.Texts
import SymbolScript.Service.Routes

/-!
The status of the answer to an operation. Success, a refused field and a failure of the notation get
the status that is due to them. Whatever else makes an operation break is due to be reported as an
error of the service and is reported as an error of the request; an answer that is overfilled cannot
be sent, so an error of the service is reported in place of a success.
-/

namespace SymbolScript.Service

open SymbolScript.Action

/-- Every operation can be asked for at an endpoint. -/
theorem Operation.exists_endpoint (operation : Operation) :
    ∃ endpoint ∈ endpoints, ∃ arguments : Arguments endpoint.fields,
      endpoint.call arguments = .carryOut operation := by
  cases operation with
  | expand text mode =>
      exact ⟨.rewriting "/api/expand" .expand, by simp [endpoints], (text, mode, ()), rfl⟩
  | compress text mode =>
      exact ⟨.rewriting "/api/compress" .compress, by simp [endpoints], (text, mode, ()), rfl⟩
  | encodeNumber value format =>
      exact ⟨.encodingNumber, by simp [endpoints], (value, format, ()), rfl⟩
  | decodeNumber literal format =>
      exact ⟨.decodingNumber, by simp [endpoints], (literal, format, ()), rfl⟩
  | tokenCost source traditional method ratio =>
      exact ⟨.estimatingCost, by simp [endpoints], (source, traditional, method, ratio, ()), rfl⟩
  | listSymbols category => exact ⟨.listingSymbols, by simp [endpoints], (category, ()), rfl⟩

section Statuses

variable {tokenizer? : Option Tokenizer} {operation : Operation}

theorem Operation.length_lt_of_isAddressable {source : Text} {traditional : Option Text}
    {method : Text} {ratio : Float}
    (addressable : (tokenCost source traditional method ratio).request.IsAddressable) :
    ∀ text ∈ source :: traditional.toList, text.length < 2 ^ 63 := by
  intro text member
  cases traditional with
  | none =>
      cases List.mem_singleton.mp member
      exact addressable "source" (.text source) _ rfl rfl
  | some other =>
      rcases List.mem_cons.mp member with rfl | member
      · exact addressable "source" (.text text) _ rfl rfl
      · cases List.mem_singleton.mp member
        exact addressable "traditional" (.text text) _ rfl rfl

theorem isSettled_iff (bytewise : ∀ tokenizer ∈ tokenizer?, tokenizer.IsBytewise)
    (addressable : operation.request.IsAddressable) :
    IsSettled (answerWith tokenizer? operation.request) ↔
      ¬operation.Breaks tokenizer? ∧ ¬operation.Overfills := by
  rw [Operation.answerWith_request]
  cases operation with
  | expand text mode =>
      exact (isSettled_expand_iff text mode).trans (and_iff_left nofun).symm
  | compress text mode => exact iff_of_true (isSettled_compress text mode) ⟨nofun, nofun⟩
  | encodeNumber value format => exact isSettled_encodeNumber_iff value format
  | decodeNumber literal format => exact isSettled_decodeNumber_iff literal format
  | tokenCost source traditional method ratio =>
      have short := Operation.length_lt_of_isAddressable addressable
      exact (isSettled_tokenCost_iff bytewise method short).trans (and_iff_left nofun).symm
  | listSymbols category => exact iff_of_true (isSettled_listSymbols category) ⟨nofun, nofun⟩

theorem Operation.Breaks.exists_error (breaks : operation.Breaks tokenizer?)
    (addressable : operation.request.IsAddressable) :
    ∃ cause, answerWith tokenizer? operation.request = .error cause := by
  rw [Operation.answerWith_request]
  cases breaks with
  | longCode found long => exact exists_expand_error found long
  | longFraction chosen failed => exact exists_decodeNumber_error chosen failed
  | longVector long => exact exists_encodeNumber_error .vector long nofun
  | longNegative negative long => exact exists_encodeNumber_error .base64 long fun _ => negative
  | endlessQuotient positive counted endless =>
      exact exists_ratio_error (Operation.length_lt_of_isAddressable addressable) positive counted
        endless
  | unsplit chosen failed foreign =>
      subst chosen
      exact ⟨_, tokenCostWith_vocabulary_eq_error failed⟩

variable {framework : Framework} {request : Request} {endpoint : Endpoint}
  {arguments : Arguments endpoint.fields}

theorem respondWith_of_called
    (received : framework.receive endpoints request = .ok (.called endpoint arguments))
    (asked : endpoint.call arguments = .carryOut operation) :
    framework.respondWith tokenizer? request =
      framework.send (carryOutWith tokenizer? operation) := by
  rw [Framework.respondWith, received]
  show framework.send ((endpoint.call arguments).answerWith tokenizer?) = _
  rw [asked, Call.answerWith]

/-- The status that reaches the sender of a request for an operation is the one that is due, with
two exceptions: an operation that breaks is reported as an error of the request, and an answer that
is overfilled is replaced by an error of the service. -/
theorem sentStatus_respondWith (sends : framework.SendsJson)
    (bytewise : ∀ tokenizer ∈ tokenizer?, tokenizer.IsBytewise)
    (received : framework.receive endpoints request = .ok (.called endpoint arguments))
    (asked : endpoint.call arguments = .carryOut operation)
    (addressable : operation.request.IsAddressable) :
    (¬operation.Breaks tokenizer? → ¬operation.Overfills →
      framework.sentStatus (framework.respondWith tokenizer? request) =
        dueStatus (dispatchWith tokenizer? operation.request)) ∧
    (operation.Breaks tokenizer? →
      framework.sentStatus (framework.respondWith tokenizer? request) = 400 ∧
        dueStatus (dispatchWith tokenizer? operation.request) = 500) ∧
    (operation.Overfills →
      framework.sentStatus (framework.respondWith tokenizer? request) = 500 ∧
        dueStatus (dispatchWith tokenizer? operation.request) = 200) := by
  have settled_iff := isSettled_iff bytewise addressable
  rw [respondWith_of_called received asked]
  refine ⟨fun unbroken unfilled => ?_, fun breaks => ?_, fun overfills => ?_⟩
  · exact sentStatus_of_isSettled sends (settled_iff.mpr ⟨unbroken, unfilled⟩)
  · have unsettled := fun settled => (settled_iff.mp settled).1 breaks
    rcases breaks.exists_error addressable with ⟨cause, failed⟩
    exact sentStatus_of_error sends failed unsettled
  · have unsettled := fun settled => (settled_iff.mp settled).2 overfills
    rcases overfills.exists_fields with ⟨entries, answered⟩
    exact sentStatus_of_fields sends answered unsettled

end Statuses

/-- An infinite double is written, but the answer that repeats it is not sent. -/
example : dueStatus (dispatch (Operation.encodeNumber (.real Decimal.infinity)
      "vector".toList).request) = 200 ∧
    standalone.sentStatus (standalone.send (carryOutWith none
      (.encodeNumber (.real Decimal.infinity) "vector".toList))) = 500 := by
  decide

def costRequest (method : String) (ratio : Float) : Request where
  method := "POST".toList
  path := "/api/token-cost".toList
  body := some (.object [entry "source" (textOf "x"), entry "method" (textOf method),
    entry "chars_per_token" (.number (.real ratio))])

def costArguments (method : String) (ratio : Float) : Arguments Endpoint.estimatingCost.fields :=
  (['x'], none, method.toList, ratio, ())

def costOperation (method : String) (ratio : Float) : Operation :=
  .tokenCost ['x'] none method.toList ratio

theorem receive_costRequest (method : String) (ratio : Float) :
    standalone.receive endpoints (costRequest method ratio) =
      .ok (.called .estimatingCost (costArguments method ratio)) :=
  rfl

theorem isAddressable_costOperation (method : String) (ratio : Float)
    (short : method.toList.length < 2 ^ 63) :
    (costOperation method ratio).request.IsAddressable := by
  refine Action.Request.isAddressable_of_forall ?_
  intro field member length found
  simp only [costOperation, Operation.request, Operation.fields, optionalEntry, Option.map_none,
    Option.toList_none, List.append_nil, List.mem_cons, List.not_mem_nil, or_false] at member
  rcases member with rfl | rfl | rfl | rfl <;> cases found
  · rw [Operation.action]
    decide
  · decide
  · exact short

/-- Far too many tokens are reported as an error of the request. -/
theorem sentStatus_costRequest_endless :
    standalone.SendsJson ∧
      standalone.receive endpoints (costRequest "ratio" (Float.ofBits 1)) =
        .ok (.called .estimatingCost (costArguments "ratio" (Float.ofBits 1))) ∧
      Endpoint.estimatingCost.call (costArguments "ratio" (Float.ofBits 1)) =
        .carryOut (costOperation "ratio" (Float.ofBits 1)) ∧
      dueStatus (dispatch (costOperation "ratio" (Float.ofBits 1)).request) = 500 ∧
      standalone.sentStatus (respond (costRequest "ratio" (Float.ofBits 1))) = 400 := by
  refine ⟨sendsJson_standalone, receive_costRequest _ _, rfl, ?_, ?_⟩ <;> decide

theorem sentStatus_respondWith_characterTokens :
    standalone.SendsJson ∧
      (∀ tokenizer ∈ some characterTokens, tokenizer.IsBytewise) ∧
      (standalone.receive endpoints (costRequest "bpe" 4) =
          .ok (.called .estimatingCost (costArguments "bpe" 4)) ∧
        Endpoint.estimatingCost.call (costArguments "bpe" 4) =
          .carryOut (costOperation "bpe" 4) ∧
        (costOperation "bpe" 4).request.IsAddressable ∧
        ¬(costOperation "bpe" 4).Breaks (some characterTokens) ∧
        ¬(costOperation "bpe" 4).Overfills ∧
        standalone.sentStatus (standalone.respondWith (some characterTokens)
            (costRequest "bpe" 4)) =
          dueStatus (dispatchWith (some characterTokens) (costOperation "bpe" 4).request)) ∧
      standalone.receive endpoints (costRequest "ratio" (Float.ofBits 1)) =
          .ok (.called .estimatingCost (costArguments "ratio" (Float.ofBits 1))) ∧
        Endpoint.estimatingCost.call (costArguments "ratio" (Float.ofBits 1)) =
          .carryOut (costOperation "ratio" (Float.ofBits 1)) ∧
        (costOperation "ratio" (Float.ofBits 1)).request.IsAddressable ∧
        (costOperation "ratio" (Float.ofBits 1)).Breaks (some characterTokens) ∧
        standalone.sentStatus (standalone.respondWith (some characterTokens)
            (costRequest "ratio" (Float.ofBits 1))) = 400 ∧
        dueStatus (dispatchWith (some characterTokens)
          (costOperation "ratio" (Float.ofBits 1)).request) = 500 := by
  have bytewise : ∀ tokenizer ∈ some characterTokens, tokenizer.IsBytewise := by
    rintro tokenizer ⟨⟩
    exact isBytewise_characterTokens
  have countedReceived := receive_costRequest "bpe" 4
  have countedShort := isAddressable_costOperation "bpe" 4 (by decide)
  have unbroken : ¬(costOperation "bpe" 4).Breaks (some characterTokens) := by
    intro breaks
    cases breaks with
    | unsplit chosen failed =>
        cases chosen
        cases failed
  have unfilled : ¬(costOperation "bpe" 4).Overfills := nofun
  have counted := (sentStatus_respondWith sendsJson_standalone bytewise countedReceived rfl
    countedShort).1 unbroken unfilled
  have endlessReceived := receive_costRequest "ratio" (Float.ofBits 1)
  have endlessShort := isAddressable_costOperation "ratio" (Float.ofBits 1) (by decide)
  have breaks : (costOperation "ratio" (Float.ofBits 1)).Breaks (some characterTokens) :=
    .endlessQuotient (by decide) List.mem_cons_self (by decide)
  have endless := (sentStatus_respondWith sendsJson_standalone bytewise endlessReceived rfl
    endlessShort).2.1 breaks
  exact ⟨sendsJson_standalone, bytewise,
    ⟨countedReceived, rfl, countedShort, unbroken, unfilled, counted⟩, endlessReceived, rfl,
    endlessShort, breaks, endless⟩

end SymbolScript.Service
