import SymbolScript.Proofs.Action.TokenCost
import SymbolScript.Proofs.TokenCost
import SymbolScript.Proofs.Value

/-!
Answers hold no infinite double and no not-a-number, unless an infinite double is asked for as a
vector number: that request is answered with the double itself.
-/

namespace SymbolScript

open Decimal

/-! ## Vector numbers -/

namespace VectorNumber

theorem encode_of_isNaN {x : Float} (notNumber : x.isNaN = true) :
    encode (.real x) = .error (.number .notANumber) := by
  have noConstant : writtenConstants.find? (·.1 == x.abs) = none := by
    rw [List.find?_eq_none]
    intro constant _
    simp [Binary.beq_abs_of_isNaN notNumber]
  have noMagnitude := (Binary.ofFloat?_eq_none_iff x).mpr (.inl notNumber)
  rw [encode, encodeReal, noConstant, noMagnitude]
  dsimp only
  rw [if_pos notNumber]
  rfl

theorem exists_encode_of_isInf {x : Float} (infinite : x.isInf = true) :
    ∃ literal, encode (.real x) = .ok literal := by
  have number := Binary.isNaN_of_isInf infinite
  have noMagnitude := (Binary.ofFloat?_eq_none_iff x).mpr (.inr infinite)
  rw [encode, encodeReal, noMagnitude]
  cases writtenConstants.find? (·.1 == x.abs) with
  | some constant => exact ⟨_, rfl⟩
  | none =>
      dsimp only
      rw [if_neg (Bool.eq_false_iff.mp number)]
      exact ⟨_, rfl⟩

end VectorNumber

namespace Action

/-! ## Finite answers -/

abbrev AnswersFinite : Except Failure Reply → Prop :=
  AnswersWith fun entries => ∀ entry ∈ entries, entry.2.isFinite = true

theorem isFinite_dispatchWith_iff_answers (tokenizer? : Option Tokenizer) (request : Request) :
    (Value.object (dispatchWith tokenizer? request).entries).isFinite = true ↔
      AnswersFinite (answerWith tokenizer? request) := by
  rw [dispatchWith]
  cases answered : answerWith tokenizer? request with
  | error cause => exact ⟨fun _ => .error cause, fun _ => rfl⟩
  | ok reply =>
      cases reply with
      | refusal message => exact ⟨fun _ => .refusal message, fun _ => rfl⟩
      | fields entries =>
          rw [AnswersFinite, AnswersWith.fields_iff]
          exact Value.isFinite_object_iff entries

/-! ## Actions on texts -/

theorem answersFinite_compile (request : Request) : AnswersFinite (compile request) :=
  answersWith_compile fun target outcome => by
    simp [outcomeFields, entry, Value.isFinite_list_iff]

theorem answersFinite_rewriteWith (modes : List Mode) (request : Request) :
    AnswersFinite (rewriteWith modes request) :=
  answersWith_rewriteWith fun mode text => by simp [entry]

@[simp] theorem isFinite_glossaryObject (glossary : Glossary) :
    (glossaryObject glossary).isFinite = true := by
  rw [glossaryObject, Value.isFinite_object_iff]
  intro entry member
  rcases List.mem_map.mp member with ⟨symbol, _, rfl⟩
  rfl

@[simp] theorem isFinite_correspondenceObject (entries : Correspondence) :
    (correspondenceObject entries).isFinite = true := by
  rw [correspondenceObject, Value.isFinite_object_iff]
  intro entry member
  rcases List.mem_map.mp member with ⟨symbol, _, rfl⟩
  rfl

theorem answersFinite_listSymbols (request : Request) : AnswersFinite (listSymbols request) := by
  apply answersWith_listSymbols
  · intro names
    simp [entry, Value.isFinite_list_iff]
  · intro category entries
    simp [entry]

/-! ## Actions on numbers -/

theorem isFinite_of_answerNumber {number : Number} {value : Value}
    (answered : answerNumber number = .ok value) : value.isFinite = true := by
  rcases answerNumber_cases answered with ⟨text, rfl⟩ | ⟨rfl, finite⟩
  · rfl
  · rwa [Value.isFinite_number]

theorem answersFinite_decodeNumber (request : Request) : AnswersFinite (decodeNumber request) :=
  answersWith_decodeNumber fun format literal number value answered => by
    simp [entry, isFinite_of_answerNumber answered]

theorem NumberFormat.eq_of_find? {name : Value} {format : NumberFormat}
    (found : find? name = some format) : name = textOf format.spelling := by
  rw [find?] at found
  have named := List.find?_some found
  rwa [Value.isText_iff] at named

theorem throw_shown_ne_ok {α : Type} (shown : Except Failure Text) (cause : Text → NumberFault)
    (result : α) : (do throw (.number (cause (← shown))) : Except Failure α) ≠ .ok result := by
  cases shown <;> simp [bind, Except.bind, throw, throwThe, MonadExceptOf.throw]

theorem isFinite_of_encodeVector {value : Value} {literal : Text}
    (encoded : encodeVector value = .ok literal) :
    value.isFinite = true ↔ ¬∃ x : Float, value = .number (.real x) ∧ x.isInf = true := by
  cases value with
  | bool value => simp
  | number number =>
      rw [Value.isFinite_number]
      cases number with
      | whole number => simp [Number.isFinite]
      | real x =>
          have number : x.isNaN = false := by
            rw [Bool.eq_false_iff]
            intro notNumber
            cases (VectorNumber.encode_of_isNaN notNumber).symm.trans encoded
          have finite_iff : (Number.real x).isFinite = !x.isInf := by
            rw [Number.isFinite, number]
            rfl
          simp [finite_iff]
  | null => exact absurd encoded (throw_shown_ne_ok _ _ _)
  | text text => exact absurd encoded (throw_shown_ne_ok _ _ _)
  | list items => exact absurd encoded (throw_shown_ne_ok _ _ _)
  | object entries => exact absurd encoded (throw_shown_ne_ok _ _ _)

theorem exists_whole_of_encodeBase64 {value : Value} {literal : Text}
    (encoded : encodeBase64 value = .ok literal) : ∃ number, value = wholeOf number := by
  unfold encodeBase64 at encoded
  split at encoded
  · exact ⟨_, rfl⟩
  · exact absurd encoded (throw_shown_ne_ok _ _ _)

/-- A request for an infinite double as a vector number. -/
structure Request.AsksForInfinity (request : Request) : Prop where
  action : request.field? "action" = some (textOf "encode_number")
  value : ∃ x : Float, request.field? "value" = some (.number (.real x)) ∧ x.isInf = true
  format : request.fieldOr "format" (textOf "vector") = textOf "vector"

theorem Request.AsksForInfinity.find?_format {request : Request}
    (asks : request.AsksForInfinity) :
    NumberFormat.find? (request.fieldOr "format" (textOf "vector")) = some .vector := by
  rw [asks.format]
  rfl

theorem answersFinite_encodeNumber_iff {request : Request}
    (action : request.field? "action" = some (textOf "encode_number")) :
    AnswersFinite (encodeNumber request) ↔ ¬request.AsksForInfinity := by
  unfold encodeNumber
  split
  · next absent =>
    refine iff_of_true (.refusal _) fun asks => ?_
    rcases asks.value with ⟨x, given, _⟩
    cases absent.symm.trans given
  · next value given =>
    dsimp only
    split
    · next absent =>
      refine iff_of_true (.unknown _ _) fun asks => ?_
      cases absent.symm.trans asks.find?_format
    · next known =>
      have wanted := NumberFormat.eq_of_find? known
      have asks_iff : request.AsksForInfinity ↔
          ∃ x : Float, value = .number (.real x) ∧ x.isInf = true := by
        constructor
        · intro asks
          rcases asks.value with ⟨x, same, infinite⟩
          exact ⟨x, Option.some.inj (given.symm.trans same), infinite⟩
        · rintro ⟨x, rfl, infinite⟩
          exact ⟨action, ⟨x, given, infinite⟩, wanted⟩
      rw [asks_iff]
      cases encoded : encodeVector value with
      | error cause =>
          refine iff_of_true (.error _) ?_
          rintro ⟨x, rfl, infinite⟩
          rcases VectorNumber.exists_encode_of_isInf infinite with ⟨literal, written⟩
          cases encoded.symm.trans written
      | ok literal =>
          rw [← isFinite_of_encodeVector encoded]
          refine (AnswersWith.fields_iff _).trans ?_
          simp [entry, wanted]
    · next known =>
      have wanted := NumberFormat.eq_of_find? known
      refine iff_of_true (.bind fun literal encoded => ?_) fun asks => ?_
      · rcases exists_whole_of_encodeBase64 encoded with ⟨number, whole⟩
        refine (AnswersWith.fields_iff _).mpr ?_
        simp [entry, wanted, whole]
      · cases known.symm.trans asks.find?_format

/-! ## Token costs -/

/-- Lengths that an index of sixty-four bits with a sign can reach. -/
def Request.IsAddressable (request : Request) : Prop :=
  ∀ name value length, request.field? name = some value → value.length = .ok length →
    length < 2 ^ 63

theorem Request.isAddressable_of_forall {request : Request}
    (small : ∀ entry ∈ request, ∀ length, entry.2.length = .ok length → length < 2 ^ 63) :
    request.IsAddressable := by
  intro name value length given found
  rcases Option.map_eq_some_iff.mp given with ⟨entry, first, rfl⟩
  exact small entry (List.mem_of_find?_eq_some first) length found

/-- No token stands for nothing, and no character takes more than four tokens. -/
def Tokenizer.IsBytewise (tokenizer : Tokenizer) : Prop :=
  ∀ value count, tokenizer value = .ok count →
    ∃ length, value.length = .ok length ∧ count ≤ 4 * length

theorem Request.field?_of_given? {request : Request} {name : String} {value : Value}
    (given : request.given? name = some value) : request.field? name = some value := by
  unfold given? at given
  split at given
  · cases given
  · exact given

theorem isFinite_of_roundedReduction {before after : Int} {value : Value}
    (bounded : before ≠ 0 → after.natAbs ≤ 2 ^ 70 * before.natAbs)
    (rounded : roundedReduction before after = .ok value) : value.isFinite = true := by
  rcases exists_of_roundedReduction rounded with ⟨percent, computed, rfl⟩
  rcases TokenCost.exists_of_reduction bounded computed with ⟨magnitude, read, small⟩
  rw [Value.isFinite_number, Number.isFinite_real_iff]
  exact exists_ofFloat?_round read small 0

theorem exists_of_tokenizer {tokenizer : Tokenizer} {value : Value} {count : Int}
    (counted : (tokenizer value).map Int.ofNat = .ok count) :
    ∃ tokens : Nat, tokenizer value = .ok tokens ∧ count = tokens := by
  cases found : tokenizer value with
  | error cause => simp [found, Except.map] at counted
  | ok tokens =>
      rw [found] at counted
      exact ⟨tokens, rfl, (Except.ok.inj counted).symm⟩

theorem answersFinite_costBy {count : Value → Except Failure Int} {request : Request}
    {method source : Value} (addressable : request.IsAddressable)
    (given : request.given? "source" = some source) (methodFinite : method.isFinite = true)
    (bounded : ∀ traditional tokens traditionalTokens,
      request.given? "traditional" = some traditional → count source = .ok tokens →
      count traditional = .ok traditionalTokens → traditionalTokens ≠ 0 →
      tokens.natAbs ≤ 2 ^ 70 * traditionalTokens.natAbs) :
    AnswersFinite (costBy count request method source) := by
  apply answersWith_costBy
  · intro length tokens _
    simp [entry, methodFinite]
  · intro length tokens traditional traditionalLength traditionalTokens lengthReduction
      tokenReduction cost traditionalGiven traditionalCost lengthReduced tokensReduced
    have short := addressable _ _ _ (Request.field?_of_given? given) cost.found
    have lengthFinite := isFinite_of_roundedReduction (by omega) lengthReduced
    have tokenFinite := isFinite_of_roundedReduction
      (bounded _ _ _ traditionalGiven cost.counted traditionalCost.counted) tokensReduced
    simp [entry, methodFinite, lengthFinite, tokenFinite]

theorem answersFinite_costByRatio {request : Request} {method source : Value}
    (addressable : request.IsAddressable) (given : request.given? "source" = some source)
    (methodFinite : method.isFinite = true) :
    AnswersFinite (costByRatio request method source) := by
  refine answersWith_costByRatio fun ratio => answersFinite_costBy addressable given methodFinite ?_
  intro traditional tokens traditionalTokens traditionalGiven counted traditionalCounted filled
  rcases exists_of_estimateValue counted with ⟨length, found, estimated⟩
  rcases exists_of_estimateValue traditionalCounted with ⟨other, otherFound, otherEstimated⟩
  have short := addressable _ _ _ (Request.field?_of_given? given) found
  have otherShort := addressable _ _ _ (Request.field?_of_given? traditionalGiven) otherFound
  exact TokenCost.natAbs_le_of_estimates short otherShort estimated otherEstimated filled

theorem answersFinite_tokenCostWith {tokenizer? : Option Tokenizer}
    (bytewise : ∀ tokenizer ∈ tokenizer?, tokenizer.IsBytewise) {request : Request}
    (addressable : request.IsAddressable) : AnswersFinite (tokenCostWith tokenizer? request) := by
  apply answersWith_tokenCostWith
  · intro tokenizer chosen source given
    refine answersFinite_costBy addressable given rfl ?_
    intro traditional tokens traditionalTokens _ counted _ filled
    rcases exists_of_tokenizer counted with ⟨number, found, rfl⟩
    rcases bytewise tokenizer chosen source number found with ⟨length, lengthFound, small⟩
    have short := addressable _ _ _ (Request.field?_of_given? given) lengthFound
    omega
  · intro source given
    exact answersFinite_costByRatio addressable given rfl

/-! ## All actions -/

theorem answersFinite_of_mem_handlersWith {tokenizer? : Option Tokenizer}
    (bytewise : ∀ tokenizer ∈ tokenizer?, tokenizer.IsBytewise) {request : Request}
    (addressable : request.IsAddressable) {name : String} {handler : Handler}
    (member : (name, handler) ∈ handlersWith tokenizer?) :
    name = "encode_number" ∧ handler = encodeNumber ∨
      name ≠ "encode_number" ∧ AnswersFinite (handler request) := by
  simp only [handlersWith, List.mem_cons, Prod.mk.injEq, List.not_mem_nil, or_false] at member
  rcases member with ⟨rfl, rfl⟩ | ⟨rfl, rfl⟩ | ⟨rfl, rfl⟩ | encode | ⟨rfl, rfl⟩ | ⟨rfl, rfl⟩ |
    ⟨rfl, rfl⟩
  · exact .inr ⟨by decide, answersFinite_compile request⟩
  · exact .inr ⟨by decide, answersFinite_rewriteWith _ request⟩
  · exact .inr ⟨by decide, answersFinite_rewriteWith _ request⟩
  · exact .inl encode
  · exact .inr ⟨by decide, answersFinite_decodeNumber request⟩
  · exact .inr ⟨by decide, answersFinite_tokenCostWith bytewise addressable⟩
  · exact .inr ⟨by decide, answersFinite_listSymbols request⟩

/-- A response is finite, whatever is asked and however tokens are counted, unless an infinite double
is asked for as a vector number. -/
theorem isFinite_dispatchWith_iff {tokenizer? : Option Tokenizer}
    (bytewise : ∀ tokenizer ∈ tokenizer?, tokenizer.IsBytewise) {request : Request}
    (addressable : request.IsAddressable) :
    (Value.object (dispatchWith tokenizer? request).entries).isFinite = true ↔
      ¬request.AsksForInfinity := by
  rw [isFinite_dispatchWith_iff_answers]
  have other : request.fieldOr "action" .null ≠ textOf "encode_number" →
      ¬request.AsksForInfinity := by
    intro different asks
    rw [Request.fieldOr, asks.action] at different
    exact different rfl
  unfold answerWith
  dsimp only
  split
  · next absent =>
    refine iff_of_true (.refusal _) (other fun named => ?_)
    rw [named] at absent
    cases absent
  · split
    · next name handler found =>
      have named := List.find?_some found
      have member := List.mem_of_find?_eq_some found
      rw [Value.isText_iff] at named
      rcases answersFinite_of_mem_handlersWith bytewise addressable member with
        ⟨rfl, rfl⟩ | ⟨different, finite⟩
      · refine answersFinite_encodeNumber_iff ?_
        cases given : request.field? "action" with
        | none => simp [Request.fieldOr, given] at named
        | some action =>
            rw [Request.fieldOr, given, Option.getD_some] at named
            exact congrArg some named
      · refine iff_of_true finite (other fun same => different ?_)
        rw [named] at same
        exact String.toList_inj.mp (Value.text.inj same)
    · next unknown =>
      refine iff_of_true (.unknown _ _) (other fun named => ?_)
      have known : ((handlersWith tokenizer?).find? fun handler =>
          (textOf "encode_number").isText handler.1) = some ("encode_number", encodeNumber) := rfl
      rw [named] at unknown
      cases unknown.symm.trans known

def characterTokens : Tokenizer
  | .text text => .ok text.length
  | value => .error (.type (.notText value.typeName))

theorem isBytewise_characterTokens : characterTokens.IsBytewise := by
  intro value count counted
  cases value with
  | text text =>
      cases counted
      exact ⟨text.length, rfl, by omega⟩
  | _ => cases counted

def characterRequest : Request :=
  [entry "action" (textOf "token_cost"), entry "source" (textOf "x"),
    entry "traditional" (textOf "7")]

theorem isFinite_dispatchWith_characterTokens :
    (∀ tokenizer ∈ some characterTokens, tokenizer.IsBytewise) ∧ characterRequest.IsAddressable ∧
      ¬characterRequest.AsksForInfinity ∧
      (Value.object (dispatchWith (some characterTokens) characterRequest).entries).isFinite =
        true := by
  have bytewise : ∀ tokenizer ∈ some characterTokens, tokenizer.IsBytewise := by
    rintro tokenizer ⟨⟩
    exact isBytewise_characterTokens
  have addressable : characterRequest.IsAddressable := by
    refine Request.isAddressable_of_forall ?_
    intro entry member length found
    simp only [characterRequest, List.mem_cons, List.not_mem_nil, or_false] at member
    rcases member with rfl | rfl | rfl <;> cases found <;> decide
  have notAsked : ¬characterRequest.AsksForInfinity := by
    intro asks
    rcases asks.value with ⟨x, given, _⟩
    cases given
  exact ⟨bytewise, addressable, notAsked,
    (isFinite_dispatchWith_iff bytewise addressable).mpr notAsked⟩

/-- An infinite double that is to be written as a vector number is in the answer. -/
theorem isFinite_dispatch_infinity :
    (Value.object (dispatch [entry "action" (textOf "encode_number"),
      entry "value" (.number (.real infinity))]).entries).isFinite = false := by
  decide +kernel

end Action

end SymbolScript
