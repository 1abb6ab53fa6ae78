import SymbolScript.Proofs.Action.Finite
import SymbolScript.Proofs.Service.Settled

/-!
Answers with token costs. Counts are within the digit limit and reductions are finite, so an answer
can be sent if the tokens are counted at all.
-/

namespace SymbolScript.Service

open SymbolScript.Action
open Operation (Breaks)

variable {tokenizer? : Option Tokenizer}

/-! ## Token costs -/

theorem exists_roundedReduction {before after : Int}
    (bounded : before ≠ 0 → after.natAbs ≤ 2 ^ 70 * before.natAbs) :
    ∃ value, roundedReduction before after = .ok value ∧ value.IsSendable := by
  rcases TokenCost.exists_reduction bounded with ⟨percent, reduced⟩
  have rounded : roundedReduction before after =
      .ok (.number (.real (Decimal.round 1 percent))) := by
    rw [roundedReduction, reduced]
    rfl
  have finite := isFinite_of_roundedReduction bounded rounded
  rw [Value.isFinite_number] at finite
  exact ⟨_, rounded, by rwa [Value.isSendable_number_iff, Number.isSendable_real_iff]⟩

theorem isWritable_of_short {length : Nat} (short : length < 2 ^ 63) :
    Decimal.isWritable length = true := by
  apply Decimal.isWritable_of_log2_le
  rw [Int.natAbs_natCast]
  have log := Decimal.Binary.log2_le_of_le (Nat.le_of_lt short)
  omega

theorem isSettled_costBy_iff {count : Value → Except Failure Int} {request : Action.Request}
    {method source : Text} {traditional : Option Text}
    (given : request.given? "traditional" = traditional.map Value.text)
    (short : ∀ text ∈ source :: traditional.toList, text.length < 2 ^ 63)
    (writable : ∀ text ∈ source :: traditional.toList, ∀ tokens,
      count (.text text) = .ok tokens → Decimal.isWritable tokens = true)
    (near : ∀ other tokens otherTokens, traditional = some other →
      count (.text source) = .ok tokens → count (.text other) = .ok otherTokens →
      otherTokens ≠ 0 → tokens.natAbs ≤ 2 ^ 70 * otherTokens.natAbs) :
    IsSettled (costBy count request (.text method) (.text source)) ↔ ∀ cause,
      (source :: traditional.toList).mapM (fun text => count (.text text)) = .error cause →
        cause.isOwn = true := by
  have length : ∀ text : Text, (Value.text text).length = .ok text.length := fun _ => rfl
  have sourceShort := short source List.mem_cons_self
  have sourceWritable := isWritable_of_short sourceShort
  rw [costBy, given, List.mapM_cons, length]
  cases counted : count (.text source) with
  | error cause => simp [IsSettled, bind, Except.bind]
  | ok tokens =>
      have tokensWritable := writable source List.mem_cons_self tokens counted
      cases traditional with
      | none =>
          simp [IsSettled, bind, Except.bind, pure, Except.pure, entry, sourceWritable,
            tokensWritable]
      | some other =>
          have isOther : other ∈ source :: (some other).toList := by simp
          have otherShort := short other isOther
          cases otherCounted : count (.text other) with
          | error cause =>
              simp [IsSettled, bind, Except.bind, otherCounted]
          | ok otherTokens =>
              have otherWritable := writable other isOther otherTokens otherCounted
              -- Both reductions are finite, since what they compare is near enough.
              have lengthsNear : (other.length : Int) ≠ 0 →
                  (source.length : Int).natAbs ≤ 2 ^ 70 * (other.length : Int).natAbs := by omega
              rcases exists_roundedReduction lengthsNear with
                ⟨lengths, lengthsReduced, lengthsSendable⟩
              rcases exists_roundedReduction (near other tokens otherTokens rfl counted
                otherCounted) with ⟨shares, sharesReduced, sharesSendable⟩
              simp [IsSettled, bind, Except.bind, pure, Except.pure, entry, otherCounted, length,
                lengthsReduced, sharesReduced, sourceWritable, tokensWritable, otherWritable,
                isWritable_of_short otherShort, lengthsSendable, sharesSendable]

theorem costBy_eq_error {count : Value → Except Failure Int} {request : Action.Request}
    {method : Value} {source : Text} {traditional : Option Text} {cause : Failure}
    (given : request.given? "traditional" = traditional.map Value.text)
    (failed : (source :: traditional.toList).mapM (fun text => count (.text text)) =
      .error cause) :
    costBy count request method (.text source) = .error cause := by
  have length : (Value.text source).length = .ok source.length := rfl
  rw [List.mapM_cons] at failed
  rw [costBy, given, length]
  cases counted : count (.text source) with
  | error other => simpa [counted, bind, Except.bind] using failed
  | ok tokens =>
      cases traditional with
      | none => simp [counted, bind, Except.bind, pure, Except.pure] at failed
      | some other =>
          cases otherCounted : count (.text other) with
          | error different =>
              simpa [counted, otherCounted, bind, Except.bind] using failed
          | ok otherTokens =>
              simp [counted, otherCounted, bind, Except.bind, pure, Except.pure] at failed

section Costs

variable {source : Text} {traditional : Option Text} {ratio : Float}

theorem given?_traditional (method : Text) :
    (Operation.tokenCost source traditional method ratio).request.given? "traditional" =
      traditional.map Value.text := by
  cases traditional <;> rfl

theorem toFloat_chars_per_token (method : Text) :
    ((Operation.tokenCost source traditional method ratio).request.fieldOr
      "chars_per_token" (.number (.real 4))).toFloat = .ok ratio :=
  rfl

theorem tokenCostWith_ratio :
    tokenCostWith tokenizer?
        (Operation.tokenCost source traditional "ratio".toList ratio).request =
      costByRatio (Operation.tokenCost source traditional "ratio".toList ratio).request
        (textOf "ratio") (.text source) := by
  cases tokenizer? <;> rfl

theorem tokenCostWith_vocabulary (tokenizer : Tokenizer) :
    tokenCostWith (some tokenizer)
        (Operation.tokenCost source traditional "bpe".toList ratio).request =
      costBy (fun value => (tokenizer value).map Int.ofNat)
        (Operation.tokenCost source traditional "bpe".toList ratio).request (textOf "bpe")
        (.text source) :=
  rfl

theorem tokenCostWith_of_unknown {method : Text} (uncounted : method ≠ "bpe".toList)
    (unestimated : method ≠ "ratio".toList) :
    tokenCostWith tokenizer? (Operation.tokenCost source traditional method ratio).request =
      unknown "method" (.text method) := by
  have given : (Operation.tokenCost source traditional method ratio).request.given? "source" =
      some (.text source) := rfl
  have wanted : (Operation.tokenCost source traditional method ratio).request.fieldOr "method"
      (textOf "bpe") = .text method := rfl
  have unnamed : ∀ name : String, method ≠ name.toList →
      (Value.text method).isText name = false := by
    intro name different
    rw [← Bool.not_eq_true, Value.isText_iff]
    exact fun same => different (Value.text.inj same)
  have unused : (tokenizer?.filter fun _ => (Value.text method).isText "bpe") = none := by
    rw [unnamed "bpe" uncounted]
    cases tokenizer? <;> rfl
  rw [tokenCostWith, given]
  dsimp only
  rw [wanted, unused, unnamed "ratio" unestimated]
  rfl

theorem estimateValue_text {text : Text} (short : text.length < 2 ^ 63) (positive : ¬ratio ≤ 0) :
    estimateValue ratio (.text text) =
      ceiling (Decimal.nearest false text.length 1 / ratio) :=
  TokenCost.estimateByRatio_eq short positive

theorem estimates_isOwn_iff (short : ∀ text ∈ source :: traditional.toList, text.length < 2 ^ 63)
    (positive : ¬ratio ≤ 0) :
    (∀ cause, (source :: traditional.toList).mapM (fun text => estimateValue ratio (.text text)) =
      .error cause → cause.isOwn = true) ↔
    ∀ text ∈ source :: traditional.toList,
      (Number.real (Decimal.nearest false text.length 1 / ratio)).isFinite = true := by
  constructor
  · intro own text member
    rcases ceiling_cases (Decimal.nearest false text.length 1 / ratio) with
      ⟨-, finite⟩ | ⟨⟨cause, failed, -⟩, -⟩
    · exact finite
    · rw [← estimateValue_text (short text member) positive] at failed
      cases estimated :
          (source :: traditional.toList).mapM fun text => estimateValue ratio (.text text) with
      | ok counts =>
          rcases Text.exists_of_mapM_ok estimated member with ⟨count, found⟩
          cases failed.symm.trans found
      | error other =>
          rcases Text.exists_mem_of_mapM_error estimated with ⟨missed, isMissed, unestimated⟩
          rw [estimateValue_text (short missed isMissed) positive] at unestimated
          rcases ceiling_cases (Decimal.nearest false missed.length 1 / ratio) with
            ⟨⟨count, found⟩, -⟩ | ⟨⟨same, found, foreign⟩, -⟩
          · cases unestimated.symm.trans found
          · cases unestimated.symm.trans found
            rw [own _ estimated] at foreign
            cases foreign
  · intro finite cause failed
    rcases Text.exists_mem_of_mapM_error failed with ⟨text, member, unestimated⟩
    rw [estimateValue_text (short text member) positive] at unestimated
    rcases ceiling_cases (Decimal.nearest false text.length 1 / ratio) with
      ⟨⟨count, found⟩, -⟩ | ⟨-, endless⟩
    · cases unestimated.symm.trans found
    · rw [finite text member] at endless
      cases endless

theorem isSettled_ratio_iff
    (short : ∀ text ∈ source :: traditional.toList, text.length < 2 ^ 63) :
    IsSettled (tokenCostWith tokenizer?
      (Operation.tokenCost source traditional "ratio".toList ratio).request) ↔
      ¬Breaks tokenizer? (.tokenCost source traditional "ratio".toList ratio) := by
  rw [tokenCostWith_ratio, costByRatio, toFloat_chars_per_token]
  by_cases negative : ratio ≤ 0
  · simp only [bind, Except.bind, if_pos negative]
    refine iff_of_true trivial fun breaks => ?_
    cases breaks with
    | endlessQuotient positive counted endless => exact positive negative
  · simp only [bind, Except.bind, if_neg negative]
    refine (isSettled_costBy_iff (given?_traditional _) short ?_ ?_).trans ?_
    · intro text _ tokens counted
      exact (CommandLine.isWritable_of_isCost ⟨rfl, counted⟩).2
    · intro other tokens otherTokens isOther counted otherCounted filled
      have otherShort := short other (by simp [isOther])
      exact TokenCost.natAbs_le_of_estimates (short source List.mem_cons_self) otherShort counted
        otherCounted filled
    · rw [estimates_isOwn_iff short negative]
      constructor
      · intro finite breaks
        cases breaks with
        | endlessQuotient positive counted endless =>
            rw [finite _ counted] at endless
            cases endless
      · intro ready text member
        by_contra endless
        exact ready (.endlessQuotient negative member (Bool.eq_false_iff.mpr endless))

theorem mapM_tokenizer_eq_error_iff (tokenizer : Tokenizer) (texts : List Text) {cause : Failure} :
    texts.mapM (fun text => (tokenizer (.text text)).map Int.ofNat) = .error cause ↔
      texts.mapM (fun text => tokenizer (.text text)) = .error cause := by
  rw [Text.mapM_map]
  cases texts.mapM fun text => tokenizer (.text text) <;> simp [Except.map]

theorem isSettled_vocabulary_iff {tokenizer : Tokenizer} (bytewise : tokenizer.IsBytewise)
    (short : ∀ text ∈ source :: traditional.toList, text.length < 2 ^ 63) :
    IsSettled (tokenCostWith (some tokenizer)
      (Operation.tokenCost source traditional "bpe".toList ratio).request) ↔
      ¬Breaks (some tokenizer) (.tokenCost source traditional "bpe".toList ratio) := by
  have bounded : ∀ text ∈ source :: traditional.toList, ∀ tokens,
      (tokenizer (.text text)).map Int.ofNat = .ok tokens → tokens.natAbs ≤ 4 * text.length := by
    intro text _ tokens counted
    rcases exists_of_tokenizer counted with ⟨number, found, rfl⟩
    rcases bytewise _ number found with ⟨length, same, small⟩
    cases same
    simpa using small
  rw [tokenCostWith_vocabulary]
  refine (isSettled_costBy_iff (given?_traditional _) short ?_ ?_).trans ?_
  · intro text member tokens counted
    have small := bounded text member tokens counted
    have textShort := short text member
    apply Decimal.isWritable_of_log2_le
    have log := Decimal.Binary.log2_le_of_le (show tokens.natAbs ≤ 2 ^ 65 by omega)
    omega
  · intro other tokens otherTokens isOther counted otherCounted filled
    have small := bounded source List.mem_cons_self tokens counted
    have sourceShort := short source List.mem_cons_self
    omega
  · simp only [mapM_tokenizer_eq_error_iff]
    constructor
    · intro own breaks
      cases breaks with
      | unsplit chosen failed foreign =>
          cases chosen
          rw [own _ failed] at foreign
          cases foreign
    · intro ready cause failed
      by_contra foreign
      exact ready (.unsplit rfl failed (Bool.eq_false_iff.mpr foreign))

/-- Only counting can fail for a request for a cost: by a vocabulary that does not split a text, or
by an estimate that is no finite number. -/
theorem isSettled_tokenCost_iff (bytewise : ∀ tokenizer ∈ tokenizer?, tokenizer.IsBytewise)
    (method : Text) (short : ∀ text ∈ source :: traditional.toList, text.length < 2 ^ 63) :
    IsSettled (tokenCostWith tokenizer? (Operation.tokenCost source traditional method ratio).request)
      ↔ ¬Breaks tokenizer? (.tokenCost source traditional method ratio) := by
  by_cases counted : method = "bpe".toList
  · subst counted
    cases tokenizer? with
    | none =>
        refine iff_of_true trivial fun breaks => ?_
        cases breaks with
        | unsplit chosen => cases chosen
    | some tokenizer => exact isSettled_vocabulary_iff (bytewise tokenizer rfl) short
  · by_cases estimated : method = "ratio".toList
    · subst estimated
      exact isSettled_ratio_iff short
    · rw [tokenCostWith_of_unknown counted estimated]
      refine iff_of_true trivial fun breaks => ?_
      cases breaks with
      | endlessQuotient => exact estimated rfl
      | unsplit => exact counted rfl

/-! ## Failures of counting -/

theorem exists_ratio_error (short : ∀ text ∈ source :: traditional.toList, text.length < 2 ^ 63)
    (positive : ¬ratio ≤ 0) {text : Text} (counted : text ∈ source :: traditional.toList)
    (endless : (Number.real (Decimal.nearest false text.length 1 / ratio)).isFinite = false) :
    ∃ cause, tokenCostWith tokenizer?
      (Operation.tokenCost source traditional "ratio".toList ratio).request = .error cause := by
  have failed : ∃ cause, (source :: traditional.toList).mapM
      (fun text => estimateValue ratio (.text text)) = .error cause := by
    by_contra estimated
    have finite := (estimates_isOwn_iff short positive).mp
      (fun cause failed => absurd ⟨cause, failed⟩ estimated) text counted
    rw [finite] at endless
    cases endless
  rcases failed with ⟨cause, failed⟩
  refine ⟨cause, ?_⟩
  rw [tokenCostWith_ratio, costByRatio, toFloat_chars_per_token]
  simp only [bind, Except.bind, if_neg positive]
  exact costBy_eq_error (given?_traditional _) failed

theorem tokenCostWith_vocabulary_eq_error {tokenizer : Tokenizer} {cause : Failure}
    (failed : (source :: traditional.toList).mapM (fun text => tokenizer (.text text)) =
      .error cause) :
    tokenCostWith (some tokenizer)
      (Operation.tokenCost source traditional "bpe".toList ratio).request = .error cause := by
  rw [tokenCostWith_vocabulary]
  exact costBy_eq_error (given?_traditional _) ((mapM_tokenizer_eq_error_iff _ _).mpr failed)

end Costs

end SymbolScript.Service
