import SymbolScript.Proofs.Action.Answer

/-! What the answers to requests for token costs say, whatever the tokens are counted by. -/

namespace SymbolScript.Action

structure IsCost (count : Value → Except Failure Int) (value : Value) (length : Nat)
    (tokens : Int) : Prop where
  found : value.length = .ok length
  counted : count value = .ok tokens

theorem exists_of_estimateValue {ratio : Float} {value : Value} {count : Int}
    (estimated : estimateValue ratio value = .ok count) :
    ∃ length, value.length = .ok length ∧
      TokenCost.estimateByRatio length (.real ratio) = .ok count := by
  unfold estimateValue at estimated
  cases found : value.length with
  | error cause => simp [found, bind, Except.bind] at estimated
  | ok length =>
      rw [found] at estimated
      exact ⟨length, rfl, estimated⟩

theorem exists_of_roundedReduction {before after : Int} {value : Value}
    (rounded : roundedReduction before after = .ok value) :
    ∃ percent, TokenCost.reduction (.whole before) (.whole after) = .ok percent ∧
      value = .number (.real (Decimal.round 1 percent)) := by
  unfold roundedReduction at rounded
  cases computed : TokenCost.reduction (.whole before) (.whole after) with
  | error cause => simp [computed, bind, Except.bind] at rounded
  | ok percent =>
      rw [computed] at rounded
      exact ⟨percent, rfl, (Except.ok.inj rounded).symm⟩

theorem answersWith_costBy {holds : Dictionary Text Value → Prop}
    {count : Value → Except Failure Int} {request : Request} {method source : Value}
    (alone : ∀ length tokens, IsCost count source length tokens →
      holds [entry "method" method, entry "chars" (wholeOf length),
        entry "tokens" (wholeOf tokens)])
    (compared : ∀ length tokens traditional traditionalLength traditionalTokens lengthReduction
      tokenReduction, IsCost count source length tokens →
      request.given? "traditional" = some traditional →
      IsCost count traditional traditionalLength traditionalTokens →
      roundedReduction traditionalLength length = .ok lengthReduction →
      roundedReduction traditionalTokens tokens = .ok tokenReduction →
      holds [entry "method" method, entry "chars" (wholeOf length),
        entry "tokens" (wholeOf tokens), entry "traditional_chars" (wholeOf traditionalLength),
        entry "traditional_tokens" (wholeOf traditionalTokens),
        entry "char_reduction" lengthReduction, entry "token_reduction" tokenReduction]) :
    AnswersWith holds (costBy count request method source) := by
  refine .bind fun length found => .bind fun tokens counted => ?_
  split
  · exact (AnswersWith.fields_iff _).mpr (alone _ _ ⟨found, counted⟩)
  · next traditional given =>
    refine .bind fun traditionalTokens otherCounted => .bind fun traditionalLength otherFound =>
      .bind fun lengthReduction lengthReduced => .bind fun tokenReduction tokensReduced => ?_
    exact (AnswersWith.fields_iff _).mpr (compared _ _ _ _ _ _ _ ⟨found, counted⟩ given
      ⟨otherFound, otherCounted⟩ lengthReduced tokensReduced)

theorem answersWith_costByRatio {holds : Dictionary Text Value → Prop} {request : Request}
    {method source : Value}
    (answers : ∀ ratio, AnswersWith holds (costBy (estimateValue ratio) request method source)) :
    AnswersWith holds (costByRatio request method source) := by
  refine .bind fun ratio _ => ?_
  split
  · exact .refusal _
  · exact answers ratio

theorem answersWith_tokenCostWith {holds : Dictionary Text Value → Prop} {request : Request}
    {tokenizer? : Option Tokenizer}
    (counted : ∀ tokenizer ∈ tokenizer?, ∀ source, request.given? "source" = some source →
      AnswersWith holds (costBy (fun value => (tokenizer value).map Int.ofNat) request
        (textOf "bpe") source))
    (estimated : ∀ source, request.given? "source" = some source →
      AnswersWith holds (costByRatio request (textOf "ratio") source)) :
    AnswersWith holds (tokenCostWith tokenizer? request) := by
  unfold tokenCostWith
  split
  · exact .refusal _
  · next source given =>
    dsimp only
    split
    · next tokenizer found =>
      rcases Option.filter_eq_some_iff.mp found with ⟨chosen, named⟩
      rw [Value.isText_iff] at named
      rw [named]
      exact counted tokenizer chosen source given
    · split
      · next named =>
        rw [Value.isText_iff] at named
        rw [named]
        exact estimated source given
      · exact .unknown _ _

end SymbolScript.Action
