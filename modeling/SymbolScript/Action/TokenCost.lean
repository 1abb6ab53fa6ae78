import SymbolScript.Action.Basic
import SymbolScript.Decimal.Rounding
import SymbolScript.TokenCost

/-! The action that estimates what a text costs in tokens. -/

namespace SymbolScript.Action

def estimateValue (charactersPerToken : Float) (value : Value) : Except Failure Int := do
  TokenCost.estimateByRatio (← value.length) (.real charactersPerToken)

def roundedReduction (before after : Int) : Except Failure Value := do
  return .number (.real (Decimal.round 1 (← TokenCost.reduction (.whole before) (.whole after))))

def costBy (count : Value → Except Failure Int) (request : Request) (method source : Value) :
    Except Failure Reply := do
  let length ← source.length
  let tokens ← count source
  let cost := [entry "method" method, entry "chars" (wholeOf length),
    entry "tokens" (wholeOf tokens)]
  match request.given? "traditional" with
  | none => return .fields cost
  | some traditional =>
    let traditionalTokens ← count traditional
    let traditionalLength ← traditional.length
    return .fields (cost ++ [
      entry "traditional_chars" (wholeOf traditionalLength),
      entry "traditional_tokens" (wholeOf traditionalTokens),
      entry "char_reduction" (← roundedReduction traditionalLength length),
      entry "token_reduction" (← roundedReduction traditionalTokens tokens)])

def costByRatio (request : Request) (method source : Value) : Except Failure Reply := do
  let ratio ← (request.fieldOr "chars_per_token" (.number (.real 4))).toFloat
  if ratio ≤ 0 then return .refusal "'chars_per_token' must be positive".toList
  costBy (estimateValue ratio) request method source

/-- Counts the tokens that a vocabulary splits a value into. -/
abbrev Tokenizer := Value → Except Failure Nat

/-- Counts tokens by a vocabulary, if there is one, or estimates them. -/
def tokenCostWith (tokenizer? : Option Tokenizer) : Handler := fun request => do
  match request.given? "source" with
  | none => return missing "source"
  | some source =>
    let method := request.fieldOr "method" (textOf "bpe")
    match tokenizer?.filter fun _ => method.isText "bpe" with
    | some tokenizer =>
      costBy (fun value => (tokenizer value).map Int.ofNat) request method source
    | none =>
      if method.isText "ratio" then costByRatio request method source
      else unknown "method" method

end SymbolScript.Action
