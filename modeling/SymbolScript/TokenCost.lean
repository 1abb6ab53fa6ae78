import SymbolScript.Number
import SymbolScript.Text.Blank

/-!
Estimates of how many tokens a language model needs for a text, and comparisons of two spellings
of one program.
-/

namespace SymbolScript.TokenCost

/-! ## Estimates -/

/-- How tokens are counted: one for each word, one for each character, a number for each
character, or one for a number of characters. -/
inductive Counter
  | words
  | characters
  | perCharacter (rate : Number)
  | ratio (charactersPerToken : Number)

def countWords (text : Text) : Nat :=
  (Text.words text).length

/-- A number of tokens for each of so many characters, rounded up. -/
def estimate (length : Nat) (rate : Number) : Except Failure Int := do
  match ← (Number.whole length).multiply rate with
  | .whole count => return count
  | .real count => ceiling count

def estimateByRatio (length : Nat) (charactersPerToken : Number) : Except Failure Int := do
  ceiling (← (Number.whole length).divide charactersPerToken)

def Counter.count : Counter → Text → Except Failure Int
  | words, text => .ok (countWords text)
  | characters, text => .ok text.length
  | perCharacter rate, text => estimate text.length rate
  | ratio charactersPerToken, text => estimateByRatio text.length charactersPerToken

/-! ## Comparisons -/

def reduction (before after : Number) : Except Failure Float :=
  if before.isZero then .ok 0
  else do return (← (← before.subtract after).divide before) * 100

structure Totals where
  traditionalLength : Int
  symbolicLength : Int
  traditionalTokens : Int
  symbolicTokens : Int
deriving DecidableEq, Repr

namespace Totals

def lengthReduction (totals : Totals) : Except Failure Float :=
  reduction (.whole totals.traditionalLength) (.whole totals.symbolicLength)

def tokenReduction (totals : Totals) : Except Failure Float :=
  reduction (.whole totals.traditionalTokens) (.whole totals.symbolicTokens)

end Totals

structure Sample where
  name : Text
  traditional : Text
  symbolic : Text
deriving DecidableEq, Repr

structure Comparison where
  sample : Sample
  totals : Totals
deriving DecidableEq, Repr

def compare (counter symbolicCounter : Counter) (sample : Sample) : Except Failure Comparison := do
  let traditionalTokens ← counter.count sample.traditional
  let symbolicTokens ← symbolicCounter.count sample.symbolic
  return {
    sample
    totals := {
      traditionalLength := sample.traditional.length
      symbolicLength := sample.symbolic.length
      traditionalTokens
      symbolicTokens } }

def keywordRate : Float := 0.7

def symbolRate : Float := 0.4

def compareEstimated (samples : List Sample) : Except Failure (List Comparison) :=
  samples.mapM (compare (.perCharacter (.real keywordRate)) (.perCharacter (.real symbolRate)))

/-! ## Sums -/

def fitsWord (number : Int) : Bool :=
  -(2 ^ 63) ≤ number && number < 2 ^ 63

/-- The sum of counts in a signed word, which wraps around. -/
def wordSum (counts : List Int) : Int :=
  counts.sum.bmod (2 ^ 64)

def summarize (comparisons : List Comparison) : Except Failure Totals :=
  let totals := comparisons.map Comparison.totals
  if totals.all fun entry => fitsWord entry.traditionalTokens && fitsWord entry.symbolicTokens then
    .ok {
      traditionalLength := wordSum (totals.map Totals.traditionalLength)
      symbolicLength := wordSum (totals.map Totals.symbolicLength)
      traditionalTokens := wordSum (totals.map Totals.traditionalTokens)
      symbolicTokens := wordSum (totals.map Totals.symbolicTokens) }
  else .error (.range .countTooLarge)

end SymbolScript.TokenCost
