import Mathlib.Data.List.Infix
import SymbolScript.Proofs.Construct.FieldScan

/-!
Self-contained texts: all quotes are closed, the brackets outside them nest, and no separator stands
outside both. Such a text is one field wherever it stands between separators.
-/

namespace SymbolScript.Construct

open Text

/-! ## Quotes -/

/-- The quote that is open behind a text, if there is one. Inside quotes only the closing quote is
special. -/
def quoteBehind : Option Char → Text → Option Char
  | quote, [] => quote
  | some quote, c :: rest => quoteBehind (if c = quote then none else some quote) rest
  | none, c :: rest => quoteBehind (if isQuote c then some c else none) rest

/-- The characters of a text that are neither quotes nor inside quotes. -/
def unquoted : Option Char → Text → Text
  | _, [] => []
  | some quote, c :: rest => unquoted (if c = quote then none else some quote) rest
  | none, c :: rest => if isQuote c then unquoted (some c) rest else c :: unquoted none rest

example : unquoted none "f('[,')+\x22'\x22".toList = "f()+".toList := by decide

/-! ## Brackets -/

/-- Whether a text without quotes closes as many brackets as are open in front of it, besides all
that it opens itself, no part that it starts with closes more, and every separator stands inside
brackets. -/
structure NestsFrom (isSeparator : Char → Bool) (depth : Nat) (text : Text) : Prop where
  front : ∀ part, part <+: text →
    part.countP isNestingCloser ≤ part.countP isNestingOpener + depth
  whole : text.countP isNestingCloser = text.countP isNestingOpener + depth
  inside : ∀ part c, part ++ [c] <+: text → isSeparator c = true →
    part.countP isNestingCloser < part.countP isNestingOpener + depth

/-- A text that can be a field: it closes its quotes and brackets and holds every separator in
them. -/
structure IsSelfContained (isSeparator : Char → Bool) (text : Text) : Prop where
  closed : quoteBehind none text = none
  nests : NestsFrom isSeparator 0 (unquoted none text)

instance (isSeparator : Char → Bool) (depth : Nat) (text : Text) :
    Decidable (NestsFrom isSeparator depth text) :=
  decidable_of_iff ((∀ part ∈ text.inits,
      part.countP isNestingCloser ≤ part.countP isNestingOpener + depth) ∧
    text.countP isNestingCloser = text.countP isNestingOpener + depth ∧
    ∀ part ∈ text.inits, ∀ c ∈ part.getLast?.toList, isSeparator c = true →
      part.dropLast.countP isNestingCloser < part.dropLast.countP isNestingOpener + depth) (by
    simp only [List.mem_inits, Option.mem_toList]
    refine ⟨fun ⟨front, whole, inside⟩ => ⟨front, whole, fun part c inFront separates => ?_⟩,
      fun ⟨front, whole, inside⟩ => ⟨front, whole, fun part inFront c isLast separates => ?_⟩⟩
    · have before := inside (part ++ [c]) inFront c List.getLast?_concat separates
      rwa [List.dropLast_concat] at before
    · rw [← List.dropLast_append_getLast? c isLast] at inFront
      exact inside part.dropLast c inFront separates)

instance (isSeparator : Char → Bool) (text : Text) : Decidable (IsSelfContained isSeparator text) :=
  decidable_of_iff (quoteBehind none text = none ∧ NestsFrom isSeparator 0 (unquoted none text))
    ⟨fun ⟨closed, nests⟩ => ⟨closed, nests⟩, fun ⟨closed, nests⟩ => ⟨closed, nests⟩⟩

example : IsSelfContained isComma "f(a,[1,2])+',('".toList ∧
    ¬IsSelfContained isComma "a,b".toList ∧ ¬IsSelfContained isComma ")(".toList ∧
    ¬IsSelfContained isComma "'(".toList := by decide

theorem IsSelfContained.of_nestsFrom {isSeparator : Char → Bool} {text : Text}
    (noQuote : ∀ c ∈ text, isQuote c = false) (nests : NestsFrom isSeparator 0 text) :
    IsSelfContained isSeparator text := by
  have plain : quoteBehind none text = none ∧ unquoted none text = text := by
    clear nests
    induction text with
    | nil => exact ⟨rfl, rfl⟩
    | cons c rest induction =>
        have here : ¬isQuote c = true := by simp [noQuote c List.mem_cons_self]
        rcases induction fun d member => noQuote d (List.mem_cons_of_mem c member) with
          ⟨closed, kept⟩
        rw [quoteBehind, unquoted, if_neg here, if_neg here, kept]
        exact ⟨closed, rfl⟩
  exact ⟨plain.1, by rwa [plain.2]⟩

theorem isNestingCloser_of_opener {c : Char} (opens : isNestingOpener c = true) :
    isNestingCloser c = false := by
  simp only [isNestingOpener, Bool.or_eq_true, beq_iff_eq] at opens
  rcases opens with (rfl | rfl) | rfl <;> rfl

namespace NestsFrom

variable {isSeparator : Char → Bool} {depth : Nat} {c : Char} {rest : Text}

theorem depth_eq_zero (nests : NestsFrom isSeparator depth []) : depth = 0 := by
  simpa using nests.whole.symm

theorem depth_pos_of_closer (nests : NestsFrom isSeparator depth (c :: rest))
    (noOpener : isNestingOpener c = false) (closes : isNestingCloser c = true) : 0 < depth := by
  have first := nests.front [c] ⟨rest, rfl⟩
  simp [noOpener, closes] at first
  omega

theorem depth_pos_of_separator (nests : NestsFrom isSeparator depth (c :: rest))
    (separates : isSeparator c = true) : 0 < depth := by
  have first := nests.inside [] c ⟨rest, rfl⟩ separates
  simpa using first

theorem tail {next : Nat} (nests : NestsFrom isSeparator depth (c :: rest))
    (step : next + [c].countP isNestingCloser = [c].countP isNestingOpener + depth) :
    NestsFrom isSeparator next rest := by
  have counts : ∀ (kind : Char → Bool) (text : Text),
      (c :: text).countP kind = [c].countP kind + text.countP kind :=
    fun kind text => by rw [← List.countP_append, List.singleton_append]
  refine ⟨fun part inFront => ?_, ?_, fun part separator inFront separates => ?_⟩
  · have longer := nests.front (c :: part) (List.cons_prefix_cons.mpr ⟨rfl, inFront⟩)
    rw [counts isNestingCloser, counts isNestingOpener] at longer
    omega
  · have whole := nests.whole
    rw [counts isNestingCloser, counts isNestingOpener] at whole
    omega
  · have longer := nests.inside (c :: part) separator
      (List.cons_prefix_cons.mpr ⟨rfl, inFront⟩) separates
    rw [counts isNestingCloser, counts isNestingOpener] at longer
    omega

end NestsFrom

/-! ## Scans -/

namespace ScanState

variable {isSeparator : Char → Bool} {depth : Nat}

/-- Outside quotes a scan passes over the first character of a text that nests, and the rest nests
from where the scan stands then. -/
theorem exists_next_of_nestsFrom {c : Char} {rest : Text} (noQuote : isQuote c = false)
    (nests : NestsFrom isSeparator depth (c :: rest)) : ∃ next : Nat,
      (⟨none, depth⟩ : ScanState).next? isSeparator c = some ⟨none, next⟩ ∧
        NestsFrom isSeparator next rest := by
  cases opens : isNestingOpener c with
  | true =>
      have noCloser := isNestingCloser_of_opener opens
      refine ⟨depth + 1, ?_, nests.tail ?_⟩
      · simp [next?, noQuote, opens]
      · simp [opens, noCloser, Nat.add_comm]
  | false =>
    cases closes : isNestingCloser c with
    | true =>
        have positive := nests.depth_pos_of_closer opens closes
        refine ⟨depth - 1, ?_, nests.tail ?_⟩
        · simp [next?, noQuote, opens, closes, Int.natCast_sub positive]
        · simp [opens, closes, Nat.sub_add_cancel positive]
    | false =>
        refine ⟨depth, ?_, nests.tail ?_⟩
        · have passes : (isSeparator c && (depth : Int) == 0) = false := by
            cases separates : isSeparator c with
            | false => rfl
            | true =>
                have positive := nests.depth_pos_of_separator separates
                simpa using positive.ne'
          simp [next?, noQuote, opens, closes, passes]
        · simp [opens, closes]

theorem after?_of_nestsFrom {quote : Option Char} {text : Text}
    (closed : quoteBehind quote text = none)
    (nests : NestsFrom isSeparator depth (unquoted quote text)) :
    (⟨quote, depth⟩ : ScanState).after? isSeparator text = some outside := by
  induction text generalizing quote depth with
  | nil =>
      cases closed
      rw [nests.depth_eq_zero]
      rfl
  | cons c rest induction =>
      cases quote with
      | some quote => exact induction closed nests
      | none =>
          rw [after?_cons]
          cases quotes : isQuote c with
          | true =>
              have step : (⟨none, depth⟩ : ScanState).next? isSeparator c = some ⟨some c, depth⟩ :=
                if_pos quotes
              rw [quoteBehind, if_pos quotes] at closed
              rw [unquoted, if_pos quotes] at nests
              rw [step]
              exact induction closed nests
          | false =>
              rw [quoteBehind, if_neg (Bool.eq_false_iff.mp quotes)] at closed
              rw [unquoted, if_neg (Bool.eq_false_iff.mp quotes)] at nests
              rcases exists_next_of_nestsFrom quotes nests with ⟨next, step, later⟩
              rw [step]
              exact induction closed later

end ScanState

theorem IsSelfContained.after? {isSeparator : Char → Bool} {text : Text}
    (contained : IsSelfContained isSeparator text) :
    ScanState.outside.after? isSeparator text = some .outside :=
  ScanState.after?_of_nestsFrom contained.closed contained.nests

end SymbolScript.Construct
