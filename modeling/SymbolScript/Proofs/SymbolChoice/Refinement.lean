import SymbolScript.Proofs.Decimal.Order
import SymbolScript.Proofs.Text.Recogniser
import SymbolScript.SymbolChoice.Efficiency

/-!
The search for better symbols. It finds one alternative for each symbol below the threshold that
has a better one at all: the first of those with the highest score.
-/

namespace SymbolScript.SymbolChoice

open Text

/-! ## Scores -/

/-- The score of a text as an exact number. Only the empty text has none, which counts as zero. -/
def exactScore (text : Text) : ℚ :=
  match score text with
  | .ok found => Decimal.exact found
  | .error _ => 0

theorem isFinite_scoreAt (point : Nat) : (Number.real (scoreAt point)).isFinite = true := by
  unfold scoreAt
  split_ifs <;> rfl

theorem exists_score {text : Text} (filled : text ≠ []) :
    ∃ found, score text = .ok found ∧ (Number.real found).isFinite = true ∧
      (Number.real found).exact = exactScore text := by
  cases text with
  | nil => exact absurd rfl filled
  | cons c rest => exact ⟨scoreAt c.toNat, rfl, isFinite_scoreAt c.toNat, rfl⟩

/-! ## The first of the best -/

/-- Whether a text is the first one with the highest score in a list. -/
structure IsFirstBest (alternatives : List Text) (text : Text) : Prop where
  highest : ∀ other ∈ alternatives, exactScore other ≤ exactScore text
  first : ∃ before after, alternatives = before ++ text :: after ∧
    ∀ other ∈ before, exactScore other < exactScore text

def seed (efficiency : Number) : Option (Text × Float) → Number
  | none => efficiency
  | some (_, highest) => .real highest

/-- What a search has found among the texts it has seen: nothing above an efficiency, or the first
best text with its score. -/
inductive IsBest (efficiency : Number) (seen : List Text) : Option (Text × Float) → Prop
  | none (low : ∀ other ∈ seen, exactScore other ≤ efficiency.exact) :
      IsBest efficiency seen none
  | some {text : Text} {highest : Float} (scored : score text = .ok highest)
      (finite : (Number.real highest).isFinite = true)
      (same : (Number.real highest).exact = exactScore text)
      (above : efficiency.exact < exactScore text) (best : IsFirstBest seen text) :
      IsBest efficiency seen (some (text, highest))

section Search

variable {efficiency : Number} {seen : List Text} {text other : Text}
variable {best : Option (Text × Float)}

theorem IsFirstBest.mem (best : IsFirstBest seen text) : text ∈ seen := by
  rcases best.first with ⟨before, after, rfl, -⟩
  exact List.mem_append_right before List.mem_cons_self

theorem IsFirstBest.of_above (above : ∀ other ∈ seen, exactScore other < exactScore text) :
    IsFirstBest (seen ++ [text]) text := by
  have lower : ∀ other ∈ seen, exactScore other ≤ exactScore text :=
    fun other member => le_of_lt (above other member)
  exact ⟨List.forall_mem_append.mpr ⟨lower, List.forall_mem_singleton.mpr (le_refl _)⟩, seen, [],
    rfl, above⟩

theorem IsFirstBest.append (best : IsFirstBest seen text)
    (notAbove : exactScore other ≤ exactScore text) : IsFirstBest (seen ++ [other]) text := by
  rcases best.first with ⟨before, after, split, lower⟩
  exact ⟨List.forall_mem_append.mpr ⟨best.highest, List.forall_mem_singleton.mpr notAbove⟩,
    before, after ++ [other], by simp [split], lower⟩

theorem IsBest.isFinite_seed (finite : efficiency.isFinite = true)
    (isBest : IsBest efficiency seen best) : (seed efficiency best).isFinite = true := by
  cases isBest with
  | none _ => exact finite
  | some _ highestFinite _ _ _ => exact highestFinite

theorem IsBest.le_seed (isBest : IsBest efficiency seen best) :
    efficiency.exact ≤ (seed efficiency best).exact ∧
      ∀ other ∈ seen, exactScore other ≤ (seed efficiency best).exact := by
  cases isBest with
  | none low => exact ⟨le_refl _, low⟩
  | some _ _ same above first =>
      rw [seed, same]
      exact ⟨le_of_lt above, first.highest⟩

theorem IsBest.append (isBest : IsBest efficiency seen best)
    (notAbove : exactScore other ≤ (seed efficiency best).exact) :
    IsBest efficiency (seen ++ [other]) best := by
  cases isBest with
  | none low =>
      exact .none (List.forall_mem_append.mpr ⟨low, List.forall_mem_singleton.mpr notAbove⟩)
  | some scored finite same above first =>
      rw [seed, same] at notAbove
      exact .some scored finite same above (first.append notAbove)

theorem exists_best? (finite : efficiency.isFinite = true) {alternatives : List Text}
    (named : ∀ alternative ∈ alternatives, alternative ≠ []) :
    ∃ best, best? efficiency alternatives = .ok best ∧ IsBest efficiency alternatives best := by
  have start : IsBest efficiency [] none := .none fun other member => nomatch member
  refine exists_foldlM (IsBest efficiency) (fun seen best alternative member isBest => ?_) start
  rcases exists_score (named alternative member) with ⟨found, scored, foundFinite, same⟩
  have compared := Number.less_iff_exact (isBest.isFinite_seed finite) foundFinite
  rw [same] at compared
  rw [scored]
  by_cases above : (seed efficiency best).less (.real found) = true
  · have higher := compared.mp above
    have overEfficiency := lt_of_le_of_lt isBest.le_seed.1 higher
    have first := IsFirstBest.of_above fun other inSeen =>
      lt_of_le_of_lt (isBest.le_seed.2 other inSeen) higher
    exact ⟨_, congrArg _ (if_pos above), .some scored foundFinite same overEfficiency first⟩
  · exact ⟨_, congrArg _ (if_neg above), isBest.append (le_of_not_gt (mt compared.mpr above))⟩

end Search

/-! ## Refinements -/

/-- Whether a usage can be judged: its alternatives are not empty, and its efficiency is finite. An
efficiency is meant to be a double, so an integer counts as the double that stands for it. -/
structure IsJudged (usage : Usage) : Prop where
  named : ∀ alternative ∈ usage.alternatives, alternative ≠ []
  finite : ∃ efficiency, usage.efficiency.toFloat = .ok efficiency ∧
    (Number.real efficiency).isFinite = true

instance (usage : Usage) : Decidable (IsJudged usage) :=
  decidable_of_iff ((∀ alternative ∈ usage.alternatives, alternative ≠ []) ∧
      ∃ efficiency ∈ usage.efficiency.toFloat.toOption,
        (Number.real efficiency).isFinite = true) <| by
    have converted : ∀ efficiency : Float, efficiency ∈ usage.efficiency.toFloat.toOption ↔
        usage.efficiency.toFloat = .ok efficiency := by
      intro efficiency
      cases usage.efficiency.toFloat <;> simp [Except.toOption]
    simp only [converted]
    exact ⟨fun ⟨named, finite⟩ => ⟨named, finite⟩, fun ⟨named, finite⟩ => ⟨named, finite⟩⟩

/-- Whether a usage is below a threshold and has an alternative that scores better. -/
structure IsRefinable (threshold : Number) (usage : Usage) : Prop where
  below : usage.efficiency.exact < threshold.exact
  better : ∃ alternative ∈ usage.alternatives, usage.efficiency.exact < exactScore alternative

instance (threshold : Number) (usage : Usage) : Decidable (IsRefinable threshold usage) :=
  decidable_of_iff (usage.efficiency.exact < threshold.exact ∧
      ∃ alternative ∈ usage.alternatives, usage.efficiency.exact < exactScore alternative)
    ⟨fun ⟨below, better⟩ => ⟨below, better⟩, fun ⟨below, better⟩ => ⟨below, better⟩⟩

/-- Whether a refinement is the one of a symbol: its first best alternative, with the difference of
the scores in percentage points. -/
structure Refines (entry : Text × Usage) (found : Refinement) : Prop where
  current : found.current = entry.1
  meaning : found.meaning = entry.2.meaning
  alternative : IsFirstBest entry.2.alternatives found.alternative
  improvement : ∃ highest efficiency, score found.alternative = .ok highest ∧
    entry.2.efficiency.toFloat = .ok efficiency ∧
    found.improvement = Decimal.round 1 ((highest - efficiency) * 100)

section Refinements

variable {threshold : Number} {usage : Usage}

theorem IsJudged.isFinite (judged : IsJudged usage) : usage.efficiency.isFinite = true := by
  rcases judged.finite with ⟨efficiency, converted, finite⟩
  cases number : usage.efficiency with
  | whole value => rfl
  | real value =>
      rw [number] at converted
      cases converted
      exact finite

theorem reaches_iff (thresholdFinite : threshold.isFinite = true) {efficiency : Number}
    (finite : efficiency.isFinite = true) :
    reaches threshold efficiency = true ↔ threshold.exact ≤ efficiency.exact := by
  rw [reaches, Number.isComparable_of_isFinite finite,
    Number.isComparable_of_isFinite thresholdFinite, Bool.and_true, Bool.and_true,
    Bool.not_eq_true', Bool.eq_false_iff, Ne, Number.less_iff_exact finite thresholdFinite, not_lt]

theorem real_subtract (left : Float) {number : Number} {right : Float}
    (converted : number.toFloat = .ok right) :
    (Number.real left).subtract number = .ok (.real (left - right)) := by
  have once : (Number.real left).subtract number =
      number.toFloat.map fun right => Number.real (left - right) := by
    cases number <;> rfl
  rw [once, converted]
  rfl

theorem exists_refine? (thresholdFinite : threshold.isFinite = true) (symbol : Text)
    (judged : IsJudged usage) :
    ∃ result, refine? threshold symbol usage = .ok result ∧
      (¬IsRefinable threshold usage ∧ result = none ∨ IsRefinable threshold usage ∧
        ∃ found, result = some found ∧ Refines (symbol, usage) found) := by
  have decided := reaches_iff thresholdFinite judged.isFinite
  unfold refine?
  by_cases reached : reaches threshold usage.efficiency = true
  · rw [if_pos reached]
    exact ⟨none, rfl, .inl ⟨fun refinable => not_le_of_gt refinable.below (decided.mp reached),
      rfl⟩⟩
  · have below := lt_of_not_ge (mt decided.mpr reached)
    rw [if_neg reached]
    rcases exists_best? judged.isFinite judged.named with ⟨best, searched, isBest⟩
    rw [searched]
    cases isBest with
    | none low =>
        refine ⟨none, rfl, .inl ⟨fun refinable => ?_, rfl⟩⟩
        rcases refinable.better with ⟨alternative, member, above⟩
        exact not_le_of_gt above (low alternative member)
    | @some text highest scored finite same above best =>
        rcases judged.finite with ⟨efficiency, converted, _⟩
        have gained : (Number.real highest).subtract usage.efficiency =
            .ok (.real (highest - efficiency)) := real_subtract highest converted
        dsimp only [bind, Except.bind]
        rw [gained]
        refine ⟨_, rfl, .inr ⟨⟨below, text, best.mem, above⟩, _, rfl, ?_⟩⟩
        exact ⟨rfl, rfl, best, highest, efficiency, scored, converted, rfl⟩

/-- The refinements of a table are those of the symbols that can be refined, in its order. -/
theorem exists_refinements {table : UsageTable} (finite : threshold.isFinite = true)
    (judged : ∀ entry ∈ table, IsJudged entry.2) :
    ∃ found, refinements table threshold = .ok found ∧
      List.Forall₂ Refines (table.filter fun entry => IsRefinable threshold entry.2) found := by
  rcases exists_mapM fun entry member => exists_refine? finite entry.1 (judged entry member) with
    ⟨results, searched, related⟩
  refine ⟨results.filterMap id, by rw [refinements, searched]; rfl, ?_⟩
  clear searched judged
  induction related with
  | nil => exact .nil
  | @cons entry result table results outcome _ induction =>
      rcases outcome with ⟨kept, rfl⟩ | ⟨refinable, found, rfl, refines⟩
      · rw [List.filter_cons_of_neg (by simpa using kept)]
        exact induction
      · rw [List.filter_cons_of_pos (by simpa using refinable)]
        exact .cons refines induction

end Refinements

theorem exists_refinements_usages :
    defaultThreshold.isFinite = true ∧ (∀ entry ∈ usages, IsJudged entry.2) ∧
      ∃ found, refinements usages defaultThreshold = .ok found ∧
        List.Forall₂ Refines
          (usages.filter fun entry => IsRefinable defaultThreshold entry.2) found :=
  ⟨by decide, by decide, exists_refinements (by decide) (by decide)⟩

example : (refinements usages defaultThreshold).map (List.map Refinement.alternative) =
    .ok ["⟨B⟩".toList, "⊙".toList, "⟨c⟩".toList, "⟨p⟩".toList, "⟨m⟩".toList,
      "⟨b⟩".toList] := by decide

end SymbolScript.SymbolChoice
