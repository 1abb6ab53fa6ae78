import SymbolScript.Proofs.Construct.ConditionalLine
import SymbolScript.Proofs.Construct.Unclosed

/-!
The end of a bracket by its position. A search behind an opening bracket stops at the nearest
position up to which the brackets of its kind are opened as often as they are closed, and it finds
nothing exactly if there is no such position. So it is for blocks and for conditions.
-/

namespace SymbolScript.Construct

open Text

/-! ## Positions -/

/-- Whether a position is the nearest one, from the first position on, up to which brackets of a
kind are opened as often as they are closed. -/
structure ClosesAt (opener closer : Char) (text : Text) (first last : Nat) : Prop where
  inText : last < text.length
  ordered : first ≤ last
  even : (text.extract first (last + 1)).count opener =
    (text.extract first (last + 1)).count closer
  nearest : ∀ middle < last, first ≤ middle →
    (text.extract first (middle + 1)).count opener ≠
      (text.extract first (middle + 1)).count closer

instance (opener closer : Char) (text : Text) (first last : Nat) :
    Decidable (ClosesAt opener closer text first last) :=
  decidable_of_iff (last < text.length ∧ first ≤ last ∧
      (text.extract first (last + 1)).count opener =
        (text.extract first (last + 1)).count closer ∧
      ∀ middle < last, first ≤ middle →
        (text.extract first (middle + 1)).count opener ≠
          (text.extract first (middle + 1)).count closer)
    ⟨fun ⟨inText, ordered, even, nearest⟩ => ⟨inText, ordered, even, nearest⟩,
      fun ⟨inText, ordered, even, nearest⟩ => ⟨inText, ordered, even, nearest⟩⟩

example : ClosesAt '(' ')' "f(a,(b),c))".toList 1 9 := by decide

theorem drop_of_getElem? {text : Text} {first : Nat} {c : Char} (here : text[first]? = some c) :
    text.drop first = c :: text.drop (first + 1) := by
  rcases List.getElem?_eq_some_iff.mp here with ⟨inText, equal⟩
  rw [List.drop_eq_getElem_cons inText, equal]

section Counting

variable {opener closer : Char}

theorem count_take_succ {rest : Text} {size : Nat} (inRest : size < rest.length) (bracket : Char) :
    (rest.take (size + 1)).count bracket =
      (rest.take size).count bracket + [rest[size]].count bracket := by
  rw [← List.take_concat_get' rest size inRest, List.count_append]

/-- The brackets are closed once more than they are opened first behind a balanced text and a
closing bracket. -/
theorem exists_balanced_of_first_close (different : closer ≠ opener) {rest : Text} {size : Nat}
    (inRest : size ≤ rest.length)
    (even : (rest.take size).count opener + 1 = (rest.take size).count closer)
    (nearest : ∀ shorter < size,
      (rest.take shorter).count opener + 1 ≠ (rest.take shorter).count closer) :
    ∃ inner after, rest = inner ++ closer :: after ∧ IsBalanced opener closer inner ∧
      size = inner.length + 1 := by
  cases size with
  | zero => simp at even
  | succ size =>
      -- One character closes one bracket at most, so none is closed too many in front of the last.
      have front : ∀ shorter ≤ size,
          (rest.take shorter).count closer ≤ (rest.take shorter).count opener := by
        intro shorter within
        induction shorter with
        | zero => simp
        | succ shorter induction =>
            have before := induction (Nat.le_of_succ_le within)
            have here := nearest (shorter + 1) (Nat.lt_succ_of_le within)
            have counts := count_take_succ (show shorter < rest.length by omega)
            rw [counts opener, counts closer] at here ⊢
            have single := List.count_le_length (a := closer) (l := [rest[shorter]])
            simp only [List.length_singleton] at single
            omega
      have balanced := front size (Nat.le_refl size)
      have counts := count_take_succ (show size < rest.length by omega)
      rw [counts opener, counts closer] at even
      have single := List.count_le_length (a := closer) (l := [rest[size]])
      simp only [List.length_singleton] at single
      have closes : rest[size] = closer := by
        have positive : 0 < [rest[size]].count closer := by omega
        exact (List.mem_singleton.mp (List.count_pos_iff.mp positive)).symm
      have opensNone : [rest[size]].count opener = 0 := by simp [closes, different]
      refine ⟨rest.take size, rest.drop (size + 1), ?_, ⟨fun part inFront => ?_, by omega⟩, ?_⟩
      · rw [← closes, ← List.drop_eq_getElem_cons, List.take_append_drop]
      · have isTake := List.prefix_iff_eq_take.mp (inFront.trans (List.take_prefix size rest))
        have short := inFront.length_le
        rw [List.length_take] at short
        rw [isTake]
        exact front part.length (by omega)
      · rw [List.length_take]
        omega

theorem first_close_of_balanced (different : closer ≠ opener) {inner : Text}
    (balanced : IsBalanced opener closer inner) (after : Text) {size : Nat}
    (within : size ≤ inner.length + 1) :
    ((inner ++ closer :: after).take size).count opener + 1 =
        ((inner ++ closer :: after).take size).count closer ↔ size = inner.length + 1 := by
  rcases Nat.lt_or_eq_of_le within with short | rfl
  · rw [List.take_append_of_le_length (Nat.le_of_lt_succ short)]
    have front := balanced.front (inner.take size) (List.take_prefix size inner)
    omega
  · have whole := balanced.whole
    rw [List.take_length_add_append]
    simp [different]
    omega

theorem closesAt_iff (different : closer ≠ opener) {text : Text} {first : Nat}
    (opens : text[first]? = some opener) {last : Nat} :
    ClosesAt opener closer text first last ↔
      ∃ inner after, text.drop (first + 1) = inner ++ closer :: after ∧
        IsBalanced opener closer inner ∧ last = first + 1 + inner.length := by
  -- Counts from the opening bracket on are those behind it, and the bracket itself.
  have counts : ∀ size (bracket : Char), (text.extract first (first + size + 1)).count bracket =
      ((text.drop (first + 1)).take size).count bracket + [opener].count bracket := by
    intro size bracket
    have length : first + size + 1 - first = size + 1 := by omega
    rw [List.extract_eq_take_drop, length, drop_of_getElem? opens, List.take_succ_cons,
      List.count_cons, List.count_singleton]
  have ownCount : [opener].count opener = 1 := by simp
  have otherCount : [opener].count closer = 0 := by simp [different.symm]
  have length : (text.drop (first + 1)).length = text.length - (first + 1) := List.length_drop
  have inText := (List.getElem?_eq_some_iff.mp opens).1
  constructor
  · rintro ⟨within, ordered, even, nearest⟩
    obtain ⟨size, rfl⟩ := Nat.exists_eq_add_of_le ordered
    rw [counts, counts, ownCount, otherCount] at even
    have nearestSize : ∀ shorter < size, ((text.drop (first + 1)).take shorter).count opener + 1 ≠
        ((text.drop (first + 1)).take shorter).count closer := by
      intro shorter less
      have earlier := nearest (first + shorter) (by omega) (by omega)
      rwa [counts, counts, ownCount, otherCount] at earlier
    rcases exists_balanced_of_first_close different (by omega) even nearestSize with
      ⟨inner, after, parts, balanced, rfl⟩
    exact ⟨inner, after, parts, balanced, by omega⟩
  · rintro ⟨inner, after, parts, balanced, rfl⟩
    rw [parts] at length counts
    rw [List.length_append, List.length_cons] at length
    have position : first + 1 + inner.length = first + (inner.length + 1) := by omega
    have close (size : Nat) (within : size ≤ inner.length + 1) :=
      first_close_of_balanced different balanced after within
    rw [position]
    refine ⟨by omega, by omega, ?_, fun middle less ordered => ?_⟩
    · rw [counts, counts, ownCount, otherCount]
      exact (close _ (Nat.le_refl _)).mpr rfl
    · obtain ⟨size, rfl⟩ := Nat.exists_eq_add_of_le ordered
      rw [counts, counts, ownCount, otherCount]
      exact fun even => absurd ((close size (by omega)).mp even) (by omega)

theorem IsBalancedFrom.wellNested (different : closer ≠ opener) {text : Text}
    (balanced : IsBalanced opener closer text) : WellNested (onePair opener closer) text := by
  induction size : text.length using Nat.strongRecOn generalizing text with
  | ind size induction =>
      cases text with
      | nil => exact .nil
      | cons c rest =>
          rw [List.length_cons] at size
          by_cases opens : c = opener
          · rw [opens] at balanced ⊢
            have raised : IsBalancedFrom opener closer (0 + 1 + 0) rest :=
              (isBalancedFrom_opener different).mp balanced
            rcases raised.exists_split different with ⟨inner, after, rfl, inside, later⟩
            rw [List.length_append, List.length_cons] at size
            exact .block (if_pos rfl) (induction _ (by omega) inside rfl)
              (induction _ (by omega) later rfl)
          · have notCloser : c ≠ closer := by
              rintro rfl
              exact not_isBalanced_closer different balanced
            have noCloser : ∀ other, onePair opener closer other ≠ some c := by
              intro other pair
              rw [onePair, Option.ite_none_right_eq_some, Option.some.injEq] at pair
              exact notCloser pair.2.symm
            exact .plain (if_neg opens) noCloser (induction _ (by omega)
              ((isBalancedFrom_plain opens notCloser).mp balanced) rfl)

end Counting

/-! ## Blocks -/

/-- What a search for the end of a bracket finds: the text up to the nearest position that closes
it and the text behind that position, or nothing if there is no such position. -/
structure FindsClose (opener closer : Char) (text : Text) (first : Nat)
    (found : Option (Text × Text)) : Prop where
  some_iff : ∀ inner after, found = some (inner, after) ↔
    ∃ last, ClosesAt opener closer text first last ∧ inner = text.extract (first + 1) last ∧
      after = text.drop (last + 1)
  none_iff : found = none ↔ ∀ last, ¬ClosesAt opener closer text first last
  nested : ∀ last, ClosesAt opener closer text first last →
    WellNested (onePair opener closer) (text.extract (first + 1) last)

section Search

variable {opener closer : Char} {text : Text} {first : Nat}

theorem ClosesAt.exists_parts (different : closer ≠ opener) (opens : text[first]? = some opener)
    {last : Nat} (closes : ClosesAt opener closer text first last) :
    text.drop (first + 1) =
        text.extract (first + 1) last ++ closer :: text.drop (last + 1) ∧
      IsBalanced opener closer (text.extract (first + 1) last) := by
  rcases (closesAt_iff different opens).mp closes with ⟨inner, after, parts, balanced, rfl⟩
  have inside : text.extract (first + 1) (first + 1 + inner.length) = inner := by
    rw [List.extract_eq_take_drop, Nat.add_sub_cancel_left, parts, List.take_left]
  have behind : text.drop (first + 1 + inner.length + 1) = after := by
    rw [Nat.add_assoc, ← List.drop_drop, parts, List.drop_append, Nat.add_sub_cancel_left,
      List.drop_eq_nil_of_le (Nat.le_succ _)]
    rfl
  rw [inside, behind]
  exact ⟨parts, balanced⟩

theorem findsClose_splitClose? (different : closer ≠ opener)
    (opens : text[first]? = some opener) :
    FindsClose opener closer text first
      (splitClose? opener closer 0 (text.drop (first + 1))) where
  some_iff inner after := by
    rw [splitClose?_eq_some_iff different]
    constructor
    · rintro ⟨parts, balanced⟩
      have closes := (closesAt_iff different opens).mpr ⟨inner, after, parts, balanced, rfl⟩
      refine ⟨_, closes, ?_, ?_⟩
      · rw [List.extract_eq_take_drop, Nat.add_sub_cancel_left, parts, List.take_left]
      · have whole := (closes.exists_parts different opens).1
        rw [List.extract_eq_take_drop, Nat.add_sub_cancel_left, parts, List.take_left] at whole
        exact (List.cons.inj (List.append_cancel_left whole)).2
    · rintro ⟨last, closes, rfl, rfl⟩
      exact closes.exists_parts different opens
  none_iff := by
    rw [splitClose?_eq_none_iff different]
    constructor
    · intro endless last closes
      rcases closes.exists_parts different opens with ⟨parts, balanced⟩
      exact endless _ _ parts balanced
    · intro endless inner after parts balanced
      exact endless _ ((closesAt_iff different opens).mpr ⟨inner, after, parts, balanced, rfl⟩)
  nested last closes :=
    (closes.exists_parts different opens).2.wellNested different

end Search

/-! ## Conditions -/

/-- Whether a position is the first one behind a mark that holds no blank. -/
structure StartsBehind (text : Text) (mark first : Nat) : Prop where
  behind : mark < first
  blank : ∀ c ∈ text.extract (mark + 1) first, isBlank c = true
  solid : ∃ c, text[first]? = some c ∧ isBlank c = false

section Condition

variable {text : Text} {mark first : Nat}

theorem startsBehind_cases (text : Text) (mark : Nat) :
    (∀ c ∈ text.drop (mark + 1), isBlank c = true) ∨ ∃ first, StartsBehind text mark first := by
  cases start : (text.drop (mark + 1)).dropWhile isBlank with
  | nil => exact .inl (List.dropWhile_eq_nil_iff.mp start)
  | cons c rest =>
      have parts := List.takeWhile_append_dropWhile (p := isBlank) (l := text.drop (mark + 1))
      generalize blanks : (text.drop (mark + 1)).takeWhile isBlank = front at parts
      rw [start] at parts
      refine .inr ⟨mark + 1 + front.length, ⟨by omega, fun d member => ?_, c, ?_, ?_⟩⟩
      · rw [List.extract_eq_take_drop, Nat.add_sub_cancel_left, ← parts, List.take_left,
          ← blanks] at member
        exact List.mem_takeWhile_imp member
      · rw [← List.getElem?_drop, ← parts, List.getElem?_append_right (Nat.le_refl _),
          Nat.sub_self, List.getElem?_cons_zero]
      · exact head?_dropWhile (by rw [start]; rfl)

theorem StartsBehind.dropWhile_eq (starts : StartsBehind text mark first) :
    (text.drop (mark + 1)).dropWhile isBlank = text.drop first := by
  rcases starts with ⟨behind, blank, c, here, solid⟩
  have parts : text.drop (mark + 1) = text.extract (mark + 1) first ++ text.drop first := by
    have later : text.drop first = (text.drop (mark + 1)).drop (first - (mark + 1)) := by
      rw [List.drop_drop, Nat.add_sub_cancel' behind]
    rw [later, List.extract_eq_take_drop, List.take_append_drop]
  rw [parts, List.dropWhile_append_of_pos blank, drop_of_getElem? here,
    List.dropWhile_cons_of_neg (by simp [solid])]

theorem StartsBehind.mem_drop (starts : StartsBehind text mark first) {c : Char}
    (here : text[first]? = some c) : c ∈ text.drop (mark + 1) := by
  have later : (text.drop (mark + 1))[first - (mark + 1)]? = some c := by
    rw [List.getElem?_drop, Nat.add_sub_cancel' starts.behind, here]
  exact List.mem_of_getElem? later

theorem takeCondition?_of_blank (blank : ∀ c ∈ text, isBlank c = true) :
    takeCondition? text = none := by
  rw [takeCondition?, List.dropWhile_eq_nil_iff.mpr blank]

theorem StartsBehind.takeCondition?_eq (starts : StartsBehind text mark first)
    {bracket : ConditionBracket} (opens : text[first]? = some bracket.opener) :
    takeCondition? (text.drop (mark + 1)) =
      splitClose? bracket.opener bracket.closer 0 (text.drop (first + 1)) := by
  rw [takeCondition?, starts.dropWhile_eq, drop_of_getElem? opens]
  cases bracket <;> rfl

theorem StartsBehind.takeCondition?_of_other (starts : StartsBehind text mark first) {c : Char}
    (here : text[first]? = some c) (other : ∀ bracket : ConditionBracket, bracket.opener ≠ c) :
    takeCondition? (text.drop (mark + 1)) = none := by
  rw [takeCondition?, starts.dropWhile_eq, drop_of_getElem? here]
  split
  · next equal => exact absurd (List.cons.inj equal).1.symm (other .round)
  · next equal => exact absurd (List.cons.inj equal).1.symm (other .angle)
  · rfl

theorem StartsBehind.unique {other : Nat} (starts : StartsBehind text mark first)
    (otherStarts : StartsBehind text mark other) : first = other := by
  rcases starts.solid with ⟨c, here, solid⟩
  rcases otherStarts.solid with ⟨d, otherHere, otherSolid⟩
  have inText := (List.getElem?_eq_some_iff.mp here).1
  have otherInText := (List.getElem?_eq_some_iff.mp otherHere).1
  have same := congrArg List.length (starts.dropWhile_eq.symm.trans otherStarts.dropWhile_eq)
  rw [List.length_drop, List.length_drop] at same
  omega

/-- What a search for a condition behind a mark finds: the text between its bracket and the nearest
position that closes it, and the text behind that position. Nothing is found if there is only blank,
if the first character that is not blank opens no condition, or if nothing closes the bracket. -/
structure FindsCondition (text : Text) (mark : Nat) (found : Option (Text × Text)) : Prop where
  some_iff : ∀ condition rest, found = some (condition, rest) ↔
    ∃ (bracket : ConditionBracket) (first last : Nat), StartsBehind text mark first ∧
      text[first]? = some bracket.opener ∧
      ClosesAt bracket.opener bracket.closer text first last ∧
      condition = text.extract (first + 1) last ∧ rest = text.drop (last + 1)
  none_iff : found = none ↔ (∀ c ∈ text.drop (mark + 1), isBlank c = true) ∨
    (∃ first c, StartsBehind text mark first ∧ text[first]? = some c ∧
      ∀ bracket : ConditionBracket, bracket.opener ≠ c) ∨
    ∃ (bracket : ConditionBracket) (first : Nat), StartsBehind text mark first ∧
      text[first]? = some bracket.opener ∧
      ∀ last, ¬ClosesAt bracket.opener bracket.closer text first last
  nested : ∀ (bracket : ConditionBracket) (first last : Nat), StartsBehind text mark first →
    text[first]? = some bracket.opener →
    ClosesAt bracket.opener bracket.closer text first last →
    WellNested (onePair bracket.opener bracket.closer) (text.extract (first + 1) last)

theorem ConditionBracket.different (bracket : ConditionBracket) :
    bracket.closer ≠ bracket.opener := by
  cases bracket <;> decide

theorem ConditionBracket.opener_injective {left right : ConditionBracket}
    (equal : left.opener = right.opener) : left = right := by
  revert equal
  cases left <;> cases right <;> decide

section Found

variable {bracket other : ConditionBracket} {otherFirst : Nat}

theorem StartsBehind.bracket_unique (starts : StartsBehind text mark first)
    (opens : text[first]? = some bracket.opener) (otherStarts : StartsBehind text mark otherFirst)
    (otherOpens : text[otherFirst]? = some other.opener) :
    otherFirst = first ∧ other = bracket := by
  cases otherStarts.unique starts
  exact ⟨rfl, ConditionBracket.opener_injective
    (Option.some.inj (otherOpens.symm.trans opens))⟩

theorem findsCondition_of_bracket (starts : StartsBehind text mark first)
    (opens : text[first]? = some bracket.opener) :
    FindsCondition text mark (takeCondition? (text.drop (mark + 1))) := by
  have finds := findsClose_splitClose? bracket.different opens
  rw [starts.takeCondition?_eq opens]
  refine ⟨fun condition rest => ?_, ?_, ?_⟩
  · rw [finds.some_iff]
    constructor
    · rintro ⟨last, found⟩
      exact ⟨bracket, first, last, starts, opens, found⟩
    · rintro ⟨other, otherFirst, last, otherStarts, otherOpens, found⟩
      rcases starts.bracket_unique opens otherStarts otherOpens with ⟨rfl, rfl⟩
      exact ⟨last, found⟩
  · rw [finds.none_iff]
    constructor
    · exact fun endless => .inr (.inr ⟨bracket, first, starts, opens, endless⟩)
    · rintro (blank | ⟨otherFirst, c, otherStarts, here, noBracket⟩ |
        ⟨other, otherFirst, otherStarts, otherOpens, endless⟩)
      · rcases starts.solid with ⟨c, here, solid⟩
        rw [blank c (starts.mem_drop here)] at solid
        cases solid
      · cases otherStarts.unique starts
        exact absurd (Option.some.inj (opens.symm.trans here)) (noBracket bracket)
      · rcases starts.bracket_unique opens otherStarts otherOpens with ⟨rfl, rfl⟩
        exact endless
  · intro other otherFirst last otherStarts otherOpens closes
    rcases starts.bracket_unique opens otherStarts otherOpens with ⟨rfl, rfl⟩
    exact finds.nested last closes

theorem findsCondition_of_other (starts : StartsBehind text mark first) {c : Char}
    (here : text[first]? = some c) (noBracket : ∀ bracket : ConditionBracket, bracket.opener ≠ c) :
    FindsCondition text mark (takeCondition? (text.drop (mark + 1))) := by
  have noOpener : ∀ (other : ConditionBracket) (otherFirst : Nat),
      StartsBehind text mark otherFirst → text[otherFirst]? ≠ some other.opener := by
    intro other otherFirst otherStarts opens
    cases otherStarts.unique starts
    exact noBracket other (Option.some.inj (opens.symm.trans here))
  rw [starts.takeCondition?_of_other here noBracket]
  refine ⟨fun _ _ => ⟨nofun, ?_⟩, iff_of_true rfl (.inr (.inl ⟨first, c, starts, here, noBracket⟩)),
    ?_⟩
  · rintro ⟨other, otherFirst, _, otherStarts, opens, _⟩
    exact absurd opens (noOpener other otherFirst otherStarts)
  · exact fun other otherFirst _ otherStarts opens =>
      absurd opens (noOpener other otherFirst otherStarts)

theorem findsCondition_of_blank (blank : ∀ c ∈ text.drop (mark + 1), isBlank c = true) :
    FindsCondition text mark (takeCondition? (text.drop (mark + 1))) := by
  have noStart : ∀ first, ¬StartsBehind text mark first := by
    intro first starts
    rcases starts.solid with ⟨c, here, solid⟩
    rw [blank c (starts.mem_drop here)] at solid
    cases solid
  rw [takeCondition?_of_blank blank]
  refine ⟨fun _ _ => ⟨nofun, ?_⟩, iff_of_true rfl (.inl blank), ?_⟩
  · rintro ⟨_, first, _, starts, _⟩
    exact absurd starts (noStart first)
  · exact fun _ first _ starts => absurd starts (noStart first)

theorem findsCondition_takeCondition? (text : Text) (mark : Nat) :
    FindsCondition text mark (takeCondition? (text.drop (mark + 1))) := by
  rcases startsBehind_cases text mark with blank | ⟨first, starts⟩
  · exact findsCondition_of_blank blank
  · rcases starts.solid with ⟨c, here, _⟩
    by_cases isBracket : ∃ bracket : ConditionBracket, bracket.opener = c
    · rcases isBracket with ⟨bracket, rfl⟩
      exact findsCondition_of_bracket starts here
    · exact findsCondition_of_other starts here fun bracket equal => isBracket ⟨bracket, equal⟩

end Found

end Condition

/-! ## Both searches -/

/-- Searching for the end of a block, and for the condition behind a mark, finds the nearest
position up to which the brackets of the kind that opened it are even. Where a block has no such
position its rewriting fails with the mark in front of it. -/
theorem search_finds_nearest (text : Text) :
    (∀ first opener closer, text[first]? = some opener → blockCloser? opener = some closer →
      FindsClose opener closer text first (splitClose? opener closer 0 (text.drop (first + 1))) ∧
      ∀ (handlers : Handlers) (mark : Char) (offset : Nat), handlers mark ≠ none →
        (∀ last, ¬ClosesAt opener closer text first last) →
        rewriteFrom handlers offset (mark :: text.drop first) =
          .error (.source (.unbalanced mark offset))) ∧
      ∀ mark, FindsCondition text mark (takeCondition? (text.drop (mark + 1))) := by
  refine ⟨fun first opener closer opens pair => ?_, findsCondition_takeCondition? text⟩
  have finds := findsClose_splitClose? (blockCloser?_isPairing.different pair) opens
  refine ⟨finds, fun handlers mark offset marked endless => ?_⟩
  rcases Option.ne_none_iff_exists'.mp marked with ⟨handler, handled⟩
  rw [drop_of_getElem? opens]
  exact rewriteFrom_of_unbalanced handled pair (finds.none_iff.mpr endless) offset

theorem search_finds_nearest_nested :
    "Σ⟨a⟨\x7d⟩⟩⟩".toList[1]? = some '⟨' ∧ blockCloser? '⟨' = some '⟩' ∧
      ClosesAt '⟨' '⟩' "Σ⟨a⟨\x7d⟩⟩⟩".toList 1 6 ∧
      splitClose? '⟨' '⟩' 0 "a⟨\x7d⟩⟩⟩".toList = some ("a⟨\x7d⟩".toList, ['⟩']) ∧
      WellNested (onePair '⟨' '⟩') "a⟨\x7d⟩".toList := by
  have opens : "Σ⟨a⟨\x7d⟩⟩⟩".toList[1]? = some '⟨' := by decide
  have closes : ClosesAt '⟨' '⟩' "Σ⟨a⟨\x7d⟩⟩⟩".toList 1 6 := by decide
  have finds := ((search_finds_nearest "Σ⟨a⟨\x7d⟩⟩⟩".toList).1 1 '⟨' '⟩' opens rfl).1
  exact ⟨opens, rfl, closes,
    (finds.some_iff _ _).mpr ⟨6, closes, by decide, by decide⟩, finds.nested 6 closes⟩

end SymbolScript.Construct
