import SymbolScript.Construct.Component
import SymbolScript.Construct.Function
import SymbolScript.Proofs.Construct.Field
import SymbolScript.Proofs.Text.Recogniser

/-!
Tagged blocks are cut out at their own closing tags, with the name, the parameters and the body
that were written.
-/

namespace SymbolScript.Construct

open Text

/-! ## Closing tags -/

theorem startsClosingTag_iff {tag : Char} {text : Text} :
    startsClosingTag tag text = true ↔ ∃ opener closer rest, isOpener opener = true ∧
      isCloser closer = true ∧ text = opener :: '/' :: tag :: closer :: rest := by
  constructor
  · intro starts
    unfold startsClosingTag at starts
    split at starts
    · next opener c closer rest =>
      simp only [Bool.and_eq_true, beq_iff_eq] at starts
      exact ⟨opener, closer, rest, starts.1.1, starts.2, by rw [starts.1.2]⟩
    · cases starts
  · rintro ⟨opener, closer, rest, opens, closes, rfl⟩
    simp [startsClosingTag, opens, closes]

/-- Whether no closing tag stands in a text. -/
def HoldsNoClosingTag (tag : Char) (text : Text) : Prop :=
  ∀ opener closer, isOpener opener = true → isCloser closer = true →
    ¬[opener, '/', tag, closer] <:+: text

theorem holdsNoClosingTag_nil (tag : Char) : HoldsNoClosingTag tag [] :=
  fun _ _ _ _ inside => nomatch List.infix_nil.mp inside

theorem holdsNoClosingTag_cons_iff {tag c : Char} {rest : Text} :
    HoldsNoClosingTag tag (c :: rest) ↔
      startsClosingTag tag (c :: rest) = false ∧ HoldsNoClosingTag tag rest := by
  rw [← Bool.not_eq_true, startsClosingTag_iff]
  constructor
  · intro none
    refine ⟨?_, fun opener closer opens closes inside =>
      none opener closer opens closes (List.infix_cons inside)⟩
    rintro ⟨opener, closer, others, opens, closes, parts⟩
    exact none opener closer opens closes ⟨[], others, parts.symm⟩
  · rintro ⟨notHere, later⟩ opener closer opens closes inside
    rcases List.infix_cons_iff.mp inside with ⟨others, parts⟩ | inRest
    · exact notHere ⟨opener, closer, others, opens, closes, parts.symm⟩
    · exact later opener closer opens closes inRest

theorem holdsNoClosingTag_of_not_mem {tag : Char} {text : Text} (absent : tag ∉ text) :
    HoldsNoClosingTag tag text :=
  fun _ _ _ _ inside => absent (inside.subset (by simp))

theorem startsClosingTag_cons (tag first second third fourth : Char) (rest : Text) :
    startsClosingTag tag (first :: second :: third :: fourth :: rest) =
      (second == '/' && (isOpener first && third == tag && isCloser fourth)) := by
  by_cases slash : second = '/' <;> simp [startsClosingTag, slash]

theorem startsClosingTag_of_short (tag first second third : Char) :
    startsClosingTag tag [first, second, third] = false := by
  by_cases slash : second = '/' <;> simp [startsClosingTag, slash]

theorem startsClosingTag_append {opener : Char} (opens : isOpener opener = true) (tag c : Char)
    (right rest : Text) :
    startsClosingTag tag (c :: (right ++ opener :: '/' :: rest)) =
      startsClosingTag tag (c :: right) := by
  have different : opener ≠ '/' ∧ isCloser opener = false := by
    rw [isOpener, Bool.or_eq_true, beq_iff_eq, beq_iff_eq] at opens
    rcases opens with rfl | rfl <;> decide
  have slash : isCloser '/' = false := by decide
  match right with
  | [] =>
      cases rest with
      | nil => exact startsClosingTag_of_short tag c opener '/'
      | cons d rest =>
          rw [List.nil_append, startsClosingTag_cons]
          simp [startsClosingTag, different]
  | [d] =>
      rw [List.singleton_append, startsClosingTag_cons, slash]
      simp [startsClosingTag]
  | [d, e] =>
      rw [List.cons_append, List.singleton_append, startsClosingTag_cons, different.2,
        startsClosingTag_of_short]
      simp
  | d :: e :: f :: others =>
      simp only [List.cons_append, startsClosingTag_cons]

theorem splitClosingTag?_eq_some_iff {tag : Char} {text before after : Text} :
    splitClosingTag? tag text = some (before, after) ↔ HoldsNoClosingTag tag before ∧
      ∃ opener closer, isOpener opener = true ∧ isCloser closer = true ∧
        text = before ++ opener :: '/' :: tag :: closer :: after := by
  induction text generalizing before with
  | nil => simp [splitClosingTag?]
  | cons c text induction =>
      rw [splitClosingTag?]
      by_cases starts : startsClosingTag tag (c :: text) = true
      · rw [if_pos starts]
        rcases startsClosingTag_iff.mp starts with ⟨opener, closer, rest, opens, closes, parts⟩
        cases parts
        constructor
        · intro split
          cases split
          exact ⟨holdsNoClosingTag_nil tag, c, closer, opens, closes, rfl⟩
        · rintro ⟨none, otherOpener, otherCloser, otherOpens, _, others⟩
          cases before with
          | nil =>
              cases others
              rfl
          | cons d before =>
              -- The cut would come after the closing tag that the text starts with.
              have earlier := (holdsNoClosingTag_cons_iff.mp none).1
              rw [← startsClosingTag_append otherOpens, ← List.cons_append, ← others] at earlier
              rw [earlier] at starts
              cases starts
      · rw [if_neg starts, Option.map_eq_some_iff]
        constructor
        · rintro ⟨⟨inner, outer⟩, split, equal⟩
          cases equal
          rcases induction.mp split with ⟨none, opener, closer, opens, closes, parts⟩
          rw [parts, startsClosingTag_append opens] at starts
          exact ⟨holdsNoClosingTag_cons_iff.mpr ⟨by simpa using starts, none⟩, opener, closer, opens,
            closes, by rw [parts, List.cons_append]⟩
        · rintro ⟨none, opener, closer, opens, closes, parts⟩
          cases before with
          | nil =>
              rw [parts, List.nil_append] at starts
              exact absurd (startsClosingTag_iff.mpr ⟨opener, closer, after, opens, closes, rfl⟩)
                starts
          | cons d before =>
              rcases List.cons.inj parts with ⟨rfl, later⟩
              exact ⟨(before, after), induction.mpr
                ⟨(holdsNoClosingTag_cons_iff.mp none).2, opener, closer, opens, closes, later⟩, rfl⟩

theorem splitClosingTag?_eq_none_iff {tag : Char} {text : Text} :
    splitClosingTag? tag text = none ↔ HoldsNoClosingTag tag text := by
  induction text with
  | nil => exact iff_of_true rfl (holdsNoClosingTag_nil tag)
  | cons c rest induction =>
      rw [splitClosingTag?, holdsNoClosingTag_cons_iff, ← induction]
      cases startsClosingTag tag (c :: rest) <;> simp

instance (tag : Char) (text : Text) : Decidable (HoldsNoClosingTag tag text) :=
  decidable_of_iff _ splitClosingTag?_eq_none_iff

theorem splitClosingTag?_append {tag opener closer : Char} {body : Text}
    (opens : isOpener opener = true) (closes : isCloser closer = true)
    (noClosing : HoldsNoClosingTag tag body) (rest : Text) :
    splitClosingTag? tag (body ++ opener :: '/' :: tag :: closer :: rest) = some (body, rest) :=
  splitClosingTag?_eq_some_iff.mpr ⟨noClosing, opener, closer, opens, closes, rfl⟩

/-! ## Headers -/

/-- A name that a header can hold: no character in it ends it. -/
structure IsHeaderName (isExcluded : Char → Bool) (name : Text) : Prop where
  filled : name ≠ []
  inside : ∀ c ∈ name, isBlockBracket c = false ∧ c ≠ ',' ∧ isExcluded c = false

section Header

variable {isExcluded : Char → Bool} {opener closer : Char} {name : Text}

theorem isCloser_cases (closes : isCloser closer = true) : closer = '⟩' ∨ closer = '}' := by
  rwa [isCloser, Bool.or_eq_true, beq_iff_eq, beq_iff_eq] at closes

theorem takeRun_name (named : IsHeaderName isExcluded name) {stop : Char}
    (stops : stop = ',' ∨ isCloser stop = true) (rest : Text) :
    takeRun (fun c => !isBlockBracket c && c != ',' && !isExcluded c) (name ++ stop :: rest) =
      (name, stop :: rest) := by
  apply takeRun_append
  · intro c member
    simp [named.inside c member]
  · intro c first
    cases first
    rcases stops with rfl | closes
    · rfl
    · simp [isBlockBracket, closes]

theorem takeHeader?_of_name (opens : isOpener opener = true) (closes : isCloser closer = true)
    (named : IsHeaderName isExcluded name) (rest : Text) :
    takeHeader? isExcluded (opener :: (name ++ closer :: rest)) = some ((name, []), rest) := by
  rw [takeHeader?, if_pos opens]
  simp only [takeRun_name named (.inr closes)]
  cases name with
  | nil => exact absurd rfl named.filled
  | cons c name => rcases isCloser_cases closes with rfl | rfl <;> rfl

theorem takeHeader?_of_list (opens : isOpener opener = true) (closes : isCloser closer = true)
    (named : IsHeaderName isExcluded name) {list : Text}
    (plain : ∀ c ∈ list, isBlockBracket c = false) (rest : Text) :
    takeHeader? isExcluded (opener :: (name ++ ',' :: (list ++ closer :: rest))) =
      some ((name, list), rest) := by
  have run : takeRun (fun c => !isBlockBracket c) (list ++ closer :: rest) =
      (list, closer :: rest) := by
    apply takeRun_append
    · intro c member
      simp [plain c member]
    · intro c first
      cases first
      simp [isBlockBracket, closes]
  have filled := named.filled
  rw [takeHeader?, if_pos opens]
  simp only [takeRun_name named (.inl rfl), run]
  cases name with
  | nil => exact absurd rfl filled
  | cons c name => exact if_pos closes

theorem takeHeader?_parts {text list rest : Text}
    (taken : takeHeader? isExcluded text = some ((name, list), rest)) :
    ∃ opener closer, isOpener opener = true ∧ isCloser closer = true ∧
      IsHeaderName isExcluded name ∧ (∀ c ∈ list, isBlockBracket c = false) ∧
      (text = opener :: (name ++ closer :: rest) ∧ list = [] ∨
        text = opener :: (name ++ ',' :: (list ++ closer :: rest))) := by
  unfold takeHeader? at taken
  split at taken
  · next opener body =>
    split at taken
    · next opens =>
      simp only at taken
      -- The run in front of the comma or the bracket is the name.
      have isName : ∀ {run after}, run ≠ [] →
          takeRun (fun c => !isBlockBracket c && c != ',' && !isExcluded c) body = (run, after) →
          body = run ++ after ∧ IsHeaderName isExcluded run := by
        intro run after filled runEqual
        rcases takeRun_parts runEqual with ⟨parts, inside⟩
        exact ⟨parts.symm, filled, fun c member => by simpa [and_assoc] using inside c member⟩
      split at taken
      · cases taken
      · next run listText filled runEqual =>
        rcases isName (by simpa using filled) runEqual with ⟨parts, named⟩
        split at taken
        · next listRun =>
          split at taken
          · next closes =>
            cases taken
            rcases takeRun_parts listRun with ⟨listParts, inside⟩
            exact ⟨opener, _, opens, closes, named, fun c member => by simpa using inside c member,
              .inr (by rw [parts, ← listParts])⟩
          · cases taken
        · cases taken
      · next filled _ runEqual =>
        rcases isName (by simpa using filled) runEqual with ⟨parts, named⟩
        split at taken
        · next closes =>
          cases taken
          exact ⟨opener, _, opens, closes, named, by simp, .inl ⟨by rw [parts], rfl⟩⟩
        · cases taken
      · cases taken
    · cases taken
  · cases taken

end Header

end SymbolScript.Construct
