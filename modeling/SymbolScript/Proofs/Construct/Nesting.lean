import SymbolScript.Construct.Bracket
import SymbolScript.Proofs.Text.Recogniser

/-!
Well-nested texts. Counting the brackets of one kind finds the end of a block in any text whose
brackets of all kinds are nested. For block brackets, a text is well nested exactly if reading it
with a stack of closing brackets that are due leaves the stack as it was, so that parts of a text
can be replaced one at a time.
-/

namespace SymbolScript.Construct

open Text

/-! ## Nesting -/

/-- Texts in which every opening bracket is closed by its own closing bracket and brackets of
different kinds do not overlap. The function gives the closing bracket of each opening one. -/
inductive WellNested (closer? : Char → Option Char) : Text → Prop
  | nil : WellNested closer? []
  | plain {c : Char} {rest : Text} (noOpener : closer? c = none)
      (noCloser : ∀ opener, closer? opener ≠ some c) (nested : WellNested closer? rest) :
      WellNested closer? (c :: rest)
  | block {opener closer : Char} {inner rest : Text} (pair : closer? opener = some closer)
      (inside : WellNested closer? inner) (after : WellNested closer? rest) :
      WellNested closer? (opener :: (inner ++ closer :: rest))

structure IsPairing (closer? : Char → Option Char) : Prop where
  injective : ∀ {left right closer : Char}, closer? left = some closer →
    closer? right = some closer → left = right
  apart : ∀ {opener closer : Char}, closer? opener = some closer → closer? closer = none

theorem blockCloser?_eq_some {opener closer : Char} (pair : blockCloser? opener = some closer) :
    opener = '⟨' ∧ closer = '⟩' ∨ opener = '{' ∧ closer = '}' := by
  unfold blockCloser? at pair
  split at pair
  · next angle =>
    cases pair
    exact .inl ⟨angle, rfl⟩
  · split at pair
    · next brace =>
      cases pair
      exact .inr ⟨brace, rfl⟩
    · cases pair

theorem blockCloser?_isPairing : IsPairing blockCloser? where
  injective := by
    intro left right closer leftPair rightPair
    rcases blockCloser?_eq_some leftPair with ⟨rfl, rfl⟩ | ⟨rfl, rfl⟩ <;>
      rcases blockCloser?_eq_some rightPair with ⟨rfl, equal⟩ | ⟨rfl, equal⟩
    · rfl
    · exact absurd equal (by decide)
    · exact absurd equal (by decide)
    · rfl
  apart := by
    intro opener closer pair
    rcases blockCloser?_eq_some pair with ⟨rfl, rfl⟩ | ⟨rfl, rfl⟩ <;> decide

def onePair (opener closer : Char) (c : Char) : Option Char :=
  if c = opener then some closer else none

theorem onePair_isPairing {opener closer : Char} (different : closer ≠ opener) :
    IsPairing (onePair opener closer) where
  injective := by
    intro left right other leftPair rightPair
    rw [onePair, Option.ite_none_right_eq_some] at leftPair rightPair
    exact leftPair.1.trans rightPair.1.symm
  apart := by
    intro left other pair
    rw [onePair, Option.ite_none_right_eq_some, Option.some.injEq] at pair
    rw [onePair, ← pair.2]
    exact if_neg different

/-! ## The end of a block -/

section SplitClose

variable {opener closer : Char}

theorem splitClose?_plain {c : Char} (noOpener : c ≠ opener) (noCloser : c ≠ closer) (depth : Nat)
    (rest : Text) :
    splitClose? opener closer depth (c :: rest) =
      (splitClose? opener closer depth rest).map fun (before, after) => (c :: before, after) := by
  rw [splitClose?.eq_def]
  simp only [noOpener, noCloser, if_false]

theorem splitClose?_opener (depth : Nat) (rest : Text) :
    splitClose? opener closer depth (opener :: rest) =
      (splitClose? opener closer (depth + 1) rest).map fun (before, after) =>
        (opener :: before, after) := by
  rw [splitClose?.eq_def]
  simp only [if_true]

theorem splitClose?_inner_closer (different : closer ≠ opener) (depth : Nat) (rest : Text) :
    splitClose? opener closer (depth + 1) (closer :: rest) =
      (splitClose? opener closer depth rest).map fun (before, after) =>
        (closer :: before, after) := by
  rw [splitClose?, if_neg different, if_pos rfl]

theorem splitClose?_last_closer (different : closer ≠ opener) (rest : Text) :
    splitClose? opener closer 0 (closer :: rest) = some ([], rest) := by
  rw [splitClose?, if_neg different, if_pos rfl]

end SplitClose

theorem IsPairing.different {closer? : Char → Option Char} (pairing : IsPairing closer?)
    {opener closer : Char} (pair : closer? opener = some closer) : closer ≠ opener := by
  rintro rfl
  rw [pairing.apart pair] at pair
  cases pair

theorem splitClose?_append_of_wellNested {closer? : Char → Option Char}
    (pairing : IsPairing closer?) {opener closer : Char} (pair : closer? opener = some closer)
    {inner : Text} (nested : WellNested closer? inner) (depth : Nat) (rest : Text) :
    splitClose? opener closer depth (inner ++ rest) =
      (splitClose? opener closer depth rest).map fun (before, after) =>
        (inner ++ before, after) := by
  induction nested generalizing depth rest with
  | nil =>
      rw [List.nil_append]
      cases splitClose? opener closer depth rest <;> rfl
  | @plain c inner noOpener noCloser _ induction =>
      have notOpener : c ≠ opener := by
        rintro rfl
        rw [noOpener] at pair
        cases pair
      have notCloser : c ≠ closer := by
        rintro rfl
        exact noCloser opener pair
      rw [List.cons_append, splitClose?_plain notOpener notCloser, induction]
      cases splitClose? opener closer depth rest <;> rfl
  | @block other otherCloser inner after otherPair _ _ insideInduction afterInduction =>
      rw [List.cons_append, List.append_assoc, List.cons_append]
      by_cases same : other = opener
      · -- A block of the same kind raises the depth until its own end.
        subst same
        have sameCloser : otherCloser = closer := Option.some.inj (otherPair.symm.trans pair)
        subst sameCloser
        rw [splitClose?_opener, insideInduction,
          splitClose?_inner_closer (pairing.different pair), afterInduction]
        cases splitClose? other otherCloser depth rest <;> simp
      · -- The brackets of a block of another kind count as plain characters.
        have notCloser : other ≠ closer := by
          rintro rfl
          rw [pairing.apart pair] at otherPair
          cases otherPair
        have closerNotOpener : otherCloser ≠ opener := by
          rintro rfl
          rw [pairing.apart otherPair] at pair
          cases pair
        have closerNotCloser : otherCloser ≠ closer := by
          rintro rfl
          exact same (pairing.injective otherPair pair)
        rw [splitClose?_plain same notCloser, insideInduction,
          splitClose?_plain closerNotOpener closerNotCloser, afterInduction]
        cases splitClose? opener closer depth rest <;> simp

theorem splitClose?_of_wellNested {closer? : Char → Option Char} (pairing : IsPairing closer?)
    {opener closer : Char} (pair : closer? opener = some closer) {inner : Text}
    (nested : WellNested closer? inner) (rest : Text) :
    splitClose? opener closer 0 (inner ++ closer :: rest) = some (inner, rest) := by
  rw [splitClose?_append_of_wellNested pairing pair nested,
    splitClose?_last_closer (pairing.different pair)]
  simp

/-! ## Closing brackets that are due -/

/-- The closing brackets that are due after a character, innermost first, if those are due in front
of it. There are none if the character is a closing bracket that is not due. -/
def dueStep? (due : List Char) (c : Char) : Option (List Char) :=
  match blockCloser? c with
  | some closer => some (closer :: due)
  | none =>
    if isCloser c then
      match due with
      | [] => none
      | next :: outer => if c = next then some outer else none
    else some due

def dueAfter? (due : List Char) (text : Text) : Option (List Char) :=
  text.foldlM dueStep? due

example : dueAfter? [] "f\x7b⟨a⟩".toList = some ['}'] := by decide

theorem isCloser_iff (c : Char) : isCloser c = true ↔ ∃ opener, blockCloser? opener = some c := by
  constructor
  · intro closes
    rw [isCloser, Bool.or_eq_true, beq_iff_eq, beq_iff_eq] at closes
    rcases closes with rfl | rfl
    · exact ⟨'⟨', rfl⟩
    · exact ⟨'{', rfl⟩
  · rintro ⟨opener, pair⟩
    rcases blockCloser?_eq_some pair with ⟨_, rfl⟩ | ⟨_, rfl⟩ <;> decide

theorem dueAfter?_cons (due : List Char) (c : Char) (rest : Text) :
    dueAfter? due (c :: rest) = (dueStep? due c).bind fun next => dueAfter? next rest := by
  rw [dueAfter?, List.foldlM_cons]
  rfl

theorem dueAfter?_append (due : List Char) (left right : Text) :
    dueAfter? due (left ++ right) = (dueAfter? due left).bind fun next => dueAfter? next right := by
  rw [dueAfter?, List.foldlM_append]
  rfl

theorem dueAfter?_opener {opener closer : Char} (pair : blockCloser? opener = some closer)
    (due : List Char) (rest : Text) :
    dueAfter? due (opener :: rest) = dueAfter? (closer :: due) rest := by
  rw [dueAfter?_cons, dueStep?.eq_def, pair]
  rfl

theorem dueAfter?_closer {opener closer : Char} (pair : blockCloser? opener = some closer)
    (due : List Char) (rest : Text) :
    dueAfter? (closer :: due) (closer :: rest) = dueAfter? due rest := by
  rw [dueAfter?_cons, dueStep?, blockCloser?_isPairing.apart pair]
  simp [(isCloser_iff closer).mpr ⟨opener, pair⟩]

theorem isOpener_iff (c : Char) : isOpener c = true ↔ blockCloser? c ≠ none := by
  unfold isOpener blockCloser?
  split
  · next angle => simp [angle]
  · split
    · next brace => simp [brace]
    · next noAngle noBrace => simp [noAngle, noBrace]

theorem isBlockBracket_iff (c : Char) :
    isBlockBracket c = true ↔ c = '⟨' ∨ c = '{' ∨ c = '⟩' ∨ c = '}' := by
  simp only [isBlockBracket, isOpener, isCloser, Bool.or_eq_true, beq_iff_eq, or_assoc]

theorem dueAfter?_of_closer {closer next : Char} {due final : List Char} {rest : Text}
    (closes : isCloser closer = true)
    (read : dueAfter? (next :: due) (closer :: rest) = some final) :
    closer = next ∧ dueAfter? due rest = some final := by
  rcases (isCloser_iff closer).mp closes with ⟨opener, pair⟩
  by_cases isNext : closer = next
  · rw [← isNext, dueAfter?_closer pair] at read
    exact ⟨isNext, read⟩
  · rw [dueAfter?_cons, dueStep?, blockCloser?_isPairing.apart pair] at read
    simp [closes, isNext] at read

theorem isBlockBracket_of_class {inClass : Char → Bool}
    (outside : ∀ bracket ∈ ['⟨', '{', '⟩', '}'], inClass bracket = false) {c : Char}
    (inside : inClass c = true) : isBlockBracket c = false := by
  by_contra bracket
  rw [outside c (by simpa using (isBlockBracket_iff c).mp (by simpa using bracket))] at inside
  cases inside

theorem dueAfter?_plain {c : Char} (plain : isBlockBracket c = false) (due : List Char)
    (rest : Text) : dueAfter? due (c :: rest) = dueAfter? due rest := by
  rw [isBlockBracket, Bool.or_eq_false_iff] at plain
  have noOpener : blockCloser? c = none := by
    by_contra opens
    rw [(isOpener_iff c).mpr opens] at plain
    cases plain.1
  rw [dueAfter?_cons, dueStep?.eq_def, noOpener]
  simp [plain.2]

theorem dueAfter?_filter (due : List Char) (text : Text) :
    dueAfter? due (text.filter isBlockBracket) = dueAfter? due text := by
  induction text generalizing due with
  | nil => rfl
  | cons c rest induction =>
      cases bracket : isBlockBracket c with
      | false =>
          rw [List.filter_cons_of_neg (by simp [bracket]), induction, dueAfter?_plain bracket]
      | true =>
          rw [List.filter_cons_of_pos bracket, dueAfter?_cons, dueAfter?_cons]
          congr
          funext next
          exact induction next

theorem dueAfter?_of_no_bracket {text : Text} (plain : ∀ c ∈ text, isBlockBracket c = false)
    (due : List Char) : dueAfter? due text = some due := by
  have empty : text.filter isBlockBracket = [] := by
    rw [List.filter_eq_nil_iff]
    intro c member
    simp [plain c member]
  rw [← dueAfter?_filter, empty]
  rfl

theorem dueAfter?_append_of_no_bracket {before : Text}
    (plain : ∀ c ∈ before, isBlockBracket c = false) (due : List Char) (rest : Text) :
    dueAfter? due (before ++ rest) = dueAfter? due rest := by
  rw [dueAfter?_append, dueAfter?_of_no_bracket plain, Option.bind_some]

/-! ## Nesting by due brackets -/

theorem isBlockBracket_eq_false_iff (c : Char) : isBlockBracket c = false ↔
    blockCloser? c = none ∧ ∀ opener, blockCloser? opener ≠ some c := by
  rw [isBlockBracket, Bool.or_eq_false_iff, ← Bool.not_eq_true, ← Bool.not_eq_true, isOpener_iff,
    isCloser_iff, not_not, not_exists]

theorem dueAfter?_of_wellNested {text : Text} (nested : WellNested blockCloser? text)
    (due : List Char) : dueAfter? due text = some due := by
  induction nested generalizing due with
  | nil => rfl
  | @plain c rest noOpener noCloser _ induction =>
      have plain : isBlockBracket c = false :=
        (isBlockBracket_eq_false_iff c).mpr ⟨noOpener, noCloser⟩
      rw [dueAfter?_plain plain, induction]
  | @block opener closer inner rest pair _ _ insideInduction afterInduction =>
      rw [dueAfter?_opener pair, dueAfter?_append, insideInduction]
      exact (dueAfter?_closer pair due rest).trans (afterInduction due)

/-- A text that leaves nothing due starts with a well-nested part; then it ends, or the bracket
that is due first stands there. -/
theorem exists_wellNested_before (text : Text) (due : List Char)
    (read : dueAfter? due text = some []) :
    ∃ inner rest, text = inner ++ rest ∧ WellNested blockCloser? inner ∧
      (rest = [] ∧ due = [] ∨
        ∃ closer outer after, due = closer :: outer ∧ rest = closer :: after ∧
          dueAfter? outer after = some []) := by
  match text with
  | [] =>
      cases read
      exact ⟨[], [], rfl, .nil, .inl ⟨rfl, rfl⟩⟩
  | c :: rest =>
      cases opens : blockCloser? c with
      | some closer =>
          rw [dueAfter?_opener opens] at read
          rcases exists_wellNested_before rest (closer :: due) read with
            ⟨inner, _, split, inside, ⟨_, noneDue⟩ | ⟨_, _, after, isDue, rfl, readAfter⟩⟩
          · cases noneDue
          · cases isDue
            -- The block that opens here ends where its bracket is due; the search goes on behind.
            have shorter : after.length < rest.length := by
              rw [split, List.length_append, List.length_cons]
              omega
            rcases exists_wellNested_before after due readAfter with
              ⟨beside, final, splitAfter, besideNested, ending⟩
            refine ⟨c :: (inner ++ closer :: beside), final, ?_, .block opens inside besideNested,
              ending⟩
            rw [split, splitAfter, List.cons_append, List.append_assoc, List.cons_append]
      | none =>
          cases closes : isCloser c with
          | true =>
              simp only [dueAfter?_cons, dueStep?, opens, closes, if_true] at read
              cases due with
              | nil => cases read
              | cons next outer =>
                  by_cases isNext : c = next
                  · simp only [if_pos isNext, Option.bind_some] at read
                    exact ⟨[], c :: rest, rfl, .nil,
                      .inr ⟨c, outer, rest, by rw [isNext], rfl, read⟩⟩
                  · simp [if_neg isNext] at read
          | false =>
              have noCloser : ∀ opener, blockCloser? opener ≠ some c := by
                intro opener pair
                rw [(isCloser_iff c).mpr ⟨opener, pair⟩] at closes
                cases closes
              rw [dueAfter?_plain ((isBlockBracket_eq_false_iff c).mpr ⟨opens, noCloser⟩)] at read
              rcases exists_wellNested_before rest due read with
                ⟨inner, final, split, inside, ending⟩
              exact ⟨c :: inner, final, by rw [split, List.cons_append],
                .plain opens noCloser inside, ending⟩
termination_by text.length

theorem wellNested_iff (text : Text) :
    WellNested blockCloser? text ↔ dueAfter? [] text = some [] := by
  constructor
  · intro nested
    exact dueAfter?_of_wellNested nested []
  · intro read
    rcases exists_wellNested_before text [] read with
      ⟨inner, _, rfl, inside, ⟨rfl, _⟩ | ⟨_, _, _, isDue, _⟩⟩
    · rwa [List.append_nil]
    · cases isDue

theorem WellNested.append_of_no_bracket {before rest : Text}
    (plain : ∀ c ∈ before, isBlockBracket c = false) (nested : WellNested blockCloser? rest) :
    WellNested blockCloser? (before ++ rest) := by
  rw [wellNested_iff, dueAfter?_append_of_no_bracket plain]
  exact (wellNested_iff rest).mp nested

/-! ## Replacing matches -/

section Replace

variable {Match : Type} {ε : Type} {recogniser : Recogniser Match}

/-- Putting texts in place of matches keeps nesting, if no match opens or closes a bracket of the
text around it and neither does what is put in its place. -/
theorem WellNested.replaceOr {spell : Match → Except ε Text} {text result : Text}
    (each : ∀ text value after shown due final, recogniser.take text = some (value, after) →
      spell value = .ok shown → dueAfter? due text = some final →
      dueAfter? due shown = some due ∧ dueAfter? due after = some final)
    (nested : WellNested blockCloser? text)
    (replaced : recogniser.replaceOr spell text = .ok result) :
    WellNested blockCloser? result := by
  have kept : ∀ due final, dueAfter? due text = some final → dueAfter? due result = some final := by
    apply recogniser.replaceOr_induction spell ?_ ?_ ?_ text replaced
    · intro due final read
      exact read
    · intro c rest done _ induction due final read
      rw [dueAfter?_cons] at read ⊢
      rcases Option.bind_eq_some_iff.mp read with ⟨next, step, later⟩
      rw [step]
      exact induction next final later
    · intro text value after shown done taken spelled induction due final read
      rcases each text value after shown due final taken spelled read with ⟨neutral, later⟩
      rw [dueAfter?_append, neutral]
      exact induction due final later
  exact (wellNested_iff result).mpr (kept [] [] ((wellNested_iff text).mp nested))

theorem WellNested.replace {spelling : Match → Text} {text : Text}
    (each : ∀ text value after due final, recogniser.take text = some (value, after) →
      dueAfter? due text = some final →
      dueAfter? due (spelling value) = some due ∧ dueAfter? due after = some final)
    (nested : WellNested blockCloser? text) :
    WellNested blockCloser? (recogniser.replace spelling text) := by
  apply WellNested.replaceOr ?_ nested (recogniser.replaceOr_ok (ε := Empty) spelling text)
  intro text value after shown due final taken spelled read
  cases spelled
  exact each text value after due final taken read

end Replace

end SymbolScript.Construct
