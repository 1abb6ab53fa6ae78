import SymbolScript.Proofs.Glossary.Compression
import SymbolScript.Proofs.Text.WordChar

/-!
Compression replaces whole words and nothing else. The words of a glossary are searched one after
another, each between two boundaries of words, in the text that the words before it have left. A
word that was found leaves a single character behind, which is a word character itself and no word
of the glossary, so no later search sees another boundary than the text had.
-/

namespace SymbolScript.Glossary

open Text

/-! ## Boundaries -/

/-- Whether a word character stands at the front of a text. -/
def startsInWord (text : Text) : Bool :=
  text.head?.any isWordChar

/-- Whether a word starts or ends at a place, from whether a word character stands before it and
from the text after it. -/
def isBoundary (afterWordChar : Bool) (text : Text) : Bool :=
  afterWordChar != startsInWord text

/-- Replaces a word wherever it stands between two boundaries, from left to right. -/
def replaceBounded (word replacement : Text) (afterWordChar : Bool) : Text → Text
  | [] => []
  | c :: rest =>
    let behind := rest.drop (word.length - 1)
    let endsInWord := word.getLast?.any isWordChar
    if isBoundary afterWordChar (c :: rest) && word.isPrefixOf (c :: rest) &&
        isBoundary endsInWord behind then
      replacement ++ replaceBounded word replacement endsInWord behind
    else
      c :: replaceBounded word replacement (isWordChar c) rest
termination_by text => text.length
decreasing_by
  · simp only [List.length_drop, List.length_cons]
    omega
  · simp

structure IsWord (word : Text) : Prop where
  filled : word ≠ []
  solid : ∀ c ∈ word, isWordChar c = true

instance (word : Text) : Decidable (IsWord word) :=
  decidable_of_iff (word ≠ [] ∧ ∀ c ∈ word, isWordChar c = true)
    ⟨fun ⟨filled, solid⟩ => ⟨filled, solid⟩, fun isWord => ⟨isWord.filled, isWord.solid⟩⟩

section Bounded

variable {word : Text} (replacement : Text)

theorem replaceBounded_of_missing {afterWordChar : Bool} {c : Char} {rest : Text}
    (missing : isBoundary afterWordChar (c :: rest) = false ∨ ¬ word <+: c :: rest) :
    replaceBounded word replacement afterWordChar (c :: rest) =
      c :: replaceBounded word replacement (isWordChar c) rest := by
  rw [replaceBounded, if_neg]
  rcases missing with inner | other
  · simp [inner]
  · simp [other]

theorem startsInWord_of_stop {rest : Text}
    (stop : ∀ c, rest.head? = some c → isWordChar c = false) : startsInWord rest = false := by
  cases rest with
  | nil => rfl
  | cons c rest => exact stop c rfl

theorem replaceBounded_inside {run : Text} (inside : ∀ c ∈ run, isWordChar c = true) (rest : Text) :
    replaceBounded word replacement true (run ++ rest) =
      run ++ replaceBounded word replacement true rest := by
  induction run with
  | nil => rfl
  | cons c run induction =>
      rcases List.forall_mem_cons.mp inside with ⟨first, later⟩
      have inner : isBoundary true (c :: (run ++ rest)) = false := by
        simp [isBoundary, startsInWord, first]
      rw [List.cons_append, replaceBounded_of_missing replacement (.inl inner), first,
        induction later, List.cons_append]

theorem IsWord.replaceBounded_outside (isWord : IsWord word) {c : Char}
    (outside : isWordChar c = false) (afterWordChar : Bool) (rest : Text) :
    replaceBounded word replacement afterWordChar (c :: rest) =
      c :: replaceBounded word replacement false rest := by
  have other : ¬ word <+: c :: rest := by
    intro front
    rcases List.exists_cons_of_ne_nil isWord.filled with ⟨d, others, rfl⟩
    have same : d = c := (List.cons_prefix_cons.mp front).1
    rw [← same, isWord.solid d List.mem_cons_self] at outside
    cases outside
  rw [replaceBounded_of_missing replacement (.inr other), outside]

theorem IsWord.replaceBounded_of_stop (isWord : IsWord word) {rest : Text}
    (stop : ∀ c, rest.head? = some c → isWordChar c = false) :
    replaceBounded word replacement true rest = replaceBounded word replacement false rest := by
  cases rest with
  | nil => simp only [replaceBounded]
  | cons c rest =>
      have outside := stop c rfl
      rw [isWord.replaceBounded_outside replacement outside,
        isWord.replaceBounded_outside replacement outside]

theorem IsWord.eq_of_prefix (isWord : IsWord word) {run rest : Text}
    (isRun : IsRun isWordChar run rest) (front : word <+: run ++ rest)
    (boundary : startsInWord ((run ++ rest).drop word.length) = false) : word = run := by
  rcases List.prefix_or_prefix_of_prefix front (List.prefix_append run rest) with
    ⟨more, equal⟩ | ⟨more, equal⟩
  · rw [← equal, List.append_assoc, List.drop_left] at boundary
    cases more with
    | nil => rw [← equal, List.append_nil]
    | cons c more =>
        have inRun : isWordChar c = true := isRun.inside c (by simp [← equal])
        rw [List.cons_append, startsInWord, List.head?_cons, Option.any_some, inRun] at boundary
        cases boundary
  · cases more with
    | nil => rw [← equal, List.append_nil]
    | cons c more =>
        rw [← equal, List.prefix_append_right_inj] at front
        rcases front with ⟨_, rfl⟩
        have outside := isRun.stop c rfl
        rw [isWord.solid c (by simp [← equal])] at outside
        cases outside

theorem IsWord.replaceBounded_of_isRun (isWord : IsWord word) {run rest : Text}
    (isRun : IsRun isWordChar run rest) :
    replaceBounded word replacement false (run ++ rest) =
      (if run = word then replacement else run) ++
        replaceBounded word replacement false rest := by
  have stopped := isWord.replaceBounded_of_stop replacement isRun.stop
  rcases List.exists_cons_of_ne_nil isRun.filled with ⟨c, others, rfl⟩
  rcases List.forall_mem_cons.mp isRun.inside with ⟨first, later⟩
  have drop : (others ++ rest).drop (word.length - 1) = (c :: others ++ rest).drop word.length := by
    rcases List.exists_cons_of_ne_nil isWord.filled with ⟨d, more, rfl⟩
    rfl
  have last : word.getLast?.any isWordChar = true := by
    rw [List.getLast?_eq_getLast_of_ne_nil isWord.filled, Option.any_some]
    exact isWord.solid _ (List.getLast_mem isWord.filled)
  have front : isBoundary false (c :: (others ++ rest)) = true := by
    simp [isBoundary, startsInWord, first]
  rw [List.cons_append, replaceBounded, drop, last, front]
  by_cases equal : c :: others = word
  · have back : isBoundary true rest = true := by
      rw [isBoundary, startsInWord_of_stop isRun.stop]
      rfl
    have found : word <+: c :: (others ++ rest) := ⟨rest, by rw [← equal, List.cons_append]⟩
    simp [equal, back, found, stopped]
  · rw [if_neg equal, if_neg, first, replaceBounded_inside replacement later, stopped,
      List.cons_append]
    intro found
    simp only [Bool.and_eq_true, Bool.true_and, List.isPrefixOf_iff_prefix] at found
    have behind : startsInWord ((c :: others ++ rest).drop word.length) = false := by
      simpa [isBoundary] using found.2
    exact equal (isWord.eq_of_prefix isRun found.1 behind).symm

theorem IsWord.replaceBounded_eq (isWord : IsWord word) (text : Text) :
    replaceBounded word replacement false text = replaceWord word replacement text := by
  rw [replaceWord]
  induction text using runInduction isWordChar with
  | empty => simp only [replaceBounded, mapRuns]
  | other c rest outside induction =>
      rw [isWord.replaceBounded_outside replacement outside, mapRuns_of_neg _ outside, induction]
  | run run rest isRun induction =>
      rw [isWord.replaceBounded_of_isRun replacement isRun, isRun.mapRuns_append, induction]

example : replaceBounded "to".toList ['至'] false "to too_to".toList = "至 too_to".toList := by
  decide +kernel

end Bounded

/-! ## One pass -/

def abbreviate (glossary : Glossary) (run : Text) : Text :=
  match glossary.find? (·.2.toList == run) with
  | some (c, _) => [c]
  | none => run

variable {glossary : Glossary}

theorem abbreviate_of_not_mem {run : Text} (absent : ∀ entry ∈ glossary, entry.2.toList ≠ run) :
    glossary.abbreviate run = run := by
  have unknown : glossary.find? (·.2.toList == run) = none :=
    List.find?_eq_none.mpr fun entry member => by simpa using absent entry member
  rw [abbreviate, unknown]

theorem abbreviate_cons_self (c : Char) (word : String) (rest : Glossary) :
    abbreviate ((c, word) :: rest) word.toList = [c] := by
  simp [abbreviate]

theorem abbreviate_cons_of_ne {word : String} {run : Text} (different : word.toList ≠ run)
    (c : Char) (rest : Glossary) : abbreviate ((c, word) :: rest) run = rest.abbreviate run := by
  simp [abbreviate, different]

theorem IsForeign.abbreviate_char (foreign : glossary.IsForeign) {c : Char}
    (outside : 128 ≤ c.toNat) : glossary.abbreviate [c] = [c] := by
  apply abbreviate_of_not_mem
  intro entry member equal
  exact (foreign entry member).2.not_mem outside (by simp [equal])

theorem IsForeign.compress_eq_mapRuns (foreign : glossary.IsForeign)
    (solid : ∀ entry ∈ glossary, isWordChar entry.1 = true) (text : Text) :
    glossary.compress text = mapRuns isWordChar glossary.abbreviate text := by
  induction glossary generalizing text with
  | nil => exact (mapRuns_eq_self fun _ _ => rfl).symm
  | cons entry rest induction =>
      rcases entry with ⟨c, word⟩
      rcases List.forall_mem_cons.mp foreign with ⟨⟨outside, _⟩, later⟩
      rcases List.forall_mem_cons.mp solid with ⟨wordChar, laterSolid⟩
      have remaining := induction later laterSolid (replaceWord word.toList [c] text)
      rw [compress, List.foldl_cons]
      refine remaining.trans (mapRuns_mapRuns ?_ text)
      intro run others isRun
      by_cases equal : run = word.toList
      · -- The character is a run by itself, and no word that is still to be searched.
        have single : IsRun isWordChar [c] others :=
          ⟨List.cons_ne_nil c [], by simpa using wordChar, isRun.stop⟩
        rw [if_pos equal, single.mapRuns_append, IsForeign.abbreviate_char later outside, equal,
          abbreviate_cons_self]
      · rw [if_neg equal, isRun.mapRuns_append, abbreviate_cons_of_ne (Ne.symm equal)]

/-! ## Whole words -/

/-- What a run of word characters is shown as: a word of the glossary as its character, and any
other run as itself. -/
inductive Abbreviates (glossary : Glossary) : Text → Text → Prop
  | word {c : Char} {word : String} (member : (c, word) ∈ glossary) :
      Abbreviates glossary word.toList [c]
  | other {run : Text} (absent : ∀ entry ∈ glossary, entry.2.toList ≠ run) :
      Abbreviates glossary run run

theorem abbreviate_of_mem (unique : (glossary.map (·.2.toList)).Nodup) {c : Char} {word : String}
    (member : (c, word) ∈ glossary) : glossary.abbreviate word.toList = [c] := by
  induction glossary with
  | nil => cases member
  | cons entry rest induction =>
      rcases List.nodup_cons.mp unique with ⟨fresh, later⟩
      rcases List.mem_cons.mp member with rfl | inRest
      · exact abbreviate_cons_self c word rest
      · have different : entry.2.toList ≠ word.toList := fun equal =>
          fresh (List.mem_map.mpr ⟨(c, word), inRest, equal.symm⟩)
        rw [abbreviate_cons_of_ne different, induction later inRest]

theorem abbreviates_iff (unique : (glossary.map (·.2.toList)).Nodup) (run shown : Text) :
    Abbreviates glossary run shown ↔ glossary.abbreviate run = shown := by
  constructor
  · intro shows
    cases shows with
    | word member => exact abbreviate_of_mem unique member
    | other absent => exact abbreviate_of_not_mem absent
  · rintro rfl
    rw [abbreviate]
    split
    · next c word found =>
      have same : word.toList = run := by simpa using List.find?_some found
      rw [← same]
      exact .word (List.mem_of_find?_eq_some found)
    · next unknown =>
      exact .other fun entry member => by simpa using List.find?_eq_none.mp unknown entry member

/-- Replaces the words of a glossary one after another where they stand between boundaries. -/
def compressBounded (glossary : Glossary) (text : Text) : Text :=
  glossary.foldl (fun text (c, word) => replaceBounded word.toList [c] false text) text

/-- A glossary that can be put into texts word by word: it pairs word characters outside ASCII with
words in ASCII, each of them once. -/
structure IsCompressing (glossary : Glossary) : Prop where
  foreign : glossary.IsForeign
  solid : ∀ entry ∈ glossary, isWordChar entry.1 = true
  words : ∀ entry ∈ glossary, IsWord entry.2.toList
  unique : (glossary.map (·.2.toList)).Nodup

theorem IsCompressing.compress_eq (compressing : glossary.IsCompressing) (text : Text) :
    glossary.compress text = glossary.compressBounded text ∧
      ∀ result, RunsShown isWordChar (Abbreviates glossary) text result ↔
        result = glossary.compress text := by
  constructor
  · rw [compress, compressBounded]
    refine (List.foldl_ext _ _ _ fun text entry member => ?_).symm
    exact (compressing.words entry member).replaceBounded_eq [entry.1] text
  · intro result
    rw [runsShown_iff _ (abbreviates_iff compressing.unique),
      compressing.foreign.compress_eq_mapRuns compressing.solid, eq_comm]

theorem solid_of_ideographs
    (ideographs : ∀ entry ∈ glossary, 0x4e00 ≤ entry.1.toNat ∧ entry.1.toNat ≤ 0xa48c) :
    ∀ entry ∈ glossary, isWordChar entry.1 = true := by
  intro entry member
  rcases ideographs entry member with ⟨above, below⟩
  exact isWordChar_of_ideograph above below

theorem keywords_compressing : keywords.IsCompressing where
  foreign := by decide
  solid := solid_of_ideographs (by decide)
  words := by decide
  unique := by decide

theorem wordEntries_compressing : wordEntries.IsCompressing where
  foreign := wordEntries_foreign
  solid := solid_of_ideographs (by decide)
  words := by decide
  unique := by decide

/-- Compression, which searches its words one after another between boundaries, shows every maximal
run of word characters that is one of these words as its character, and changes nothing else. -/
theorem compress_wholeWords (text : Text) :
    (compressKeywords text = keywords.compressBounded text ∧
      ∀ result, RunsShown isWordChar (Abbreviates keywords) text result ↔
        result = compressKeywords text) ∧
    compressWords text = (coreWords ++ technicalTerms ++ digitWords).compressBounded text ∧
      ∀ result,
        RunsShown isWordChar (Abbreviates (coreWords ++ technicalTerms ++ digitWords)) text result ↔
          result = compressWords text := by
  refine ⟨keywords_compressing.compress_eq text, ?_⟩
  rw [compressWords_eq]
  exact wordEntries_compressing.compress_eq text

end SymbolScript.Glossary
