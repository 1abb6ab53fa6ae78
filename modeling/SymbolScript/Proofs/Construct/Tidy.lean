import Mathlib.Data.List.TakeWhile
import SymbolScript.Construct.Layout
import SymbolScript.Proofs.Text.Basic

/-!
What tidying makes of any text, and that it has nothing left to do on the result. Each of its steps
is followed by what it makes sure of and by what the later steps do not undo; a text for which all
of this holds is tidy.
-/

namespace SymbolScript.Construct

open Text

/-! ## Tidy texts -/

def foreignBrackets : List Char := ['⟨', '⟩', '⟦', '⟧']

/-- Whether a character may stand in front of another one: before a line break there is neither a
space nor a tab. -/
def MayPrecede (c next : Char) : Prop :=
  next = '\n' → c ≠ ' ' ∧ c ≠ '\t'

/-- Whether no run of blanks in a text holds three line breaks. -/
def HasShortBreaks (text : Text) : Prop :=
  ∀ run, run <:+: text → (∀ c ∈ run, isBlank c = true) → run.count '\n' ≤ 2

/-- Whether a text has JavaScript brackets only, starts and ends with no blank, and has no spaces
or tabs at the ends of its lines and no more than one empty line in a row. -/
structure IsTidy (text : Text) : Prop where
  plain : ∀ c ∈ text, c ∉ foreignBrackets
  first : ∀ c, text.head? = some c → isBlank c = false
  last : ∀ c, text.getLast? = some c → isBlank c = false
  lineEnds : text.IsChain MayPrecede
  breaks : HasShortBreaks text

/-! ## Brackets -/

theorem plainBracket_not_foreign (c : Char) : plainBracket c ∉ foreignBrackets := by
  unfold plainBracket
  repeat' split
  all_goals simp_all [foreignBrackets]

theorem plainBracket_of_not_foreign {c : Char} (plain : c ∉ foreignBrackets) :
    plainBracket c = c := by
  simp only [foreignBrackets, List.mem_cons, List.not_mem_nil, or_false, not_or] at plain
  rw [plainBracket, if_neg plain.1, if_neg plain.2.1, if_neg plain.2.2.1, if_neg plain.2.2.2]

theorem map_plainBracket_of_plain {text : Text} (plain : ∀ c ∈ text, c ∉ foreignBrackets) :
    text.map plainBracket = text :=
  (List.map_congr_left fun c member => plainBracket_of_not_foreign (plain c member)).trans
    (List.map_id' text)

theorem isBlank_break : isBlank '\n' = true := by
  decide

theorem mayPrecede_of_ne {next : Char} (noBreak : next ≠ '\n') (c : Char) : MayPrecede c next :=
  fun isBreak => absurd isBreak noBreak

theorem mayPrecede_of_not_blank {c : Char} (notBlank : isBlank c = false) (next : Char) :
    MayPrecede c next := by
  rintro -
  constructor <;> (rintro rfl; cases notBlank)

theorem break_mayPrecede (next : Char) : MayPrecede '\n' next :=
  fun _ => ⟨by decide, by decide⟩

/-! ## Ends of lines -/

theorem trimLineEnds_cases (c : Char) (rest : Text) :
    trimLineEnds (c :: rest) = trimLineEnds rest ∨
      trimLineEnds (c :: rest) = c :: trimLineEnds rest ∧
        ∀ next ∈ (trimLineEnds rest).head?, MayPrecede c next := by
  rw [trimLineEnds]
  split
  · exact .inl rfl
  · next kept =>
      refine .inr ⟨rfl, ?_⟩
      rintro next first rfl
      rw [Option.mem_def] at first
      simpa [first] using kept

theorem trimLineEnds_sublist (text : Text) : (trimLineEnds text).Sublist text := by
  induction text with
  | nil => exact List.Sublist.refl []
  | cons c rest induction =>
      rcases trimLineEnds_cases c rest with dropped | ⟨kept, _⟩
      · rw [dropped]
        exact induction.cons c
      · rw [kept]
        exact induction.cons_cons c

theorem isChain_trimLineEnds (text : Text) : (trimLineEnds text).IsChain MayPrecede := by
  induction text with
  | nil => exact List.isChain_nil
  | cons c rest induction =>
      rcases trimLineEnds_cases c rest with dropped | ⟨kept, bare⟩
      · rw [dropped]
        exact induction
      · rw [kept, List.isChain_cons]
        exact ⟨bare, induction⟩

theorem trimLineEnds_eq_self {text : Text} (lineEnds : text.IsChain MayPrecede)
    (last : ∀ c, text.getLast? = some c → isBlank c = false) : trimLineEnds text = text := by
  induction text with
  | nil => rfl
  | cons c rest induction =>
      rcases List.isChain_cons.mp lineEnds with ⟨bare, later⟩
      cases rest with
      | nil =>
          rcases mayPrecede_of_not_blank (last c rfl) '\n' rfl with ⟨noSpace, noTab⟩
          simp [trimLineEnds, noSpace, noTab]
      | cons next rest =>
          have tail := induction later fun e isLast => last e (by rwa [List.getLast?_cons_cons])
          rw [trimLineEnds, tail]
          apply if_neg
          intro trimmed
          simp only [Bool.and_eq_true, Bool.or_eq_true, beq_iff_eq, List.isEmpty_cons,
            List.head?_cons, Option.some.injEq, Bool.false_eq_true, false_or] at trimmed
          rcases trimmed with ⟨spaceOrTab, isBreak⟩
          rcases bare next rfl isBreak with ⟨noSpace, noTab⟩
          exact spaceOrTab.elim noSpace noTab

/-! ## Runs of line breaks -/

theorem not_mem_afterLastBreak (run : Text) : '\n' ∉ afterLastBreak run := by
  intro member
  have other := List.mem_takeWhile_imp (List.mem_reverse.mp member)
  simp at other

theorem exists_before_afterLastBreak {run : Text} (member : '\n' ∈ run) :
    ∃ before, run = before ++ '\n' :: afterLastBreak run := by
  have parts := List.takeWhile_append_dropWhile (p := (· != '\n')) (l := run.reverse)
  have stops := List.head?_dropWhile_not (· != '\n') run.reverse
  cases rest : run.reverse.dropWhile (· != '\n') with
  | nil =>
      rw [rest, List.append_nil] at parts
      have inside : '\n' ∈ run.reverse.takeWhile (· != '\n') := by
        rw [parts]
        exact List.mem_reverse.mpr member
      simpa using List.mem_takeWhile_imp inside
  | cons c before =>
      have isBreak : c = '\n' := by simpa [rest] using stops
      refine ⟨before.reverse, ?_⟩
      rw [rest, isBreak] at parts
      have back := congrArg List.reverse parts
      rw [List.reverse_reverse, List.reverse_append, List.reverse_cons, List.append_assoc] at back
      exact back.symm

theorem shortenBreaks_cases (run : Text) :
    run.count '\n' ≤ 2 ∧ shortenBreaks run = run ∨
      shortenBreaks run = '\n' :: '\n' :: afterLastBreak run ∧ 3 ≤ run.count '\n' := by
  rw [shortenBreaks]
  split
  · next long => exact .inr ⟨rfl, long⟩
  · next short => exact .inl ⟨by omega, rfl⟩

theorem shortenBreaks_sublist (run : Text) : (shortenBreaks run).Sublist run := by
  rcases shortenBreaks_cases run with ⟨_, kept⟩ | ⟨shortened, long⟩
  · rw [kept]
  · have member : '\n' ∈ run := List.count_pos_iff.mp (by omega)
    rcases exists_before_afterLastBreak member with ⟨before, parts⟩
    have two : 2 ≤ before.count '\n' := by
      have total := congrArg (List.count '\n') parts
      rw [List.count_append, List.count_cons_self,
        List.count_eq_zero_of_not_mem (not_mem_afterLastBreak run)] at total
      omega
    have breaks : (List.replicate 2 '\n').Sublist before := List.replicate_sublist_iff.mpr two
    rw [shortened]
    conv_rhs => rw [parts]
    exact breaks.append (List.sublist_cons_self '\n' (afterLastBreak run))

theorem count_shortenBreaks (run : Text) : (shortenBreaks run).count '\n' ≤ 2 := by
  rcases shortenBreaks_cases run with ⟨short, kept⟩ | ⟨shortened, _⟩
  · rwa [kept]
  · rw [shortened, List.count_cons_self, List.count_cons_self,
      List.count_eq_zero_of_not_mem (not_mem_afterLastBreak run)]

theorem isChain_shortenBreaks {run : Text} (lineEnds : run.IsChain MayPrecede) :
    (shortenBreaks run).IsChain MayPrecede := by
  rcases shortenBreaks_cases run with ⟨_, kept⟩ | ⟨shortened, long⟩
  · rwa [kept]
  · have member : '\n' ∈ run := List.count_pos_iff.mp (by omega)
    rcases exists_before_afterLastBreak member with ⟨before, parts⟩
    have later : (afterLastBreak run).IsChain MayPrecede := by
      refine List.IsChain.infix lineEnds ⟨before ++ ['\n'], [], ?_⟩
      rw [List.append_nil, List.append_assoc]
      exact parts.symm
    rw [shortened, List.isChain_cons, List.isChain_cons]
    exact ⟨fun next _ => break_mayPrecede next, fun next _ => break_mayPrecede next, later⟩

theorem head?_shortenBreaks (rest : Text) : (shortenBreaks ('\n' :: rest)).head? = some '\n' := by
  rcases shortenBreaks_cases ('\n' :: rest) with ⟨_, kept⟩ | ⟨shortened, _⟩
  · rw [kept]
    rfl
  · rw [shortened]
    rfl

/-! ## Collapsing -/

theorem collapseBreaks_break (rest : Text) :
    collapseBreaks ('\n' :: rest) = shortenBreaks ('\n' :: rest.takeWhile isBlank) ++
      collapseBreaks (rest.dropWhile isBlank) := by
  rw [collapseBreaks, if_pos rfl]

theorem collapseBreaks_of_ne {c : Char} (noBreak : c ≠ '\n') (rest : Text) :
    collapseBreaks (c :: rest) = c :: collapseBreaks rest := by
  rw [collapseBreaks, if_neg noBreak]

theorem head?_collapseBreaks (text : Text) : (collapseBreaks text).head? = text.head? := by
  cases text with
  | nil => rw [collapseBreaks]
  | cons c rest =>
      by_cases isBreak : c = '\n'
      · rw [isBreak, collapseBreaks_break, List.head?_append, head?_shortenBreaks]
        rfl
      · rw [collapseBreaks_of_ne isBreak]
        rfl

/-- A property of all texts that holds of a text if it holds of what collapsing goes on with: the
text behind a run of blanks that starts with a line break, or behind any other character. -/
theorem collapseBreaks_induction {motive : Text → Prop} (nil : motive [])
    (run : ∀ rest, motive (rest.dropWhile isBlank) → motive ('\n' :: rest))
    (plain : ∀ c rest, c ≠ '\n' → motive rest → motive (c :: rest)) (text : Text) :
    motive text := by
  match text with
  | [] => exact nil
  | c :: rest =>
      have shorter := (List.dropWhile_sublist isBlank (l := rest)).length_le
      by_cases isBreak : c = '\n'
      · rw [isBreak]
        exact run rest (collapseBreaks_induction nil run plain (rest.dropWhile isBlank))
      · exact plain c rest isBreak (collapseBreaks_induction nil run plain rest)
termination_by text.length
decreasing_by
  · simp only [List.length_cons]
    omega
  · simp

theorem collapseBreaks_sublist (text : Text) : (collapseBreaks text).Sublist text := by
  induction text using collapseBreaks_induction with
  | nil => rw [collapseBreaks]
  | run rest induction =>
      rw [collapseBreaks_break]
      have parts := (shortenBreaks_sublist ('\n' :: rest.takeWhile isBlank)).append induction
      rwa [List.cons_append, List.takeWhile_append_dropWhile] at parts
  | plain c rest noBreak induction =>
      rw [collapseBreaks_of_ne noBreak]
      exact induction.cons_cons c

theorem breakRun_isInfix (rest : Text) : '\n' :: rest.takeWhile isBlank <:+: '\n' :: rest :=
  ((List.prefix_cons_inj '\n').mpr (List.takeWhile_prefix isBlank)).isInfix

theorem behindRun_isInfix (rest : Text) : rest.dropWhile isBlank <:+: '\n' :: rest :=
  ((List.dropWhile_suffix isBlank).trans (List.suffix_cons '\n' rest)).isInfix

theorem isBlank_of_mem_breakRun {rest : Text} {c : Char}
    (member : c ∈ '\n' :: rest.takeWhile isBlank) : isBlank c = true := by
  rcases List.mem_cons.mp member with rfl | inside
  · exact isBlank_break
  · exact List.mem_takeWhile_imp inside

theorem not_blank_of_head? {rest : Text} {next : Char}
    (first : next ∈ (collapseBreaks (rest.dropWhile isBlank)).head?) : isBlank next = false := by
  rw [head?_collapseBreaks] at first
  exact head?_dropWhile first

theorem takeWhile_behindRun (rest : Text) :
    (collapseBreaks (rest.dropWhile isBlank)).takeWhile isBlank = [] := by
  cases behind : collapseBreaks (rest.dropWhile isBlank) with
  | nil => rfl
  | cons next later =>
      have solid : isBlank next = false := by
        apply not_blank_of_head?
        rw [behind, List.head?_cons, Option.mem_some]
      rw [List.takeWhile_cons_of_neg (by simp [solid])]

theorem isChain_collapseBreaks {text : Text} (lineEnds : text.IsChain MayPrecede) :
    (collapseBreaks text).IsChain MayPrecede := by
  induction text using collapseBreaks_induction with
  | nil =>
      rw [collapseBreaks]
      exact List.isChain_nil
  | run rest induction =>
      have inRun : ('\n' :: rest.takeWhile isBlank).IsChain MayPrecede :=
        List.IsChain.infix lineEnds (breakRun_isInfix rest)
      have behind : (rest.dropWhile isBlank).IsChain MayPrecede :=
        List.IsChain.infix lineEnds (behindRun_isInfix rest)
      rw [collapseBreaks_break, List.isChain_append]
      refine ⟨isChain_shortenBreaks inRun, induction behind, fun c _ next first => ?_⟩
      apply mayPrecede_of_ne
      rintro rfl
      exact absurd isBlank_break (by simp [not_blank_of_head? first])
  | plain c rest noBreak induction =>
      rcases List.isChain_cons.mp lineEnds with ⟨bare, later⟩
      rw [collapseBreaks_of_ne noBreak, List.isChain_cons, head?_collapseBreaks]
      exact ⟨bare, induction later⟩

/-! A run of blanks starts a suffix of the text, so it is enough to count the line breaks in front
of each suffix. -/

theorem hasShortBreaks_of_suffixes {text : Text}
    (short : ∀ rest, rest <:+ text → (rest.takeWhile isBlank).count '\n' ≤ 2) :
    HasShortBreaks text := by
  rintro run ⟨before, after, rfl⟩ blank
  have found := short (run ++ after) ⟨before, by rw [List.append_assoc]⟩
  rw [List.takeWhile_append_of_pos blank, List.count_append] at found
  omega

theorem count_takeWhile_of_suffix {text : Text} :
    ∀ rest, rest <:+ collapseBreaks text → (rest.takeWhile isBlank).count '\n' ≤ 2 := by
  induction text using collapseBreaks_induction with
  | nil =>
      intro rest suffix
      rw [collapseBreaks, List.suffix_nil] at suffix
      simp [suffix]
  | run rest induction =>
      rintro tail ⟨before, equal⟩
      rw [collapseBreaks_break] at equal
      rcases List.append_eq_append_iff.mp equal with ⟨middle, parts, rfl⟩ | ⟨middle, _, parts⟩
      · have each : ∀ c ∈ middle, isBlank c = true := by
          intro c member
          have inRun := (shortenBreaks_sublist _).mem (parts ▸ List.mem_append_right before member)
          exact isBlank_of_mem_breakRun inRun
        have total := count_shortenBreaks ('\n' :: rest.takeWhile isBlank)
        rw [parts, List.count_append] at total
        rw [List.takeWhile_append_of_pos each, takeWhile_behindRun, List.append_nil]
        omega
      · exact induction tail ⟨middle, parts.symm⟩
  | plain c rest noBreak induction =>
      intro tail suffix
      rw [collapseBreaks_of_ne noBreak] at suffix
      rcases List.suffix_cons_iff.mp suffix with rfl | later
      · cases blank : isBlank c with
        | true =>
            rw [List.takeWhile_cons_of_pos blank, List.count_cons_of_ne noBreak]
            exact induction _ (List.suffix_refl _)
        | false => simp [blank]
      · exact induction tail later

theorem hasShortBreaks_collapseBreaks (text : Text) : HasShortBreaks (collapseBreaks text) :=
  hasShortBreaks_of_suffixes count_takeWhile_of_suffix

theorem HasShortBreaks.part {part text : Text} (short : HasShortBreaks text)
    (inside : part <:+: text) : HasShortBreaks part :=
  fun run inPart blank => short run (inPart.trans inside) blank

theorem collapseBreaks_eq_self {text : Text} (short : HasShortBreaks text) :
    collapseBreaks text = text := by
  induction text using collapseBreaks_induction with
  | nil => rw [collapseBreaks]
  | run rest induction =>
      have few := short _ (breakRun_isInfix rest) fun c => isBlank_of_mem_breakRun
      have kept : shortenBreaks ('\n' :: rest.takeWhile isBlank) = '\n' :: rest.takeWhile isBlank :=
        if_neg (by omega)
      rw [collapseBreaks_break, kept, induction (short.part (behindRun_isInfix rest)),
        List.cons_append, List.takeWhile_append_dropWhile]
  | plain c rest noBreak induction =>
      rw [collapseBreaks_of_ne noBreak,
        induction (short.part (List.suffix_cons c rest).isInfix)]

/-! ## Tidying -/

theorem tidy_sublist (source : Text) : (tidy source).Sublist (source.map plainBracket) :=
  (trimBy_isInfix isBlank _).sublist.trans
    ((collapseBreaks_sublist _).trans (trimLineEnds_sublist _))

theorem isTidy_tidy (source : Text) : IsTidy (tidy source) where
  plain := by
    intro c member
    rcases List.mem_map.mp ((tidy_sublist source).mem member) with ⟨original, _, rfl⟩
    exact plainBracket_not_foreign original
  first := fun _ => head?_trimBy
  last := fun _ => getLast?_trimBy
  lineEnds := List.IsChain.infix (isChain_collapseBreaks (isChain_trimLineEnds _))
    (trimBy_isInfix isBlank _)
  breaks := (hasShortBreaks_collapseBreaks _).part (trimBy_isInfix isBlank _)

theorem IsTidy.tidy_eq {text : Text} (isTidy : IsTidy text) : tidy text = text := by
  rw [tidy, map_plainBracket_of_plain isTidy.plain,
    trimLineEnds_eq_self isTidy.lineEnds isTidy.last, collapseBreaks_eq_self isTidy.breaks]
  exact trimBy_eq_self isTidy.first isTidy.last

theorem tidy_eq_self_iff {text : Text} : tidy text = text ↔ IsTidy text :=
  ⟨fun kept => kept ▸ isTidy_tidy text, IsTidy.tidy_eq⟩

instance (text : Text) : Decidable (IsTidy text) :=
  decidable_of_iff (tidy text = text) tidy_eq_self_iff

example : IsTidy "a\n\n b".toList := by decide +kernel
example : ¬IsTidy "a \nb".toList := by decide +kernel

end SymbolScript.Construct
