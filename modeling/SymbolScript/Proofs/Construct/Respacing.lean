import SymbolScript.Proofs.Construct.Tidy
import SymbolScript.Proofs.Text.Recogniser

/-!
Tidying moves blanks only. Every step of it shortens the blanks between two other characters
without taking them away altogether, and leaves a line break among them if there was one; so what
stands apart stays apart, and what stands on different lines stays so.
-/

namespace SymbolScript.Construct

open Text

/-! ## Blanks between other characters -/

def withoutBlanks (text : Text) : Text :=
  text.filter fun c => !isBlank c

/-- What has become of a stretch of text whose blanks were moved: its other characters are the
same, nothing is left exactly if there was nothing, and a line break is left exactly if there was
one. -/
structure IsRespaced (source result : Text) : Prop where
  kept : withoutBlanks result = withoutBlanks source
  empty : result = [] ↔ source = []
  broken : '\n' ∈ result ↔ '\n' ∈ source

/-- A text in which only blanks were moved. The other characters are the same in the same order,
and of any two of them, wherever they stand, what is between them now is what was between them,
respaced. -/
structure Respaces (source result : Text) : Prop where
  kept : withoutBlanks result = withoutBlanks source
  between : ∀ before first middle second after,
    source = before ++ first :: (middle ++ second :: after) →
    isBlank first = false → isBlank second = false →
    ∃ front inner back, result = front ++ first :: (inner ++ second :: back) ∧
      withoutBlanks front = withoutBlanks before ∧ IsRespaced middle inner ∧
      withoutBlanks back = withoutBlanks after

theorem withoutBlanks_append (left right : Text) :
    withoutBlanks (left ++ right) = withoutBlanks left ++ withoutBlanks right :=
  List.filter_append left right

theorem withoutBlanks_eq_nil {text : Text} (blank : ∀ c ∈ text, isBlank c = true) :
    withoutBlanks text = [] := by
  rw [withoutBlanks, List.filter_eq_nil_iff]
  intro c member
  simp [blank c member]

theorem withoutBlanks_cons_of_blank {c : Char} (blank : isBlank c = true) (rest : Text) :
    withoutBlanks (c :: rest) = withoutBlanks rest :=
  List.filter_cons_of_neg (by simp [blank])

theorem withoutBlanks_cons_congr (c : Char) {left right : Text}
    (same : withoutBlanks left = withoutBlanks right) :
    withoutBlanks (c :: left) = withoutBlanks (c :: right) := by
  have parts : ∀ rest, withoutBlanks (c :: rest) = withoutBlanks [c] ++ withoutBlanks rest :=
    fun rest => withoutBlanks_append [c] rest
  rw [parts left, parts right, same]

theorem ne_break_of_not_blank {c : Char} (solid : isBlank c = false) : c ≠ '\n' := by
  rintro rfl
  cases solid

namespace IsRespaced

variable {source middle result : Text}

theorem refl (source : Text) : IsRespaced source source :=
  ⟨rfl, Iff.rfl, Iff.rfl⟩

theorem trans (first : IsRespaced source middle) (second : IsRespaced middle result) :
    IsRespaced source result where
  kept := second.kept.trans first.kept
  empty := second.empty.trans first.empty
  broken := second.broken.trans first.broken

theorem cons (respaced : IsRespaced source result) (c : Char) :
    IsRespaced (c :: source) (c :: result) where
  kept := withoutBlanks_cons_congr c respaced.kept
  empty := by simp
  broken := by rw [List.mem_cons, List.mem_cons, respaced.broken]

theorem drop (respaced : IsRespaced source result) {c : Char} (blank : isBlank c = true)
    (noBreak : c ≠ '\n') (filled : result ≠ []) : IsRespaced (c :: source) result where
  kept := by rw [withoutBlanks_cons_of_blank blank, respaced.kept]
  empty := by simp [filled]
  broken := by simp [respaced.broken, noBreak.symm]

end IsRespaced

namespace Respaces

variable {source middle result : Text}

theorem trans (first : Respaces source middle) (second : Respaces middle result) :
    Respaces source result where
  kept := second.kept.trans first.kept
  between := by
    intro before c stretch d after parts firstSolid secondSolid
    rcases first.between before c stretch d after parts firstSolid secondSolid with
      ⟨front, inner, back, found, frontKept, respaced, backKept⟩
    rcases second.between front c inner d back found firstSolid secondSolid with
      ⟨newFront, newInner, newBack, left, newFrontKept, newRespaced, newBackKept⟩
    exact ⟨newFront, newInner, newBack, left, newFrontKept.trans frontKept,
      respaced.trans newRespaced, newBackKept.trans backKept⟩

/-- A step that respaces what stands in front of each character that is no blank, and goes on
behind it as if the text started there, moves blanks only. -/
theorem of_step {step : Text → Text}
    (kept : ∀ text, withoutBlanks (step text) = withoutBlanks text)
    (passes : ∀ before c after, isBlank c = false →
      ∃ front, step (before ++ c :: after) = front ++ c :: step after ∧ IsRespaced before front)
    (source : Text) : Respaces source (step source) where
  kept := kept source
  between := by
    rintro before first middle second after rfl firstSolid secondSolid
    rcases passes before first (middle ++ second :: after) firstSolid with ⟨front, left, respaced⟩
    rcases passes middle second after secondSolid with ⟨inner, right, inside⟩
    refine ⟨front, inner, step after, ?_, respaced.kept, inside, kept after⟩
    rw [left, right]

end Respaces

/-! ## Ends of lines -/

theorem withoutBlanks_trimLineEnds (text : Text) :
    withoutBlanks (trimLineEnds text) = withoutBlanks text := by
  induction text with
  | nil => rfl
  | cons c rest induction =>
      rw [trimLineEnds]
      split
      · next dropped =>
        have blank : isBlank c = true := by
          have spaceOrTab : c = ' ' ∨ c = '\t' := by
            simpa using (Bool.and_eq_true_iff.mp dropped).1
          rcases spaceOrTab with rfl | rfl <;> decide
        rw [withoutBlanks_cons_of_blank blank, induction]
      · exact withoutBlanks_cons_congr c induction

theorem exists_trimLineEnds_append (before : Text) {c : Char} (solid : isBlank c = false)
    (after : Text) :
    ∃ front, trimLineEnds (before ++ c :: after) = front ++ c :: trimLineEnds after ∧
      IsRespaced before front := by
  induction before with
  | nil =>
      refine ⟨[], ?_, .refl []⟩
      have other : (c == ' ' || c == '\t') = false := by
        rcases mayPrecede_of_not_blank solid '\n' rfl with ⟨noSpace, noTab⟩
        simp [noSpace, noTab]
      simp [trimLineEnds, other]
  | cons d before induction =>
      rcases induction with ⟨front, equal, respaced⟩
      rw [List.cons_append, trimLineEnds, equal]
      split
      · next dropped =>
        -- a blank is dropped in front of a line break only, and that break is not `c`
        rcases Bool.and_eq_true_iff.mp dropped with ⟨spaceOrTab, ends⟩
        have isDropped : d = ' ' ∨ d = '\t' := by simpa using spaceOrTab
        have plain : isBlank d = true ∧ d ≠ '\n' := by
          rcases isDropped with rfl | rfl <;> decide
        have filled : front ≠ [] := by
          rintro rfl
          have isBreak : c = '\n' := by simpa using ends
          exact ne_break_of_not_blank solid isBreak
        exact ⟨front, rfl, respaced.drop plain.1 plain.2 filled⟩
      · exact ⟨d :: front, rfl, respaced.cons d⟩

/-! ## Runs of line breaks -/

theorem withoutBlanks_shortenBreaks {run : Text} (blank : ∀ c ∈ run, isBlank c = true) :
    withoutBlanks (shortenBreaks run) = [] :=
  withoutBlanks_eq_nil fun c member => blank c ((shortenBreaks_sublist run).mem member)

theorem withoutBlanks_collapsed {rest behind : Text}
    (same : withoutBlanks behind = withoutBlanks (rest.dropWhile isBlank)) :
    withoutBlanks (shortenBreaks ('\n' :: rest.takeWhile isBlank) ++ behind) =
      withoutBlanks ('\n' :: rest) := by
  have blank : ∀ c ∈ '\n' :: rest.takeWhile isBlank, isBlank c = true :=
    fun c => isBlank_of_mem_breakRun
  have parts : '\n' :: rest = ('\n' :: rest.takeWhile isBlank) ++ rest.dropWhile isBlank := by
    rw [List.cons_append, List.takeWhile_append_dropWhile]
  rw [parts, withoutBlanks_append, withoutBlanks_append, withoutBlanks_shortenBreaks blank,
    withoutBlanks_eq_nil blank, same]

theorem withoutBlanks_collapseBreaks (text : Text) :
    withoutBlanks (collapseBreaks text) = withoutBlanks text := by
  induction text using collapseBreaks_induction with
  | nil => rw [collapseBreaks]
  | run rest induction =>
      rw [collapseBreaks_break]
      exact withoutBlanks_collapsed induction
  | plain c rest noBreak induction =>
      rw [collapseBreaks_of_ne noBreak]
      exact withoutBlanks_cons_congr c induction

theorem exists_collapseBreaks_append (before : Text) {c : Char} (solid : isBlank c = false)
    (after : Text) :
    ∃ front, collapseBreaks (before ++ c :: after) = front ++ c :: collapseBreaks after ∧
      IsRespaced before front := by
  induction before using collapseBreaks_induction with
  | nil => exact ⟨[], collapseBreaks_of_ne (ne_break_of_not_blank solid) after, .refl []⟩
  | run rest induction =>
      rcases induction with ⟨front, equal, respaced⟩
      have run := takeRun_append_cons solid rest after
      rw [takeRun, Prod.mk.injEq] at run
      have first : '\n' ∈ shortenBreaks ('\n' :: rest.takeWhile isBlank) :=
        List.mem_of_head? (head?_shortenBreaks _)
      refine ⟨shortenBreaks ('\n' :: rest.takeWhile isBlank) ++ front, ?_, ?_, ?_, ?_⟩
      · rw [List.cons_append, collapseBreaks_break, run.1, run.2, takeRun, equal,
          List.append_assoc]
      · exact withoutBlanks_collapsed respaced.kept
      · simp [List.ne_nil_of_mem first]
      · simp [first]
  | plain d rest noBreak induction =>
      rcases induction with ⟨front, equal, respaced⟩
      exact ⟨d :: front, by rw [List.cons_append, collapseBreaks_of_ne noBreak, equal]; rfl,
        respaced.cons d⟩

/-! ## Tidying -/

theorem respaces_trim (source : Text) : Respaces source (trim source) where
  kept := filter_trimBy_of_disjoint (fun c blank => by simp [blank]) source
  between := by
    rintro before first middle second after rfl firstSolid secondSolid
    have front := takeRun_append_cons firstSolid before (middle ++ second :: after)
    have back := takeRun_append_cons secondSolid after.reverse
      (before.dropWhile isBlank ++ first :: middle).reverse
    rw [takeRun, Prod.mk.injEq] at front back
    have trimmed : trim (before ++ first :: (middle ++ second :: after)) =
        before.dropWhile isBlank ++ first :: (middle ++
          second :: (after.reverse.dropWhile isBlank).reverse) := by
      have reversed : (before.dropWhile isBlank ++ first :: (middle ++ second :: after)).reverse =
          after.reverse ++ second :: (before.dropWhile isBlank ++ first :: middle).reverse := by
        simp
      rw [trim, trimBy, front.2, takeRun, reversed, back.2, takeRun]
      simp
    refine ⟨_, middle, _, trimmed, ?_, .refl middle, ?_⟩
    · exact filter_dropWhile_of_disjoint (fun c blank => by simp [blank]) before
    · rw [withoutBlanks, List.filter_reverse,
        filter_dropWhile_of_disjoint (fun c blank => by simp [blank]), List.filter_reverse,
        List.reverse_reverse, withoutBlanks]

/-- Tidying gives a text JavaScript brackets and moves blanks, and does nothing else: the other
characters stay in order, two of them stand next to each other exactly if they did before, and a
line break stands between them exactly if one did. -/
theorem respaces_tidy (source : Text) : Respaces (source.map plainBracket) (tidy source) := by
  have lineEnds : Respaces (source.map plainBracket) (trimLineEnds (source.map plainBracket)) :=
    .of_step withoutBlanks_trimLineEnds
      (fun before c after solid => exists_trimLineEnds_append before solid after) _
  have breaks : Respaces (trimLineEnds (source.map plainBracket))
      (collapseBreaks (trimLineEnds (source.map plainBracket))) :=
    .of_step withoutBlanks_collapseBreaks
      (fun before c after solid => exists_collapseBreaks_append before solid after) _
  exact (lineEnds.trans breaks).trans (respaces_trim _)

end SymbolScript.Construct
