import SymbolScript.Proofs.Construct.Tidy
import SymbolScript.Text.Blank

/-!
Texts that are tidy by the way they are put together. It is enough that every line break follows a
character that is no blank and that no blank stands at either end; reading a text once from left to
right tells the former.
-/

namespace SymbolScript.Construct

open Text

/-! ## Solid texts -/

def solidStep? (solid : Bool) (c : Char) : Option Bool :=
  if c = '\n' then (if solid then some false else none) else some (!isBlank c)

def solidAfter? (solid : Bool) (text : Text) : Option Bool :=
  text.foldlM solidStep? solid

example : solidAfter? false "a\n b".toList = some true := by decide
example : solidAfter? false "a \nb".toList = none := by decide

@[simp] theorem solidAfter?_nil (solid : Bool) : solidAfter? solid [] = some solid := rfl

theorem solidAfter?_cons (solid : Bool) (c : Char) (rest : Text) :
    solidAfter? solid (c :: rest) =
      (solidStep? solid c).bind fun next => solidAfter? next rest := by
  rw [solidAfter?, List.foldlM_cons]
  rfl

theorem solidAfter?_append (solid : Bool) (left right : Text) :
    solidAfter? solid (left ++ right) =
      (solidAfter? solid left).bind fun next => solidAfter? next right := by
  rw [solidAfter?, List.foldlM_append]
  rfl

theorem solidStep?_of_not_break {c : Char} (noBreak : c ≠ '\n') (solid : Bool) :
    solidStep? solid c = some (!isBlank c) :=
  if_neg noBreak

theorem solidAfter?_of_line {line : Text} (oneLine : '\n' ∉ line) (filled : line ≠ [])
    (last : ∀ c, line.getLast? = some c → isBlank c = false) (solid : Bool) :
    solidAfter? solid line = some true := by
  induction line generalizing solid with
  | nil => exact absurd rfl filled
  | cons c rest induction =>
      rcases List.ne_and_not_mem_of_not_mem_cons oneLine with ⟨noBreak, later⟩
      rw [solidAfter?_cons, solidStep?_of_not_break noBreak.symm, Option.bind_some]
      cases rest with
      | nil => simp [last c rfl]
      | cons d rest =>
          apply induction later (List.cons_ne_nil d rest)
          intro e isLast
          exact last e (by rw [List.getLast?_cons_cons, isLast])

/-! ## Putting solid texts together -/

def IsReadable (text : Text) : Prop :=
  ∀ solid, (solidAfter? solid text).isSome = true

def IsSolid (text : Text) : Prop :=
  ∀ solid, solidAfter? solid text = some true

instance (text : Text) : Decidable (IsReadable text) :=
  inferInstanceAs (Decidable (∀ solid, (solidAfter? solid text).isSome = true))

instance (text : Text) : Decidable (IsSolid text) :=
  inferInstanceAs (Decidable (∀ solid, solidAfter? solid text = some true))

theorem isReadable_of_line {line : Text} (oneLine : '\n' ∉ line) : IsReadable line := by
  induction line with
  | nil =>
      intro solid
      rfl
  | cons c rest induction =>
      intro solid
      rcases List.ne_and_not_mem_of_not_mem_cons oneLine with ⟨noBreak, later⟩
      rw [solidAfter?_cons, solidStep?_of_not_break noBreak.symm, Option.bind_some]
      exact induction later _

theorem IsReadable.append {left right : Text} (leftReads : IsReadable left)
    (rightReads : IsReadable right) : IsReadable (left ++ right) := by
  intro solid
  rcases Option.isSome_iff_exists.mp (leftReads solid) with ⟨middle, read⟩
  rw [solidAfter?_append, read, Option.bind_some]
  exact rightReads middle

theorem IsReadable.append_solid {left right : Text} (reads : IsReadable left)
    (rightSolid : IsSolid right) : IsSolid (left ++ right) := by
  intro solid
  rcases Option.isSome_iff_exists.mp (reads solid) with ⟨middle, read⟩
  rw [solidAfter?_append, read, Option.bind_some, rightSolid middle]

theorem IsSolid.isReadable {text : Text} (isSolid : IsSolid text) : IsReadable text := by
  intro solid
  rw [isSolid solid]
  rfl

theorem IsSolid.append {left right : Text} (isSolid : IsSolid left)
    (read : solidAfter? true right = some true) : IsSolid (left ++ right) := by
  intro solid
  rw [solidAfter?_append, isSolid solid, Option.bind_some, read]

theorem IsSolid.append_readable {left right : Text} (isSolid : IsSolid left)
    (reads : (solidAfter? true right).isSome = true) : IsReadable (left ++ right) := by
  intro solid
  rw [solidAfter?_append, isSolid solid, Option.bind_some]
  exact reads

theorem IsSolid.join {separator : String}
    (reads : (solidAfter? true separator.toList).isSome = true) {pieces : List Text}
    (filled : pieces ≠ []) (each : ∀ piece ∈ pieces, IsSolid piece) :
    IsSolid (Text.join separator pieces) := by
  induction pieces with
  | nil => exact absurd rfl filled
  | cons first rest induction =>
      have firstSolid := each first List.mem_cons_self
      cases rest with
      | nil =>
          rw [join_singleton]
          exact firstSolid
      | cons second rest =>
          have later := induction (List.cons_ne_nil second rest)
            fun piece member => each piece (List.mem_cons_of_mem first member)
          rw [join_cons_cons]
          exact (firstSolid.append_readable reads).append_solid later

/-! ## Tidiness -/

theorem getLast?_of_solid {solid : Bool} {text : Text} (read : solidAfter? solid text = some true)
    (c : Char) (isLast : text.getLast? = some c) : isBlank c = false := by
  rcases List.getLast?_eq_some_iff.mp isLast with ⟨before, rfl⟩
  rw [solidAfter?_append] at read
  rcases Option.bind_eq_some_iff.mp read with ⟨next, _, step⟩
  rw [solidAfter?_cons, solidStep?] at step
  by_cases isBreak : c = '\n'
  · cases next <;> simp [isBreak] at step
  · simpa [isBreak] using step

theorem isChain_of_solid {solid last : Bool} {text : Text}
    (read : solidAfter? solid text = some last) : text.IsChain MayPrecede := by
  induction text generalizing solid with
  | nil => exact List.isChain_nil
  | cons c rest induction =>
      rw [solidAfter?_cons] at read
      rcases Option.bind_eq_some_iff.mp read with ⟨next, step, later⟩
      refine List.isChain_cons.mpr ⟨fun d first => ?_, induction later⟩
      by_cases isBreak : c = '\n'
      · rw [isBreak]
        exact break_mayPrecede d
      · cases blank : isBlank c with
        | false => exact mayPrecede_of_not_blank blank d
        | true =>
            rw [solidStep?_of_not_break isBreak, blank] at step
            cases step
            apply mayPrecede_of_ne
            rintro rfl
            rcases rest with - | ⟨e, rest⟩
            · cases first
            · cases first
              cases later

theorem count_le_of_solid {solid last : Bool} {run : Text}
    (blank : ∀ c ∈ run, isBlank c = true) (read : solidAfter? solid run = some last) :
    run.count '\n' ≤ solid.toNat := by
  induction run generalizing solid with
  | nil => simp
  | cons c rest induction =>
      rcases List.forall_mem_cons.mp blank with ⟨isBlank, others⟩
      rw [solidAfter?_cons] at read
      rcases Option.bind_eq_some_iff.mp read with ⟨next, step, later⟩
      have few := induction others later
      by_cases isBreak : c = '\n'
      · subst isBreak
        cases solid with
        | false => cases step
        | true =>
            cases step
            rw [List.count_cons_self]
            exact Nat.succ_le_succ few
      · rw [solidStep?_of_not_break isBreak, isBlank] at step
        cases step
        rw [List.count_cons_of_ne isBreak]
        exact few.trans (Nat.zero_le _)

theorem hasShortBreaks_of_solid {solid last : Bool} {text : Text}
    (read : solidAfter? solid text = some last) : HasShortBreaks text := by
  rintro run ⟨before, after, rfl⟩ blank
  rw [solidAfter?_append] at read
  rcases Option.bind_eq_some_iff.mp read with ⟨next, front, _⟩
  rw [solidAfter?_append] at front
  rcases Option.bind_eq_some_iff.mp front with ⟨middle, _, inRun⟩
  exact (count_le_of_solid blank inRun).trans ((Bool.toNat_le middle).trans (by omega))

theorem tidy_of_solid {text : Text} (ascii : IsAscii text)
    (first : ∀ c, text.head? = some c → isBlank c = false)
    (read : solidAfter? false text = some true) : tidy text = text := by
  have foreign : ∀ bracket ∈ foreignBrackets, 128 ≤ bracket.toNat := by decide
  have isTidy : IsTidy text :=
    { plain := fun c member isBracket => ascii.ne_of_mem member (foreign c isBracket) rfl
      first := first
      last := getLast?_of_solid read
      lineEnds := isChain_of_solid read
      breaks := hasShortBreaks_of_solid read }
  exact isTidy.tidy_eq

end SymbolScript.Construct
