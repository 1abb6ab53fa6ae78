import SymbolScript.Proofs.Pipeline.Numbers
import SymbolScript.Proofs.VectorNumber.Numeral

/-!
Vectorised programs. A program is cut at its numerals: each of them is the decimal text of a number,
and vectorising puts the vector literal of that number in its place. No two numerals of a program
are next to each other or joined by a point, so every literal is read on its own again.
-/

namespace SymbolScript

open Text VectorNumber

/-! ## Numerals as insertions -/

def Insertion.ofNumeral {run after : Text} (plain : ∀ c ∈ run, Decimal.isPlainDigit c = true)
    (short : run.length ≤ Decimal.digitLimit) (ascii : IsAscii after) : Insertion where
  form := .vector
  number := Decimal.readDigits run
  after := after
  bounded := by
    rw [Int.natAbs_natCast]
    exact (Decimal.readDigits_lt plain).trans_le (Nat.pow_le_pow_right (by decide) short)
  natural := fun _ => Int.natCast_nonneg _
  ascii := ascii

theorem Insertion.decimal_ofNumeral {run after : Text} (filled : run ≠ [])
    (plain : ∀ c ∈ run, Decimal.isPlainDigit c = true) (short : run.length ≤ Decimal.digitLimit)
    (ascii : IsAscii after) (noZeros : run.head? = some '0' → run = ['0']) :
    (ofNumeral plain short ascii).decimal = run := by
  have natural : ¬(Decimal.readDigits run : Int) < 0 := Int.not_lt.mpr (Int.natCast_nonneg _)
  change Decimal.ofInt (Decimal.readDigits run) = run
  rw [Decimal.ofInt, if_neg natural, Int.natAbs_natCast]
  rcases List.exists_cons_of_ne_nil filled with ⟨c, rest, rfl⟩
  refine Decimal.ofNat_readDigits plain ?_
  by_cases zero : c = '0'
  · subst zero
    exact .inl (List.cons.inj (noZeros rfl)).2
  · exact .inr zero

structure IsCut (program first : Text) (insertions : List Insertion) : Prop where
  whole : program = first ++ Insertion.assemble Insertion.decimal insertions
  vectorized : vectorize program = .ok (first ++ Insertion.assemble Insertion.literal insertions)
  ascii : IsAscii first
  outside : ∀ c ∈ first, isDigit c = false
  between : ∀ insertion ∈ insertions, ∀ c ∈ insertion.after, isDigit c = false
  vector : ∀ insertion ∈ insertions, insertion.form = .vector
  digits : ∀ insertion ∈ insertions, ∃ c rest, insertion.decimal = c :: rest ∧ isDigit c = true
  separated : ∀ insertion ∈ insertions.dropLast, insertion.Separates

namespace IsCut

variable {program first : Text} {insertions : List Insertion}

theorem nil : IsCut [] [] [] where
  whole := rfl
  vectorized := numerals.replaceOr_nil _
  ascii := isAscii_nil
  outside := List.forall_mem_nil _
  between := List.forall_mem_nil _
  vector := List.forall_mem_nil _
  digits := List.forall_mem_nil _
  separated := List.forall_mem_nil _

theorem cons (cut : IsCut program first insertions) {c : Char} (ascii : c.toNat < 128)
    (outside : isDigit c = false) : IsCut (c :: program) (c :: first) insertions where
  whole := congrArg (c :: ·) cut.whole
  vectorized := by
    rw [vectorize_of_other outside, cut.vectorized]
    rfl
  ascii := (isAscii_cons c first).mpr ⟨ascii, cut.ascii⟩
  outside := List.forall_mem_cons.mpr ⟨outside, cut.outside⟩
  between := cut.between
  vector := cut.vector
  digits := cut.digits
  separated := cut.separated

theorem separates_first (cut : IsCut program first insertions) {run : Text}
    (isRun : IsRun isDigit run program)
    (noFraction : ∀ c d, isDigit c = true → isDigit d = true → ¬[c, '.', d] <:+: run ++ program)
    (more : insertions ≠ []) : first ≠ [] ∧ first ≠ ['.'] := by
  rcases List.exists_cons_of_ne_nil more with ⟨next, others, rfl⟩
  rcases cut.digits next List.mem_cons_self with ⟨d, rest, shown, isNext⟩
  have whole := cut.whole
  rw [Insertion.assemble_cons, shown, List.cons_append] at whole
  constructor
  · rintro rfl
    have stops := isRun.stop d (by rw [whole]; rfl)
    rw [isNext] at stops
    cases stops
  · rintro rfl
    have outside := isDigit_behind_point isRun noFraction whole
    rw [isNext] at outside
    cases outside

theorem run (cut : IsCut program first insertions) {run : Text}
    (isRun : IsRun isDigit run program) (ascii : IsAscii run)
    (short : run.length ≤ Decimal.digitLimit) (noZeros : run.head? = some '0' → run = ['0'])
    (noFraction : ∀ c d, isDigit c = true → isDigit d = true → ¬[c, '.', d] <:+: run ++ program) :
    IsCut (run ++ program) []
      (.ofNumeral (isPlainDigit_of_isDigit ascii isRun.inside) short cut.ascii :: insertions) := by
  have plain := isPlainDigit_of_isDigit ascii isRun.inside
  have shown := Insertion.decimal_ofNumeral isRun.filled plain short cut.ascii noZeros
  refine ⟨?_, ?_, isAscii_nil, List.forall_mem_nil _, List.forall_mem_cons.mpr ⟨cut.outside,
    cut.between⟩, List.forall_mem_cons.mpr ⟨rfl, cut.vector⟩, ?_, ?_⟩
  · rw [List.nil_append, Insertion.assemble_cons, shown]
    exact congrArg (run ++ ·) cut.whole
  · have isVector : (Insertion.ofNumeral plain short cut.ascii).form = .vector := rfl
    have encoded := Insertion.literal_of_vector isVector
    rw [vectorize_of_run isRun (fun _ _ => isDigit_behind_point isRun noFraction) plain short
      encoded, cut.vectorized, List.nil_append, Insertion.assemble_cons]
    rfl
  · refine List.forall_mem_cons.mpr ⟨?_, cut.digits⟩
    rcases List.exists_cons_of_ne_nil isRun.filled with ⟨c, rest, equal⟩
    exact ⟨c, rest, shown.trans equal, isRun.inside c (equal ▸ List.mem_cons_self)⟩
  · intro insertion member
    cases insertions with
    | nil => cases member
    | cons next others =>
        rw [List.dropLast_cons_cons] at member
        rcases List.mem_cons.mp member with rfl | later
        · exact cut.separates_first isRun noFraction (List.cons_ne_nil _ _)
        · exact cut.separated insertion later

theorem noDigit_vectorized (cut : IsCut program first insertions) :
    ∀ c ∈ first ++ Insertion.assemble Insertion.literal insertions, isDigit c = false := by
  have glyphs : ∀ glyph ∈ cross :: minus :: wholeGlyphs, isDigit glyph = false := by decide
  refine List.forall_mem_append.mpr ⟨cut.outside, List.forall_mem_flatMap.mpr ?_⟩
  intro insertion member
  refine List.forall_mem_append.mpr ⟨fun c inLiteral => ?_, cut.between insertion member⟩
  exact glyphs c (Insertion.mem_vector_literal (cut.vector insertion member) inLiteral)

end IsCut

theorem exists_isCut {program : Text} (ascii : IsAscii program)
    (whole : HasWholeNumerals program) : ∃ first insertions, IsCut program first insertions := by
  induction program using runInduction isDigit with
  | empty => exact ⟨[], [], .nil⟩
  | other c rest outside induction =>
      rw [isAscii_cons] at ascii
      rcases induction ascii.2 (whole.of_other outside) with ⟨first, insertions, cut⟩
      exact ⟨c :: first, insertions, cut.cons ascii.1 outside⟩
  | run run rest isRun induction =>
      rw [isAscii_append] at ascii
      rcases induction ascii.2 (whole.of_run isRun) with ⟨first, insertions, cut⟩
      have inRuns : run ∈ runs isDigit (run ++ rest) := by
        rw [isRun.runs_append]
        exact List.mem_cons_self
      exact ⟨[], _, cut.run isRun ascii.1 (whole.short run inRuns) (whole.noZeros run inRuns)
        whole.noFraction⟩

/-! ## Compilation -/

/-- A vectorised program holds no digit and compiles to the same text as the program itself. -/
theorem compile_vectorize (options : CompileOptions) {program : Text} (ascii : IsAscii program)
    (whole : HasWholeNumerals program) :
    ∃ vectorized, vectorize program = .ok vectorized ∧ (∀ c ∈ vectorized, isDigit c = false) ∧
      (compile options vectorized).success = true ∧ (compile options program).success = true ∧
      (compile options vectorized).javascript = (compile options program).javascript := by
  rcases exists_isCut ascii whole with ⟨first, insertions, cut⟩
  have read := compile_of_ascii options (Insertion.decodeNumbers_assemble cut.ascii cut.separated)
    (Insertion.assemble_decimal_ascii cut.ascii insertions)
  have kept : Construct.decodeNumbers program = .ok program := by
    have unread := @Insertion.decodeNumbers_assemble _ ascii [] (List.forall_mem_nil _)
    rwa [Insertion.assemble, List.flatMap_nil, Insertion.assemble, List.flatMap_nil,
      List.append_nil] at unread
  have plain := compile_of_ascii options kept ascii
  exact ⟨_, cut.vectorized, cut.noDigit_vectorized, read.1, plain.1,
    by rw [read.2, plain.2, ← cut.whole]⟩

/-- A program with a numeral inside a name, behind a sign and in front of a point. -/
def ratioProgram : Text :=
  "x1.y=-10/a[0].z20;".toList

theorem hasWholeNumerals_ratioProgram : HasWholeNumerals ratioProgram where
  short := by decide +kernel
  noZeros := by decide +kernel
  noFraction := by
    rintro c d _ digit ⟨front, back, parts⟩
    have chain : ratioProgram.IsChain fun c next => c = '.' → isDigit next = false := by decide
    have split : ratioProgram = (front ++ [c]) ++ '.' :: d :: back := by
      rw [← parts]
      simp
    have other := List.isChain_iff_forall_rel_of_append_cons_cons.mp chain split rfl
    rw [digit] at other
    cases other

theorem compile_vectorize_ratioProgram :
    IsAscii ratioProgram ∧ HasWholeNumerals ratioProgram ∧
      ∃ vectorized, vectorize ratioProgram = .ok vectorized ∧
        (∀ c ∈ vectorized, isDigit c = false) ∧
        (compile {} vectorized).success = true ∧ (compile {} ratioProgram).success = true ∧
        (compile {} vectorized).javascript = (compile {} ratioProgram).javascript :=
  ⟨by decide, hasWholeNumerals_ratioProgram,
    compile_vectorize {} (by decide) hasWholeNumerals_ratioProgram⟩

end SymbolScript
