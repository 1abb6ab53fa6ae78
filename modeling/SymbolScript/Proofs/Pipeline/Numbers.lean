import SymbolScript.Proofs.Base64Number.Literal
import SymbolScript.Proofs.Construct.NumberLiteral
import SymbolScript.Proofs.Pipeline.Stages
import SymbolScript.Proofs.VectorNumber.Literal

/-!
Number literals between ASCII texts. Each literal is cut out on its own and read as the integer it
was written for, and nothing else of the text changes until it is tidied.
-/

namespace SymbolScript

open Construct Text

/-! ## Texts with integers -/

inductive IntegerForm
  | vector
  | base64
deriving DecidableEq

def IntegerForm.write : IntegerForm → Int → Except Failure Text
  | vector, number => VectorNumber.encode (.whole number)
  | base64, number => Base64Number.encodeLiteral number

/-- An integer in a source text, in a notation that can write it, and the text after it. -/
structure Insertion where
  form : IntegerForm
  number : Int
  after : Text
  bounded : number.natAbs < 10 ^ Decimal.digitLimit
  natural : form = .base64 → 0 ≤ number
  ascii : IsAscii after

namespace Insertion

def literal (insertion : Insertion) : Text :=
  (insertion.form.write insertion.number).toOption.getD []

def assemble (shown : Insertion → Text) (insertions : List Insertion) : Text :=
  insertions.flatMap fun insertion => shown insertion ++ insertion.after

theorem assemble_cons (shown : Insertion → Text) (insertion : Insertion) (rest : List Insertion) :
    assemble shown (insertion :: rest) =
      shown insertion ++ (insertion.after ++ assemble shown rest) := by
  rw [assemble, List.flatMap_cons, List.append_assoc, assemble]

def decimal (insertion : Insertion) : Text :=
  Decimal.ofInt insertion.number

def halfway (insertion : Insertion) : Text :=
  match insertion.form with
  | .vector => insertion.literal
  | .base64 => insertion.decimal

/-- A text that separates the literals around it: without one they run together, and a point may
join two vector literals. -/
def Separates (insertion : Insertion) : Prop :=
  insertion.after ≠ [] ∧ insertion.after ≠ ['.']

instance (insertion : Insertion) : Decidable insertion.Separates :=
  inferInstanceAs (Decidable (_ ∧ _))

theorem write_eq (insertion : Insertion) :
    insertion.form.write insertion.number = .ok insertion.literal := by
  have written : ∃ text, insertion.form.write insertion.number = .ok text := by
    cases form : insertion.form with
    | vector => exact VectorNumber.exists_encode_whole insertion.bounded
    | base64 => exact ⟨_, Base64Number.encodeLiteral_of_natural (insertion.natural form)⟩
  rcases written with ⟨text, written⟩
  rw [literal, written]
  rfl

theorem literal_of_vector {insertion : Insertion} (form : insertion.form = .vector) :
    VectorNumber.encode (.whole insertion.number) = .ok insertion.literal := by
  have written := insertion.write_eq
  rwa [form] at written

theorem literal_of_base64 {insertion : Insertion} (form : insertion.form = .base64) :
    insertion.literal = Base64Number.literal (Base64Number.ofNat insertion.number.toNat) := by
  have written := insertion.write_eq
  rw [form, IntegerForm.write,
    Base64Number.encodeLiteral_of_natural (insertion.natural form)] at written
  exact (Except.ok.inj written).symm

theorem decimal_ascii (insertion : Insertion) : IsAscii insertion.decimal :=
  fun c member => Decimal.numeralChars_ascii c (Decimal.mem_ofInt member)

/-! ## Characters of literals -/

theorem mem_vector_literal {insertion : Insertion} (form : insertion.form = .vector) {c : Char}
    (member : c ∈ insertion.literal) :
    c ∈ VectorNumber.cross :: VectorNumber.minus :: VectorNumber.wholeGlyphs := by
  rcases VectorNumber.encode_whole_eq (literal_of_vector form) with ⟨glyphs, whole, equal⟩
  rw [equal, List.mem_append, List.mem_cons] at member
  rcases member with (rfl | isMinus) | inGlyphs
  · exact List.mem_cons_self
  · split at isMinus
    · rw [List.mem_singleton.mp isMinus]
      exact List.mem_cons_of_mem _ List.mem_cons_self
    · cases isMinus
  · exact List.mem_cons_of_mem _ (List.mem_cons_of_mem _ (whole.mem_wholeGlyphs c inGlyphs))

theorem mem_base64_literal {insertion : Insertion} (form : insertion.form = .base64) {c : Char}
    (member : c ∈ insertion.literal) : c.toNat < 128 ∨ c = '⟨' ∨ c = '⟩' := by
  rw [literal_of_base64 form, Base64Number.literal] at member
  simp only [List.mem_cons, List.mem_append, List.not_mem_nil, or_false] at member
  rcases member with (rfl | rfl | isDigit) | rfl
  · exact .inl (by decide)
  · exact .inr (.inl rfl)
  · have known := Base64Number.isDigit_iff.mp (Base64Number.isDigit_of_mem_ofNat isDigit)
    exact .inl (Base64Number.alphabet_ascii c known)
  · exact .inr (.inr rfl)

theorem head_literal (insertion : Insertion) (rest : Text) :
    (insertion.literal ++ rest).head? ≠ some '⟨' := by
  cases form : insertion.form with
  | vector =>
      rcases VectorNumber.encode_whole_eq (literal_of_vector form) with ⟨glyphs, _, equal⟩
      rw [equal]
      simp [VectorNumber.cross]
  | base64 =>
      rw [literal_of_base64 form]
      simp [Base64Number.literal]

/-! ## Reading the numbers -/

theorem uncircled_literal (insertion : Insertion) :
    ∀ c ∈ insertion.literal, circledValue? c = none := by
  intro c member
  cases form : insertion.form with
  | vector =>
      have each : ∀ glyph ∈ VectorNumber.cross :: VectorNumber.minus :: VectorNumber.wholeGlyphs,
          circledValue? glyph = none := by decide
      exact each c (mem_vector_literal form member)
  | base64 =>
      rcases mem_base64_literal form member with ascii | rfl | rfl
      · exact circledValue?_of_ascii ascii
      · decide
      · decide

theorem replace_composites {first : Text} (ascii : IsAscii first) (insertions : List Insertion) :
    composites.replace spellComposite (first ++ assemble literal insertions) =
      first ++ assemble literal insertions := by
  apply replaceComposites_of_uncircled
  intro c member
  rcases List.mem_append.mp member with inFirst | inRest
  · exact circledValue?_of_ascii (ascii c inFirst)
  · rcases List.mem_flatMap.mp inRest with ⟨insertion, _, inside⟩
    rcases List.mem_append.mp inside with inLiteral | inAfter
    · exact insertion.uncircled_literal c inLiteral
    · exact circledValue?_of_ascii (insertion.ascii c inAfter)

theorem replaceOr_base64_of_vector {insertion : Insertion} (form : insertion.form = .vector)
    (after : Text) :
    Base64Number.literals.replaceOr spellBase64 (insertion.literal ++ after) =
      (Base64Number.literals.replaceOr spellBase64 after).map (insertion.literal ++ ·) := by
  apply Base64Number.literals.replaceOr_append_of_plain
  intro left c right equal
  apply Base64Number.takeLiteral?_of_other
  left
  rintro rfl
  have member : '#' ∈ insertion.literal := by
    rw [equal]
    exact List.mem_append_right left List.mem_cons_self
  exact absurd (mem_vector_literal form member) (by decide)

theorem spellBase64_ofNat {insertion : Insertion} (form : insertion.form = .base64) :
    spellBase64 (Base64Number.ofNat insertion.number.toNat) = .ok insertion.decimal := by
  have natural := insertion.natural form
  have back : ((insertion.number.toNat : Nat) : Int) = insertion.number := by omega
  simp only [spellBase64, Base64Number.decode_ofNat, bind, Except.bind, back]
  exact Decimal.write_of_bounded insertion.bounded

theorem replace_base64 {first : Text} (ascii : IsAscii first) (insertions : List Insertion) :
    Base64Number.literals.replaceOr spellBase64 (first ++ assemble literal insertions) =
      .ok (first ++ assemble halfway insertions) := by
  induction insertions generalizing first with
  | nil =>
      rw [assemble, List.flatMap_nil,
        Base64Number.replaceOr_append_of_no_angle spellBase64 (ascii.not_mem (by decide)) (by simp)]
      simp [Except.map, assemble]
  | cons insertion rest induction =>
      have later := induction insertion.ascii
      rw [assemble_cons, assemble_cons,
        Base64Number.replaceOr_append_of_no_angle spellBase64 (ascii.not_mem (by decide))
          (insertion.head_literal _)]
      cases form : insertion.form with
      | vector =>
          rw [replaceOr_base64_of_vector form, later, halfway, form]
          rfl
      | base64 =>
          have taken : Base64Number.literals.take
              (insertion.literal ++ (insertion.after ++ assemble literal rest)) =
              some (Base64Number.ofNat insertion.number.toNat,
                insertion.after ++ assemble literal rest) := by
            rw [literal_of_base64 form]
            exact Base64Number.takeLiteral?_literal insertion.number.toNat _
          rw [Base64Number.literals.replaceOr_of_found spellBase64 taken,
            spellBase64_ofNat form, later, halfway, form]
          rfl

theorem spellVector_literal {insertion : Insertion} (form : insertion.form = .vector) :
    spellVector insertion.literal = .ok insertion.decimal := by
  simp only [spellVector, VectorNumber.decode_of_encode (literal_of_vector form), bind, Except.bind]
  exact Decimal.write_of_bounded insertion.bounded

theorem replace_vector {first : Text} (ascii : IsAscii first) {insertions : List Insertion}
    (separated : ∀ insertion ∈ insertions.dropLast, insertion.Separates) :
    VectorNumber.literals.replaceOr spellVector (first ++ assemble halfway insertions) =
      .ok (first ++ assemble decimal insertions) := by
  have skip : ∀ {text : Text}, IsAscii text → ∀ after,
      VectorNumber.literals.replaceOr spellVector (text ++ after) =
        (VectorNumber.literals.replaceOr spellVector after).map (text ++ ·) :=
    fun ascii after => vectorLiterals_startsWith.replaceOr_append spellVector
      (unmarked_of_ascii ascii (by decide)) after
  induction insertions generalizing first with
  | nil =>
      rw [assemble, List.flatMap_nil, skip ascii]
      simp [Except.map, assemble]
  | cons insertion rest induction =>
      have ends : VectorNumber.EndsNumber (insertion.after ++ assemble halfway rest) := by
        apply VectorNumber.endsNumber_append insertion.ascii
        cases rest with
        | nil => exact .inr rfl
        | cons next others => exact .inl (separated insertion List.mem_cons_self)
      have later := induction insertion.ascii fun other member => separated other (by
        cases rest with
        | nil => cases member
        | cons next others => exact List.mem_cons_of_mem insertion member)
      rw [assemble_cons, assemble_cons, skip ascii]
      cases form : insertion.form with
      | vector =>
          have taken : VectorNumber.literals.take
              (insertion.literal ++ (insertion.after ++ assemble halfway rest)) =
              some (insertion.literal, insertion.after ++ assemble halfway rest) :=
            VectorNumber.takeLiteral?_of_encode (literal_of_vector form) ends
          rw [halfway, form, VectorNumber.literals.replaceOr_of_found spellVector taken,
            spellVector_literal form, later]
          rfl
      | base64 =>
          rw [halfway, form, skip insertion.decimal_ascii, later]
          rfl

theorem decodeNumbers_assemble {first : Text} (ascii : IsAscii first) {insertions : List Insertion}
    (separated : ∀ insertion ∈ insertions.dropLast, insertion.Separates) :
    decodeNumbers (first ++ assemble literal insertions) =
      .ok (first ++ assemble decimal insertions) := by
  simp only [decodeNumbers, replace_composites ascii, replace_base64 ascii, bind, Except.bind]
  exact replace_vector ascii separated

theorem assemble_decimal_ascii {first : Text} (ascii : IsAscii first)
    (insertions : List Insertion) : IsAscii (first ++ assemble decimal insertions) := by
  rw [isAscii_append]
  refine ⟨ascii, ?_⟩
  intro c member
  rcases List.mem_flatMap.mp member with ⟨insertion, _, inside⟩
  rcases List.mem_append.mp inside with inDecimal | inAfter
  · exact insertion.decimal_ascii c inDecimal
  · exact insertion.ascii c inAfter

end Insertion

/-! ## Compilation -/

/-- Integers of any size up to the digit limit may be written in either notation between ASCII
texts. If no two of them are next to each other or joined by a point, the source compiles to the
text with their decimals in place, tidied; without integers it is the source itself, tidied. -/
theorem compile_insertions (options : CompileOptions) (first : Text) (ascii : IsAscii first)
    (insertions : List Insertion)
    (separated : ∀ insertion ∈ insertions.dropLast, insertion.Separates) :
    (∀ insertion ∈ insertions,
      insertion.form.write insertion.number = .ok insertion.literal) ∧
    let source := first ++ insertions.flatMap fun insertion => insertion.literal ++ insertion.after
    let decimals := first ++ insertions.flatMap fun insertion =>
      Decimal.ofInt insertion.number ++ insertion.after
    (compile options source).success = true ∧ (compile options source).javascript = tidy decimals :=
  ⟨fun insertion _ => insertion.write_eq,
    compile_of_ascii options (Insertion.decodeNumbers_assemble ascii separated)
      (Insertion.assemble_decimal_ascii ascii insertions)⟩

theorem compile_insertions_pair :
    IsAscii "x = ".toList ∧
      (compile {} "x = ⊗⁻χε; y = ##⟨BA⟩.".toList).success = true ∧
      (compile {} "x = ⊗⁻χε; y = ##⟨BA⟩.".toList).javascript = "x = -15; y = #64.".toList := by
  have ascii : IsAscii "x = ".toList := by decide
  let negative : Insertion :=
    ⟨.vector, -15, "; y = #".toList, by decide +kernel, by decide, by decide⟩
  let natural : Insertion := ⟨.base64, 64, ".".toList, by decide +kernel, by decide, by decide⟩
  have separated : ∀ insertion ∈ [negative, natural].dropLast, insertion.Separates := by
    intro insertion member
    rw [List.mem_singleton.mp member]
    decide
  have compiled := (compile_insertions {} "x = ".toList ascii [negative, natural] separated).2
  have source : "x = ".toList ++ [negative, natural].flatMap
      (fun insertion => insertion.literal ++ insertion.after) =
        "x = ⊗⁻χε; y = ##⟨BA⟩.".toList := by
    decide +kernel
  have shown : tidy ("x = ".toList ++ [negative, natural].flatMap fun insertion =>
      Decimal.ofInt insertion.number ++ insertion.after) = "x = -15; y = #64.".toList := by
    decide +kernel
  rw [← source, ← shown]
  exact ⟨ascii, compiled⟩

end SymbolScript
