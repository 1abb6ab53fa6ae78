import SymbolScript.Construct.Literal
import SymbolScript.Proofs.Text.Basic

/-!
Laws of fields. Reading a text as fields drops separators and blanks only, and a joined list of
fields that need no brackets or quotes is read back as that list.
-/

namespace SymbolScript.Construct

open Text

theorem scanFields_step (isSeparator : Char → Bool) (quote : Option Char) (depth : Int) (c : Char)
    (rest : Text) : ∃ nextQuote nextDepth,
    scanFields isSeparator quote depth (c :: rest) =
        (c :: (scanFields isSeparator nextQuote nextDepth rest).1,
          (scanFields isSeparator nextQuote nextDepth rest).2) ∨
      isSeparator c = true ∧ scanFields isSeparator quote depth (c :: rest) =
        ([], (scanFields isSeparator nextQuote nextDepth rest).1 ::
          (scanFields isSeparator nextQuote nextDepth rest).2) := by
  cases quote with
  | some quote => exact ⟨if c = quote then none else some quote, depth, .inl rfl⟩
  | none =>
      rw [scanFields]
      by_cases opensQuote : isQuote c = true
      · exact ⟨some c, depth, .inl (if_pos opensQuote)⟩
      rw [if_neg opensQuote]
      by_cases opens : isNestingOpener c = true
      · exact ⟨none, depth + 1, .inl (if_pos opens)⟩
      rw [if_neg opens]
      by_cases closes : isNestingCloser c = true
      · exact ⟨none, depth - 1, .inl (if_pos closes)⟩
      rw [if_neg closes]
      by_cases separates : (isSeparator c && depth == 0) = true
      · exact ⟨none, depth, .inr ⟨(Bool.and_eq_true_iff.mp separates).1, if_pos separates⟩⟩
      · exact ⟨none, depth, .inl (if_neg separates)⟩

/-! ## What is kept -/

section Kept

variable {isSeparator keep : Char → Bool}

theorem filter_scanFields (separators : ∀ c, isSeparator c = true → keep c = false)
    (quote : Option Char) (depth : Int) (text : Text) :
    (scanFields isSeparator quote depth text).1.filter keep ++
        (scanFields isSeparator quote depth text).2.flatten.filter keep = text.filter keep := by
  induction text generalizing quote depth with
  | nil => cases quote <;> rfl
  | cons c rest induction =>
      rcases scanFields_step isSeparator quote depth c rest with
        ⟨nextQuote, nextDepth, scanned | ⟨separates, scanned⟩⟩
      · rw [scanned, List.filter_cons, List.filter_cons, ← induction nextQuote nextDepth]
        split <;> rfl
      · rw [scanned, List.filter_cons_of_neg (by simp [separators c separates]),
          ← induction nextQuote nextDepth, List.flatten_cons, List.filter_append]
        rfl

theorem filter_fields (separators : ∀ c, isSeparator c = true → keep c = false)
    (blanks : ∀ c, isBlank c = true → keep c = false) (text : Text) :
    (fields isSeparator text).flatten.filter keep = text.filter keep := by
  have trimmed : ∀ pieces : List Text,
      (pieces.map trim).flatten.filter keep = pieces.flatten.filter keep := by
    intro pieces
    induction pieces with
    | nil => rfl
    | cons piece rest induction =>
        rw [List.map_cons, List.flatten_cons, List.filter_append, trim,
          filter_trimBy_of_disjoint blanks, induction, List.flatten_cons, List.filter_append]
  rw [fields, List.flatten_filter_not_isEmpty, trimmed, List.flatten_cons, List.filter_append,
    filter_scanFields separators]

end Kept

/-! ## Plain fields -/

/-- A text that a scan for fields passes over: no quote, no bracket that nests and no separator. -/
def IsPlainField (isSeparator : Char → Bool) (text : Text) : Prop :=
  ∀ c ∈ text, isQuote c = false ∧ isNestingOpener c = false ∧ isNestingCloser c = false ∧
    isSeparator c = false

instance (isSeparator : Char → Bool) (text : Text) : Decidable (IsPlainField isSeparator text) :=
  inferInstanceAs (Decidable (∀ c ∈ text, isQuote c = false ∧ isNestingOpener c = false ∧
    isNestingCloser c = false ∧ isSeparator c = false))

/-! ## Parameter lists -/

theorem mem_parameterList {text : Text} {c : Char} (member : c ∈ parameterList text) :
    c ∈ ", ".toList ∨ c ∈ text := by
  rcases mem_join member with inSeparator | ⟨name, isName, inside⟩
  · exact .inl inSeparator
  · rcases List.mem_map.mp (List.mem_filter.mp isName).1 with ⟨piece, isPiece, rfl⟩
    exact .inr (mem_of_mem_splitOn isPiece (mem_of_mem_trimBy inside))

theorem parameters_join_pieces {pieces : List Text} (plain : ∀ piece ∈ pieces, ',' ∉ piece) :
    parameters (join "," pieces) = (pieces.map trim).filter fun name => !name.isEmpty := by
  cases pieces with
  | nil => rfl
  | cons first rest => rw [parameters, splitOn_join rfl plain]

theorem parameters_join {names : List Text} (plain : ∀ name ∈ names, ',' ∉ name)
    (trimmed : ∀ name ∈ names, trim name = name) (filled : ∀ name ∈ names, name ≠ []) :
    parameters (join "," names) = names := by
  have unchanged : names.map trim = names :=
    (List.map_congr_left trimmed).trans (List.map_id' _)
  rw [parameters_join_pieces plain, unchanged, List.filter_eq_self]
  intro name member
  simp [filled name member]

theorem parameterList_join {names : List Text} (plain : ∀ name ∈ names, ',' ∉ name)
    (trimmed : ∀ name ∈ names, trim name = name) (filled : ∀ name ∈ names, name ≠ []) :
    parameterList (join "," names) = join ", " names := by
  rw [parameterList, parameters_join plain trimmed filled]

end SymbolScript.Construct
