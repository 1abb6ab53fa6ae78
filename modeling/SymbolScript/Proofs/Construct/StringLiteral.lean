import SymbolScript.Proofs.Construct.NestedBlock

/-!
String literals of the output. A backslash takes the character behind it with it, so a quote behind
one does not end the literal. Quotes of a string block are written so, but backslashes stay as they
are: the literal stands for the content of the block exactly if that holds no backslash.
-/

namespace SymbolScript.Construct

/-! ## Literals and their values -/

/-- What stands between the quotes of a string literal, and the text it stands for. A backslash and
the character behind it stand for that character, and others for themselves; no quote and no
backslash stands alone. -/
inductive Spells : Text → Text → Prop
  | nil : Spells [] []
  | plain {c : Char} {contents value : Text} (noQuote : c ≠ '\x22') (noBackslash : c ≠ '\\')
      (later : Spells contents value) : Spells (c :: contents) (c :: value)
  | escaped {c : Char} {contents value : Text} (later : Spells contents value) :
      Spells ('\\' :: c :: contents) (c :: value)

/-- Whether a text is one string literal, which stands for the given value. -/
def IsStringLiteral (written value : Text) : Prop :=
  ∃ contents, written = '\x22' :: (contents ++ ['\x22']) ∧ Spells contents value

theorem Spells.length_le {contents value : Text} (spells : Spells contents value) :
    value.length + value.count '\x22' + value.count '\\' ≤ contents.length := by
  induction spells with
  | nil => exact Nat.le_refl 0
  | plain noQuote noBackslash _ induction =>
      rw [List.count_cons_of_ne noQuote, List.count_cons_of_ne noBackslash]
      simp only [List.length_cons]
      omega
  | @escaped c contents value _ induction =>
      simp only [List.length_cons]
      by_cases quote : c = '\x22'
      · rw [quote, List.count_cons_self, List.count_cons_of_ne (by decide)]
        omega
      · by_cases backslash : c = '\\'
        · rw [backslash, List.count_cons_self, List.count_cons_of_ne (by decide)]
          omega
        · rw [List.count_cons_of_ne quote, List.count_cons_of_ne backslash]
          omega

/-! ## Written literals -/

def literalContents (content : Text) : Text :=
  Text.replaceChar '\x22' "\\\"".toList content

theorem stringLiteral_eq (content : Text) :
    stringLiteral content = '\x22' :: (literalContents content ++ ['\x22']) := rfl

theorem literalContents_quote (rest : Text) :
    literalContents ('\x22' :: rest) = '\\' :: '\x22' :: literalContents rest := rfl

theorem literalContents_of_ne {c : Char} (noQuote : c ≠ '\x22') (rest : Text) :
    literalContents (c :: rest) = c :: literalContents rest := by
  rw [literalContents, Text.replaceChar, List.flatMap_cons, if_neg noQuote]
  rfl

theorem mem_literalContents {c : Char} {content : Text} (member : c ∈ literalContents content) :
    c = '\\' ∨ c ∈ content := by
  rcases List.mem_flatMap.mp member with ⟨d, inContent, written⟩
  split at written
  · next isQuote =>
    have escaped : c ∈ ['\\', '\x22'] := written
    rcases List.mem_pair.mp escaped with isBackslash | same
    · exact .inl isBackslash
    · rw [same, ← isQuote]
      exact .inr inContent
  · rw [List.mem_singleton.mp written]
    exact .inr inContent

theorem length_literalContents (content : Text) :
    (literalContents content).length = content.length + content.count '\x22' := by
  induction content with
  | nil => rfl
  | cons c rest induction =>
      by_cases quote : c = '\x22'
      · rw [quote, literalContents_quote, List.count_cons_self]
        simp only [List.length_cons]
        omega
      · rw [literalContents_of_ne quote, List.count_cons_of_ne quote]
        simp only [List.length_cons]
        omega

theorem spells_literalContents {content : Text} (noBackslash : '\\' ∉ content) :
    Spells (literalContents content) content := by
  induction content with
  | nil => exact .nil
  | cons c rest induction =>
      rcases List.ne_and_not_mem_of_not_mem_cons noBackslash with ⟨different, later⟩
      by_cases quote : c = '\x22'
      · rw [quote, literalContents_quote]
        exact .escaped (induction later)
      · rw [literalContents_of_ne quote]
        exact .plain quote different.symm (induction later)

/-- The literal that is written for a text stands for it exactly if the text has no backslash: there
would have to be two characters for it, but there is one. -/
theorem isStringLiteral_stringLiteral_iff (content : Text) :
    IsStringLiteral (stringLiteral content) content ↔ '\\' ∉ content := by
  rw [stringLiteral_eq]
  constructor
  · rintro ⟨contents, equal, spells⟩
    have same : literalContents content = contents :=
      List.append_cancel_right (List.cons.inj equal).2
    have longEnough := spells.length_le
    rw [← same, length_literalContents] at longEnough
    rw [← List.count_eq_zero]
    omega
  · intro noBackslash
    exact ⟨literalContents content, rfl, spells_literalContents noBackslash⟩

/-! ## String blocks -/

/-- A string block without brackets is always replaced, and what is written for it is a literal that
stands for its content exactly if the content has no backslash. -/
theorem rewriteLiterals_string {content : Text}
    (plain : ∀ c ∈ content, isBlockBracket c = false) :
    ∃ written, rewriteLiterals ('文' :: '⟨' :: (content ++ ['⟩'])) = .ok written ∧
      (IsStringLiteral written content ↔ '\\' ∉ content) := by
  have nested : WellNested blockCloser? content :=
    (wellNested_iff content).mpr (dueAfter?_of_no_bracket plain [])
  have unopened : ∀ c ∈ content, blockCloser? c = none :=
    fun c member => ((isBlockBracket_eq_false_iff c).mp (plain c member)).1
  have replaced : rewriteLiterals ('文' :: '⟨' :: (content ++ ['⟩'])) =
      .ok (stringLiteral content ++ []) :=
    rewriteBlocks_of_block rfl rfl nested (rewriteFrom_of_unopened unopened 0) (rewriteFrom_nil 0)
  rw [List.append_nil] at replaced
  exact ⟨stringLiteral content, replaced, isStringLiteral_stringLiteral_iff content⟩

theorem rewriteLiterals_string_quotes :
    (∀ c ∈ "文\"a\",'\"\"".toList, isBlockBracket c = false) ∧ '\\' ∉ "文\"a\",'\"\"".toList ∧
      ∃ written, rewriteLiterals ('文' :: '⟨' :: ("文\"a\",'\"\"".toList ++ ['⟩'])) = .ok written ∧
        IsStringLiteral written "文\"a\",'\"\"".toList := by
  have plain : ∀ c ∈ "文\"a\",'\"\"".toList, isBlockBracket c = false := by decide
  have noBackslash : '\\' ∉ "文\"a\",'\"\"".toList := by decide
  rcases rewriteLiterals_string plain with ⟨written, rewritten, faithful⟩
  exact ⟨plain, noBackslash, written, rewritten, faithful.mpr noBackslash⟩

/-- A backslash at the end takes the closing quote with it, and there is no literal. -/
theorem rewriteLiterals_string_backslash :
    rewriteLiterals ('文' :: '⟨' :: ("a\\".toList ++ ['⟩'])) = .ok "\"a\\\"".toList ∧
      ∀ value, ¬IsStringLiteral "\"a\\\"".toList value := by
  refine ⟨by decide +kernel, ?_⟩
  rintro value ⟨contents, equal, spells⟩
  have same : ['a', '\\'] = contents :=
    List.append_cancel_right (List.cons.inj equal).2
  rw [← same] at spells
  cases spells with
  | plain _ _ later =>
      cases later with
      | plain _ noBackslash _ => exact noBackslash rfl

end SymbolScript.Construct
