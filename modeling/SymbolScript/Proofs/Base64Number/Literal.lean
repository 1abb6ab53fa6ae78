import SymbolScript.Proofs.Base64Number.RoundTrip

/-! Base-64 literals are cut out of a longer text wherever they stand, and nothing else is. -/

namespace SymbolScript.Base64Number

theorem alphabet_eq : alphabet =
    Text.charsFrom 'A' 26 ++ Text.charsFrom 'a' 26 ++ Text.charsFrom '0' 10 ++ ['+', '/'] := by
  decide

theorem alphabet_ascii : ∀ c ∈ alphabet, c.toNat < 128 := by
  rw [alphabet_eq]
  decide

theorem isDigit_iff {c : Char} : isDigit c = true ↔ c ∈ alphabet :=
  List.isSome_idxOf?

theorem isDigit_eq_false_iff {c : Char} : isDigit c = false ↔ c ∉ alphabet := by
  rw [← isDigit_iff, Bool.not_eq_true]

theorem isDigit_of_foreign {c : Char} (foreign : 128 ≤ c.toNat) : isDigit c = false := by
  rw [isDigit_eq_false_iff]
  intro member
  have ascii := alphabet_ascii c member
  omega

theorem isDigit_of_mem_ofNat {number : Nat} {c : Char} (member : c ∈ ofNat number) :
    isDigit c = true := by
  rcases List.mem_map.mp member with ⟨value, isValue, rfl⟩
  rw [isDigit, value?_digit value (Positional.lt_of_mem_digits (by decide) isValue),
    Option.isSome_some]

theorem takeLiteral?_of_digits {digits : Text} (filled : digits ≠ [])
    (inside : ∀ c ∈ digits, isDigit c = true) (rest : Text) :
    takeLiteral? (literal digits ++ rest) = some (digits, rest) := by
  have stop : ∀ c, ('⟩' :: rest).head? = some c → isDigit c = false := by
    intro c first
    cases first
    exact isDigit_of_foreign (by decide)
  have run := Text.takeRun_append inside stop
  cases digits with
  | nil => exact absurd rfl filled
  | cons c digits =>
      simp only [literal, List.cons_append, List.append_assoc, List.nil_append, takeLiteral?]
      rw [← List.cons_append, run]
      rfl

theorem takeLiteral?_literal (number : Nat) (rest : Text) :
    takeLiteral? (literal (ofNat number) ++ rest) = some (ofNat number, rest) :=
  takeLiteral?_of_digits (ofNat_ne_nil number) (fun _ member => isDigit_of_mem_ofNat member) rest

theorem decodeLiteral_literal (number : Nat) (rest : Text) :
    decodeLiteral (literal (ofNat number) ++ rest) = .ok number := by
  have first : literals.first? (literal (ofNat number) ++ rest) = some (ofNat number) :=
    literals.first?_of_found (takeLiteral?_literal number rest)
  rw [decodeLiteral, first]
  exact decode_ofNat number

theorem takeLiteral?_parts {text digits rest : Text}
    (taken : takeLiteral? text = some (digits, rest)) :
    text = literal digits ++ rest ∧ ∀ c ∈ digits, isDigit c = true := by
  unfold takeLiteral? at taken
  split at taken
  · split at taken
    · next run =>
      cases taken
      rcases Text.takeRun_parts run with ⟨whole, inside⟩
      refine ⟨?_, inside⟩
      rw [← whole, literal, List.cons_append, List.append_assoc]
      rfl
    · cases taken
  · cases taken

theorem takeLiteral?_filled {text digits rest : Text}
    (taken : takeLiteral? text = some (digits, rest)) : digits ≠ [] := by
  unfold takeLiteral? at taken
  split at taken
  · split at taken
    · cases taken
      exact List.cons_ne_nil _ _
    · cases taken
  · cases taken

theorem takeLiteral?_of_other {c : Char} {rest : Text} (other : c ≠ '#' ∨ rest.head? ≠ some '⟨') :
    takeLiteral? (c :: rest) = none := by
  unfold takeLiteral?
  split
  · next equal =>
    cases equal
    simp at other
  · rfl

theorem replaceOr_append_of_no_angle {ε : Type} (spell : Text → Except ε Text) {text after : Text}
    (absent : '⟨' ∉ text) (stop : after.head? ≠ some '⟨') :
    literals.replaceOr spell (text ++ after) =
      (literals.replaceOr spell after).map (text ++ ·) := by
  apply literals.replaceOr_append_of_plain
  intro left c right equal
  apply takeLiteral?_of_other
  right
  cases right with
  | nil => exact stop
  | cons d right =>
      intro isAngle
      cases isAngle
      apply absent
      rw [equal]
      simp

theorem literals_startsWith : literals.StartsWith ['#'] :=
  fun _ _ other => takeLiteral?_of_other (.inl (by simpa using other))

theorem takeLiteral?_of_closingTag {tag : Char} (noDigit : isDigit tag = false)
    (noBracket : tag ≠ '⟩') (rest : Text) :
    takeLiteral? ('#' :: '⟨' :: '/' :: tag :: rest) = none := by
  have slash : isDigit '/' = true := by
    rw [isDigit_iff, alphabet_eq]
    decide
  simp [takeLiteral?, Text.takeRun, slash, noDigit, noBracket]

theorem replaceOr_append_of_closingTag {ε : Type} (spell : Text → Except ε Text) {body : Text}
    (absent : '⟨' ∉ body) {tag : Char} (noDigit : isDigit tag = false) (noBracket : tag ≠ '⟩')
    (rest : Text) :
    literals.replaceOr spell (body ++ '⟨' :: '/' :: tag :: rest) =
      (literals.replaceOr spell ('⟨' :: '/' :: tag :: rest)).map (body ++ ·) := by
  apply literals.replaceOr_append_of_plain
  intro left c right equal
  cases right with
  | nil =>
      by_cases sign : c = '#'
      · rw [sign]
        exact takeLiteral?_of_closingTag noDigit noBracket rest
      · exact takeLiteral?_of_other (.inl sign)
  | cons d right =>
      apply takeLiteral?_of_other
      right
      intro isAngle
      cases isAngle
      apply absent
      rw [equal]
      simp

theorem isDigit_newline : isDigit '\n' = false := by
  rw [isDigit_eq_false_iff, alphabet_eq]
  decide

theorem literals_stopAt_newline : literals.StopsAt '\n' := by
  intro text rest
  have run := fun body : Text => Text.takeRun_append_cons isDigit_newline body rest
  change takeLiteral? (text ++ '\n' :: rest) = (takeLiteral? text).map _
  match text with
  | [] => rfl
  | [c] =>
      rw [takeLiteral?_of_other (.inr (by simp)), List.cons_append]
      rw [takeLiteral?_of_other (.inr (by simp))]
      rfl
  | c :: d :: body =>
      by_cases opened : c = '#' ∧ d = '⟨'
      · rcases opened with ⟨rfl, rfl⟩
        simp only [List.cons_append, takeLiteral?, run]
        rcases Text.takeRun isDigit body with ⟨_ | ⟨first, digits⟩, _ | ⟨closing, after⟩⟩
        · rfl
        · rfl
        · rfl
        · by_cases closed : closing = '⟩'
          · subst closed
            rfl
          · simp [closed]
      · have other : c ≠ '#' ∨ d ≠ '⟨' := not_and_or.mp opened
        rw [takeLiteral?_of_other (by simpa using other), List.cons_append, List.cons_append,
          takeLiteral?_of_other (by simpa using other)]
        rfl

end SymbolScript.Base64Number
