import SymbolScript.Proofs.Base64Number.Literal

/-!
Base-64 numbers and texts of digits determine each other. Every natural number has exactly one text
without zeros in front, every text of digits is read, and it is the zeros in front alone that
writing the number again leaves out. Any other text is refused for its first foreign character.
-/

namespace SymbolScript.Base64Number

open Positional

/-! ## Digits and their values -/

theorem alphabet_length : alphabet.length = 64 := by
  decide

theorem digit_zero : digit 0 = 'A' := by
  decide

theorem digit_of_value? {c : Char} {value : Nat} (known : value? c = some value) :
    digit value = c ∧ value < 64 := by
  rcases List.idxOf?_eq_some_iff.mp known with ⟨inside, found, _⟩
  refine ⟨?_, alphabet_length ▸ inside⟩
  rw [digit, List.getD_eq_getElem?_getD, List.getElem?_eq_getElem inside, Option.getD_some, found]

theorem digit_injective {left right : Nat} (leftSmall : left < 64) (rightSmall : right < 64)
    (equal : digit left = digit right) : left = right := by
  have read := value?_digit left leftSmall
  rw [equal, value?_digit right rightSmall] at read
  exact (Option.some.inj read).symm

theorem mem_alphabet_digit {value : Nat} (small : value < 64) : digit value ∈ alphabet := by
  rw [← isDigit_iff, isDigit, value?_digit value small, Option.isSome_some]

/-! ## Reading digits -/

theorem exists_digitValues {text : Text} (digits : ∀ c ∈ text, c ∈ alphabet) :
    ∃ values, digitValues text = .ok values ∧ text = values.map digit ∧
      ∀ value ∈ values, value < 64 := by
  induction text with
  | nil => exact ⟨[], rfl, rfl, by simp⟩
  | cons c rest induction =>
      rcases List.forall_mem_cons.mp digits with ⟨first, later⟩
      rcases Option.isSome_iff_exists.mp (isDigit_iff.mpr first) with ⟨value, known⟩
      rcases digit_of_value? known with ⟨shown, small⟩
      rcases induction later with ⟨values, read, rfl, restSmall⟩
      refine ⟨value :: values, ?_, ?_, List.forall_mem_cons.mpr ⟨small, restSmall⟩⟩
      · rw [digitValues, known]
        simp only [read]
        rfl
      · rw [List.map_cons, shown]

theorem digitValues_of_foreign {before : Text} (digits : ∀ c ∈ before, c ∈ alphabet) {foreign : Char}
    (outside : foreign ∉ alphabet) (after : Text) :
    digitValues (before ++ foreign :: after) = .error (.number (.base64Character foreign)) := by
  induction before with
  | nil =>
      have unknown : value? foreign = none := List.idxOf?_eq_none_iff.mpr outside
      rw [List.nil_append, digitValues, unknown]
  | cons c rest induction =>
      rcases List.forall_mem_cons.mp digits with ⟨first, later⟩
      rcases Option.isSome_iff_exists.mp (isDigit_iff.mpr first) with ⟨value, known⟩
      rw [List.cons_append, digitValues, known]
      simp only [induction later]
      rfl

theorem decode_of_foreign {before : Text} (digits : ∀ c ∈ before, c ∈ alphabet) {foreign : Char}
    (outside : foreign ∉ alphabet) (after : Text) :
    decode (before ++ foreign :: after) = .error (.number (.base64Character foreign)) := by
  rw [decode, if_neg (by simp), digitValues_of_foreign digits outside]
  rfl

theorem exists_first_foreign {text : Text} (foreign : ∃ c ∈ text, c ∉ alphabet) :
    ∃ before c after, text = before ++ c :: after ∧ (∀ d ∈ before, d ∈ alphabet) ∧
      c ∉ alphabet := by
  have known : (text.find? (· ∉ alphabet)).isSome = true := by
    simpa [List.find?_isSome] using foreign
  rcases Option.isSome_iff_exists.mp known with ⟨c, found⟩
  rcases List.find?_eq_some_iff_append.mp found with ⟨outside, before, after, split, digits⟩
  exact ⟨before, c, after, split, by simpa using digits, by simpa using outside⟩

/-! ## Writing what was read -/

theorem ofNat_read {values : List Nat} (small : ∀ value ∈ values, value < 64) :
    ofNat (Positional.read 64 values) = withoutLeadingZeros 'A' (values.map digit) := by
  rw [ofNat, digits_read (by decide) small, ← digit_zero]
  apply map_withoutLeadingZeros
  intro value member equal
  exact digit_injective (small value member) (by decide) equal

theorem encode_natCast (number : Nat) : encode number = .ok (ofNat number) := by
  rw [encode, if_neg (by omega), Int.toNat_natCast]

theorem exists_decode {text : Text} (filled : text ≠ []) (digits : ∀ c ∈ text, c ∈ alphabet) :
    ∃ number : Nat, decode text = .ok number ∧
      encode number = .ok (withoutLeadingZeros 'A' text) := by
  rcases exists_digitValues digits with ⟨values, read, shown, small⟩
  refine ⟨Positional.read 64 values, ?_, ?_⟩
  · rw [decode, if_neg (by simpa using filled), read]
    rfl
  · rw [encode_natCast, ofNat_read small, ← shown]

theorem ofNat_cases (number : Nat) :
    ofNat number = ['A'] ∨
      ∃ first rest, ofNat number = first :: rest ∧ first ∈ alphabet ∧ first ≠ 'A' := by
  have small : ∀ value ∈ digits 64 number, value < 64 :=
    fun value member => lt_of_mem_digits (by decide) member
  rcases digits_cases (by decide : 1 < 64) number with
    shown | ⟨value, rest, shown, nonzero⟩
  · left
    rw [ofNat, shown, List.map_singleton, digit_zero]
  · have valueSmall : value < 64 := small value (shown ▸ List.mem_cons_self)
    refine .inr ⟨digit value, rest.map digit, ?_, mem_alphabet_digit valueSmall, ?_⟩
    · rw [ofNat, shown, List.map_cons]
    · rw [← digit_zero]
      exact fun equal => nonzero (digit_injective valueSmall (by decide) equal)

/-! ## The two directions -/

theorem decode_eq_error_iff (text : Text) :
    (∃ fault, decode text = .error (.number fault)) ↔ text = [] ∨ ∃ c ∈ text, c ∉ alphabet := by
  constructor
  · rintro ⟨fault, refused⟩
    by_contra accepted
    rw [not_or, not_exists] at accepted
    have digits : ∀ c ∈ text, c ∈ alphabet := fun c member =>
      not_not.mp fun outside => accepted.2 c ⟨member, outside⟩
    rcases exists_decode accepted.1 digits with ⟨number, read, _⟩
    rw [read] at refused
    cases refused
  · rintro (rfl | foreign)
    · exact ⟨.emptyBase64, rfl⟩
    · rcases exists_first_foreign foreign with ⟨before, c, after, rfl, digits, outside⟩
      exact ⟨.base64Character c, decode_of_foreign digits outside after⟩

/-- Numbers and texts of digits without zeros in front correspond to each other. -/
theorem decode_encode_correspondence :
    (∀ number : Nat, ∃ digits, encode number = .ok digits ∧ decode digits = .ok number ∧
      (digits = ['A'] ∨ ∃ first rest, digits = first :: rest ∧ first ∈ alphabet ∧ first ≠ 'A')) ∧
    (∀ text, (∃ fault, decode text = .error (.number fault)) ↔
      text = [] ∨ ∃ c ∈ text, c ∉ alphabet) ∧
    (∀ before c after, (∀ d ∈ before, d ∈ alphabet) → c ∉ alphabet →
      ∃ fault, decode (before ++ c :: after) = .error (.number fault) ∧
        fault.message = "Invalid base64 character: ".toList ++ [c]) ∧
    ∀ text, text ≠ [] → (∀ c ∈ text, c ∈ alphabet) →
      ∃ number : Nat, decode text = .ok number ∧
        encode number = .ok (withoutLeadingZeros 'A' text) := by
  refine ⟨?_, decode_eq_error_iff, ?_, ?_⟩
  · intro number
    exact ⟨ofNat number, encode_natCast number, decode_ofNat number, ofNat_cases number⟩
  · intro before c after digits outside
    exact ⟨.base64Character c, decode_of_foreign digits outside after, rfl⟩
  · intro text filled digits
    exact exists_decode filled digits

theorem decode_encode_correspondence_padded :
    ("AAPo".toList ≠ [] ∧ (∀ c ∈ "AAPo".toList, c ∈ alphabet) ∧
      ∃ number : Nat, decode "AAPo".toList = .ok number ∧
        encode number = .ok (withoutLeadingZeros 'A' "AAPo".toList)) ∧
    ((∀ c ∈ "Bk".toList, c ∈ alphabet) ∧ '-' ∉ alphabet ∧
      ∃ fault, decode ("Bk".toList ++ '-' :: "A_".toList) = .error (.number fault) ∧
        fault.message = "Invalid base64 character: ".toList ++ ['-']) := by
  have padded : "AAPo".toList ≠ [] ∧ ∀ c ∈ "AAPo".toList, c ∈ alphabet := by decide
  have broken : (∀ c ∈ "Bk".toList, c ∈ alphabet) ∧ '-' ∉ alphabet := by decide
  refine ⟨⟨padded.1, padded.2, ?_⟩, broken.1, broken.2, ?_⟩
  · exact decode_encode_correspondence.2.2.2 _ padded.1 padded.2
  · exact decode_encode_correspondence.2.2.1 _ _ _ broken.1 broken.2

end SymbolScript.Base64Number
