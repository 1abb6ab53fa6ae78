import SymbolScript.Decimal.Reading
import SymbolScript.Proofs.Decimal.Numeral
import SymbolScript.Proofs.Text.Recogniser

/-!
Decimal numerals in plain digits are read. Digits alone stand for an integer within the digit limit,
and as a double for the one nearest to it; plain digits, a point and plain digits stand for the
double nearest to the digits, scaled down by the number of those after the point.
-/

namespace SymbolScript.Decimal

/-! ## Plain digits -/

theorem isPlainDigit_digitChar : ∀ digit < 10, isPlainDigit (digitChar digit) = true := by
  decide

theorem isPlainDigit_of_mem_ofNat {number : Nat} {c : Char} (member : c ∈ ofNat number) :
    isPlainDigit c = true := by
  rcases List.mem_map.mp member with ⟨digit, isDigit, rfl⟩
  exact isPlainDigit_digitChar digit (Positional.lt_of_mem_digits (by decide) isDigit)

theorem ofNat_ne_nil (number : Nat) : ofNat number ≠ [] := by
  simpa [ofNat] using Positional.digits_ne_nil 10 number

theorem code_of_isPlainDigit {c : Char} (digit : isPlainDigit c = true) :
    48 ≤ c.toNat ∧ c.toNat ≤ 57 := by
  rw [isPlainDigit, Bool.and_eq_true, decide_eq_true_eq, decide_eq_true_eq] at digit
  exact digit

theorem isDigit_of_ascii {c : Char} (ascii : c.toNat < 128) :
    Text.isDigit c = isPlainDigit c := by
  have foreign : ∀ first ∈ Text.digitZeros.tail,
      ¬(first ≤ c.toNat && c.toNat ≤ first + 9) = true := by
    intro first member
    have large := (by decide : ∀ first ∈ Text.digitZeros.tail, 128 ≤ first) first member
    rw [Bool.and_eq_true, decide_eq_true_eq, decide_eq_true_eq]
    omega
  have plain : isPlainDigit c = (48 ≤ c.toNat && c.toNat ≤ 57) := rfl
  have scripts : Text.digitZeros = 48 :: Text.digitZeros.tail := rfl
  rw [Text.isDigit, Text.digitValue?, Option.isSome_map, scripts, List.find?_cons,
    List.find?_eq_none.mpr foreign, plain]
  cases (48 ≤ c.toNat && c.toNat ≤ 57 : Bool) <;> rfl

theorem isDigit_of_isPlainDigit {c : Char} (digit : isPlainDigit c = true) :
    Text.isDigit c = true := by
  have code := code_of_isPlainDigit digit
  rwa [isDigit_of_ascii (by omega)]

theorem plainDigitValue_lt {c : Char} (digit : isPlainDigit c = true) : plainDigitValue c < 10 := by
  have code := code_of_isPlainDigit digit
  rw [plainDigitValue]
  omega

theorem map_plainDigitValue_lt {digits : Text} (plain : ∀ c ∈ digits, isPlainDigit c = true) :
    ∀ digit ∈ digits.map plainDigitValue, digit < 10 := by
  intro digit member
  rcases List.mem_map.mp member with ⟨c, inDigits, rfl⟩
  exact plainDigitValue_lt (plain c inDigits)

theorem length_ofNat_le {width number : Nat} (small : number < 10 ^ (width + 1)) :
    (ofNat number).length ≤ width + 1 := by
  rw [ofNat, List.length_map]
  exact Positional.length_digitsOnto_le (by decide) small []

theorem plainDigitValue_digitChar : ∀ digit < 10, plainDigitValue (digitChar digit) = digit := by
  decide

theorem isPlainDigit_of_mem_padded {width number : Nat} {c : Char}
    (member : c ∈ padded width number) : isPlainDigit c = true := by
  rcases List.mem_append.mp member with inZeros | inDigits
  · rw [List.eq_of_mem_replicate inZeros]
    decide
  · exact isPlainDigit_of_mem_ofNat inDigits

theorem le_length_padded (width number : Nat) : width ≤ (padded width number).length := by
  rw [padded, List.length_append, List.length_replicate]
  omega

theorem map_plainDigitValue_zeros (count : Nat) :
    (List.replicate count '0').map plainDigitValue = List.replicate count 0 :=
  List.map_replicate

theorem readDigits_zeros_append (count : Nat) (digits : Text) :
    readDigits (List.replicate count '0' ++ digits) = readDigits digits := by
  rw [readDigits, readDigits, List.map_append, map_plainDigitValue_zeros, Positional.read,
    Positional.readFrom_zeros fun digit member => List.eq_of_mem_replicate member, Positional.read]

theorem readDigits_append_zeros (digits : Text) (count : Nat) :
    readDigits (digits ++ List.replicate count '0') = readDigits digits * 10 ^ count := by
  rw [readDigits, readDigits, List.map_append, map_plainDigitValue_zeros, Positional.read,
    Positional.readFrom_append, Positional.readFrom_replicate_zero, Positional.read]

theorem readDigits_lt {digits : Text} (plain : ∀ c ∈ digits, isPlainDigit c = true) :
    readDigits digits < 10 ^ digits.length := by
  have bound := Positional.read_lt (map_plainDigitValue_lt plain)
  rwa [List.length_map] at bound

theorem readDigits_ofNat (number : Nat) : readDigits (ofNat number) = number := by
  have values : (ofNat number).map plainDigitValue = Positional.digits 10 number := by
    rw [ofNat, List.map_map]
    refine (List.map_congr_left fun digit member => ?_).trans (List.map_id _)
    exact plainDigitValue_digitChar digit (Positional.lt_of_mem_digits (by decide) member)
  rw [readDigits, values, Positional.read_digits]

theorem readDigits_padded (width number : Nat) : readDigits (padded width number) = number := by
  rw [padded, readDigits_zeros_append, readDigits_ofNat]

theorem digitChar_plainDigitValue {c : Char} (digit : isPlainDigit c = true) :
    digitChar (plainDigitValue c) = c := by
  have code := code_of_isPlainDigit digit
  rw [digitChar, plainDigitValue, if_pos (by omega), Nat.add_sub_cancel' code.1, Char.ofNat_toNat]

theorem ofNat_readDigits {first : Char} {rest : Text}
    (plain : ∀ c ∈ first :: rest, isPlainDigit c = true) (short : rest = [] ∨ first ≠ '0') :
    ofNat (readDigits (first :: rest)) = first :: rest := by
  have spelled : ((first :: rest).map plainDigitValue).map digitChar = first :: rest := by
    rw [List.map_map]
    exact (List.map_congr_left fun c member => digitChar_plainDigitValue (plain c member)).trans
      (List.map_id _)
  rw [readDigits, ofNat_read (map_plainDigitValue_lt plain), spelled]
  exact Positional.withoutLeadingZeros_eq_self_iff.mpr short

/-! ## The plain form of a numeral -/

def IsPointed (text : Text) : Prop :=
  ∀ c ∈ text, isPlainDigit c = true ∨ c = '.' ∨ c = '-'

theorem code_of_isPointed {text : Text} (pointed : IsPointed text) {c : Char} (member : c ∈ text) :
    45 ≤ c.toNat ∧ c.toNat ≤ 57 := by
  rcases pointed c member with digit | rfl | rfl
  · have code := code_of_isPlainDigit digit
    omega
  · decide
  · decide

theorem not_mem_of_isPointed {text : Text} (pointed : IsPointed text) {mark : Char}
    (outside : mark.toNat < 45 ∨ 57 < mark.toNat) : mark ∉ text := by
  intro member
  have code := code_of_isPointed pointed member
  omega

theorem plainForm_of_isPointed {text : Text} (pointed : IsPointed text) :
    plainForm text = text := by
  have noMargin : ∀ c ∈ text, isMargin c = false := by
    intro c member
    have code := code_of_isPointed pointed member
    simp [isMargin, Text.isBlank]
    omega
  have trimmed : Text.trimBy isMargin text = text :=
    Text.trimBy_eq_self (fun c first => noMargin c (List.mem_of_head? first))
      (fun c last => noMargin c (List.mem_of_getLast? last))
  rw [plainForm, trimmed]
  refine (List.map_congr_left fun c member => ?_).trans (List.map_id text)
  have code := code_of_isPointed pointed member
  exact if_pos (by omega)

theorem withoutUnderscores?_of_not_mem (inClass : Char → Bool) {text : Text} (absent : '_' ∉ text)
    (afterMember : Bool) : withoutUnderscores? inClass afterMember text = some text := by
  induction text generalizing afterMember with
  | nil => rfl
  | cons c rest induction =>
      rcases List.ne_and_not_mem_of_not_mem_cons absent with ⟨different, later⟩
      rw [withoutUnderscores?, if_neg different.symm, induction later]
      rfl

/-! ## Signs and names -/

def signText (negative : Bool) : Text :=
  if negative then ['-'] else []

theorem takeSign_signText (negative : Bool) {whole : Text}
    (wholeDigits : ∀ c ∈ whole, isPlainDigit c = true) (filled : whole ≠ []) (rest : Text) :
    takeSign (signText negative ++ (whole ++ rest)) = (negative, whole ++ rest) := by
  cases negative with
  | true => rfl
  | false =>
      rcases List.exists_cons_of_ne_nil filled with ⟨first, digits, rfl⟩
      have digit := wholeDigits first List.mem_cons_self
      change takeSign (first :: (digits ++ rest)) = (false, first :: (digits ++ rest))
      unfold takeSign
      split
      · next minus =>
        rw [(List.cons.inj minus).1] at digit
        cases digit
      · next plus =>
        rw [(List.cons.inj plus).1] at digit
        cases digit
      · rfl

theorem readPlain?_of_no_letter {negative : Bool} {text body : Text} {c : Char}
    (signed : takeSign text = (negative, body)) (inside : c ∈ body) (noLetter : c.toNat < 65) :
    readPlain? text = readScaled? negative body := by
  have same : c.toLower = c := by
    have below : ¬65 ≤ c.val := by
      rw [UInt32.le_iff_toNat_le]
      exact Nat.not_le.mpr noLetter
    exact dif_neg fun upper => below upper.1
  have noName : ∀ name : Text, (∀ d ∈ name, 65 ≤ d.toNat) → body.map Char.toLower ≠ name := by
    rintro name letters rfl
    have letter := letters c (List.mem_map.mpr ⟨c, inside, same⟩)
    omega
  rw [readPlain?, signed]
  simp only
  rw [if_neg, if_neg (noName _ (by decide))]
  exact not_or.mpr ⟨noName _ (by decide), noName _ (by decide)⟩

theorem isPointed_signText (negative : Bool) : IsPointed (signText negative) := by
  cases negative with
  | true => exact fun c member => .inr (.inr (List.mem_singleton.mp member))
  | false => exact List.forall_mem_nil _

/-! ## Digits alone -/

section Digits

variable {digits : Text} (plain : ∀ c ∈ digits, isPlainDigit c = true) (filled : digits ≠ [])

include plain in
theorem isPointed_digits (negative : Bool) : IsPointed (signText negative ++ digits) :=
  List.forall_mem_append.mpr ⟨isPointed_signText negative, fun c member => .inl (plain c member)⟩

include plain filled in
theorem readInt_of_digits (negative : Bool) :
    readInt (signText negative ++ digits) =
      if digitLimit < digits.length then .error (.value (.tooManyDigitsToRead digits.length))
      else .ok (if negative then -(readDigits digits : Int) else readDigits digits) := by
  have pointed := isPointed_digits plain negative
  have signed := takeSign_signText negative plain filled []
  rw [List.append_nil] at signed
  have run : digits.takeWhile (fun c => isPlainDigit c || c == '_') = digits :=
    List.takeWhile_eq_self_iff.mpr fun c member => by simp [plain c member]
  have noUnderscore : '_' ∉ digits := fun member => absurd (plain '_' member) (by decide)
  have notEmpty : digits.isEmpty = false := List.isEmpty_eq_false_iff.mpr filled
  rw [readInt, plainForm_of_isPointed pointed, signed]
  simp only [run, withoutUnderscores?_of_not_mem isPlainDigit noUnderscore, notEmpty,
    Bool.false_or, Nat.lt_irrefl, decide_false]
  rfl

include plain filled in
theorem readFloat?_of_digits (negative : Bool) :
    readFloat? (signText negative ++ digits) =
      some (nearestScaled negative (readDigits digits) 0) := by
  have pointed := isPointed_digits plain negative
  have noUnderscore : '_' ∉ signText negative ++ digits := not_mem_of_isPointed pointed (by decide)
  have signed := takeSign_signText negative plain filled []
  rw [List.append_nil] at signed
  rcases List.exists_mem_of_ne_nil digits filled with ⟨c, member⟩
  have code := code_of_isPlainDigit (plain c member)
  have run : digits.takeWhile isPlainDigit = digits := List.takeWhile_eq_self_iff.mpr plain
  have nothing : digits.dropWhile isPlainDigit = [] := List.dropWhile_eq_nil_iff.mpr plain
  have notEmpty : digits.isEmpty = false := List.isEmpty_eq_false_iff.mpr filled
  rw [readFloat?, plainForm_of_isPointed pointed,
    withoutUnderscores?_of_not_mem isPlainDigit noUnderscore, Option.bind_some,
    readPlain?_of_no_letter signed member (by omega), readScaled?]
  simp only [run, nothing, notEmpty, Bool.false_and, readExponent?, List.append_nil,
    List.length_nil]
  rfl

end Digits

/-! ## Numerals with a point -/

section Point

variable {whole fraction : Text}

theorem readScaled?_of_point (negative : Bool) (wholeDigits : ∀ c ∈ whole, isPlainDigit c = true)
    (filled : whole ≠ []) (fractionDigits : ∀ c ∈ fraction, isPlainDigit c = true) :
    readScaled? negative (whole ++ '.' :: fraction) =
      some (nearestScaled negative (readDigits (whole ++ fraction)) (0 - fraction.length)) := by
  have stop : ∀ c, ('.' :: fraction).head? = some c → isPlainDigit c = false := by
    intro c first
    cases first
    decide
  have wholeRun := Text.takeRun_append wholeDigits stop
  rw [Text.takeRun, Prod.mk.injEq] at wholeRun
  have inFraction : fraction.takeWhile isPlainDigit = fraction :=
    List.takeWhile_eq_self_iff.mpr fractionDigits
  have afterFraction : fraction.dropWhile isPlainDigit = [] :=
    List.dropWhile_eq_nil_iff.mpr fractionDigits
  have notEmpty : whole.isEmpty = false := List.isEmpty_eq_false_iff.mpr filled
  rw [readScaled?, wholeRun.1, wholeRun.2]
  simp only [inFraction, afterFraction, notEmpty, Bool.false_and, readExponent?]
  rfl

theorem readFloat?_of_point (negative : Bool) (wholeDigits : ∀ c ∈ whole, isPlainDigit c = true)
    (filled : whole ≠ []) (fractionDigits : ∀ c ∈ fraction, isPlainDigit c = true) :
    readFloat? (signText negative ++ (whole ++ '.' :: fraction)) =
      some (nearestScaled negative (readDigits (whole ++ fraction)) (0 - fraction.length)) := by
  have pointed : IsPointed (signText negative ++ (whole ++ '.' :: fraction)) := by
    refine List.forall_mem_append.mpr ⟨isPointed_signText negative, ?_⟩
    refine List.forall_mem_append.mpr ⟨fun c member => .inl (wholeDigits c member), ?_⟩
    exact List.forall_mem_cons.mpr ⟨.inr (.inl rfl), fun c member => .inl (fractionDigits c member)⟩
  have noUnderscore : '_' ∉ signText negative ++ (whole ++ '.' :: fraction) :=
    not_mem_of_isPointed pointed (by decide)
  rw [readFloat?, plainForm_of_isPointed pointed,
    withoutUnderscores?_of_not_mem isPlainDigit noUnderscore, Option.bind_some,
    readPlain?_of_no_letter (takeSign_signText negative wholeDigits filled _)
      (List.mem_append_right whole List.mem_cons_self) (by decide),
    readScaled?_of_point negative wholeDigits filled fractionDigits]

theorem readFloat_of_point (wholeDigits : ∀ c ∈ whole, isPlainDigit c = true)
    (filled : whole ≠ []) (fractionDigits : ∀ c ∈ fraction, isPlainDigit c = true) :
    readFloat (whole ++ '.' :: fraction) =
      .ok (nearestScaled false (readDigits (whole ++ fraction)) (0 - fraction.length)) := by
  have read := readFloat?_of_point false wholeDigits filled fractionDigits
  have unsigned : whole ++ '.' :: fraction = signText false ++ (whole ++ '.' :: fraction) := rfl
  rw [readFloat, unsigned, read]

end Point

end SymbolScript.Decimal
