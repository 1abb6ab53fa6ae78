import SymbolScript.Number
import SymbolScript.Proofs.Positional
import SymbolScript.Proofs.Text.Basic

/-!
Decimal numerals: which integers are written within the digit limit, and which characters the
numerals of integers and of doubles are made of.
-/

namespace SymbolScript.Decimal

/-! ## The digit limit -/

theorem isWritable_iff (number : Int) :
    isWritable number = true ↔ number.natAbs < 10 ^ digitLimit := by
  rw [isWritable, decide_eq_true_iff]

theorem isWritable_natCast_iff (number : Nat) :
    isWritable number = true ↔ number < 10 ^ digitLimit := by
  rw [isWritable_iff, Int.natAbs_natCast]

theorem isWritable_of_log2_le {number : Int} (small : number.natAbs.log2 ≤ 1024) :
    isWritable number = true := by
  rw [isWritable_iff]
  calc
    number.natAbs < 2 ^ (number.natAbs.log2 + 1) := Nat.lt_log2_self
    _ ≤ 10 ^ (number.natAbs.log2 + 1) := Nat.pow_le_pow_left (by decide) _
    _ ≤ 10 ^ digitLimit := Nat.pow_le_pow_right (by decide) (by rw [digitLimit]; omega)

theorem write_of_bounded {number : Int} (bounded : number.natAbs < 10 ^ digitLimit) :
    write number = .ok (ofInt number) :=
  if_pos ((isWritable_iff number).mpr bounded)

theorem write_natCast_eq_ok_iff {number : Nat} {shown : Text} :
    write number = .ok shown ↔ number < 10 ^ digitLimit ∧ ofNat number = shown := by
  have natural : ofInt number = ofNat number := by
    rw [ofInt, if_neg (by omega), Int.natAbs_natCast]
  rw [write, natural]
  by_cases bounded : number < 10 ^ digitLimit
  · simp [(isWritable_natCast_iff number).mpr bounded, bounded]
  · have unwritable : ¬ isWritable number = true := fun writable =>
      bounded ((isWritable_natCast_iff number).mp writable)
    simp [unwritable, bounded]

/-! ## Characters -/

/-- The characters that numerals are made of: digits, signs, the point, the mark of an exponent and
the letters of the names of the values without digits. -/
def numeralChars : Text :=
  ['0', '1', '2', '3', '4', '5', '6', '7', '8', '9', '-', '+', '.', 'e', 'i', 'n', 'f', 'a', 'I',
    't', 'y']

theorem numeralChars_ascii : ∀ c ∈ numeralChars, c.toNat < 128 := by
  decide

theorem digitChar_mem : ∀ digit < 10, digitChar digit ∈ numeralChars := by
  decide

theorem mem_ofNat {number : Nat} {c : Char} (member : c ∈ ofNat number) : c ∈ numeralChars := by
  rcases List.mem_map.mp member with ⟨digit, isDigit, rfl⟩
  exact digitChar_mem digit (Positional.lt_of_mem_digits (by decide) isDigit)

theorem digitChar_eq_zero : ∀ digit < 10, digitChar digit = '0' → digit = 0 := by
  decide

theorem ofNat_read {values : List Nat} (small : ∀ value ∈ values, value < 10) :
    ofNat (Positional.read 10 values) =
      Positional.withoutLeadingZeros '0' (values.map digitChar) := by
  rw [ofNat, Positional.digits_read (by decide) small]
  exact Positional.map_withoutLeadingZeros digitChar
    fun digit member => digitChar_eq_zero digit (small digit member)

theorem mem_ofInt {number : Int} {c : Char} (member : c ∈ ofInt number) : c ∈ numeralChars := by
  unfold ofInt at member
  split at member
  · rcases List.mem_cons.mp member with rfl | inDigits
    · decide
    · exact mem_ofNat inDigits
  · exact mem_ofNat member

theorem mem_write {number : Int} {shown : Text} (written : write number = .ok shown) {c : Char}
    (member : c ∈ shown) : c ∈ numeralChars := by
  unfold write at written
  split at written
  · cases written
    exact mem_ofInt member
  · cases written

theorem mem_replicate_zero {count : Nat} {c : Char} (member : c ∈ List.replicate count '0') :
    c ∈ numeralChars := by
  rw [List.eq_of_mem_replicate member]
  decide

theorem mem_padded {width number : Nat} {c : Char} (member : c ∈ padded width number) :
    c ∈ numeralChars := by
  rcases List.mem_append.mp member with inZeros | inDigits
  · exact mem_replicate_zero inZeros
  · exact mem_ofNat inDigits

namespace Scaled

theorem mem_of_mem_stripZeros {digits : Text} {c : Char} (member : c ∈ stripZeros digits) :
    c ∈ digits := by
  rw [stripZeros, List.mem_reverse] at member
  exact List.mem_reverse.mp ((List.dropWhile_sublist _).mem member)

theorem mem_parts {value : Scaled} {c : Char}
    (member : c ∈ value.parts.1 ∨ c ∈ value.parts.2) : c ∈ numeralChars := by
  have shown : ∀ count, c ∈ ofNat value.digits ++ List.replicate count '0' → c ∈ numeralChars := by
    intro count inShown
    rcases List.mem_append.mp inShown with inDigits | inZeros
    · exact mem_ofNat inDigits
    · exact mem_replicate_zero inZeros
  simp only [parts] at member
  split at member
  · rcases member with isZero | inFraction
    · rw [List.mem_singleton.mp isZero]
      decide
    · rcases List.mem_append.mp inFraction with inZeros | inDigits
      · exact mem_replicate_zero inZeros
      · exact mem_ofNat (mem_of_mem_stripZeros inDigits)
  · rcases member with inWhole | inFraction
    · exact shown _ (List.mem_of_mem_take inWhole)
    · exact shown _ (List.mem_of_mem_drop (mem_of_mem_stripZeros inFraction))

theorem mem_positional {value : Scaled} {c : Char} (member : c ∈ value.positional) :
    c ∈ numeralChars := by
  rcases List.mem_append.mp member with inWhole | inFraction
  · exact mem_parts (.inl inWhole)
  · rcases List.mem_cons.mp inFraction with rfl | inDigits
    · decide
    · split at inDigits
      · rw [List.mem_singleton.mp inDigits]
        decide
      · exact mem_parts (.inr inDigits)

theorem mem_scientific {value : Scaled} {c : Char} (member : c ∈ value.scientific) :
    c ∈ numeralChars := by
  have digit : c ∈ stripZeros (ofNat value.digits) → c ∈ numeralChars :=
    fun inDigits => mem_ofNat (mem_of_mem_stripZeros inDigits)
  rcases List.mem_append.mp member with inMantissa | inExponent
  · rcases List.mem_append.mp inMantissa with inFirst | inFraction
    · exact digit (List.mem_of_mem_take inFirst)
    · split at inFraction
      · cases inFraction
      · rcases List.mem_cons.mp inFraction with rfl | inDigits
        · decide
        · exact digit (List.mem_of_mem_drop inDigits)
  · rcases List.mem_cons.mp inExponent with rfl | inPower
    · decide
    · rcases List.mem_cons.mp inPower with rfl | inDigits
      · split <;> decide
      · exact mem_padded inDigits

theorem mem_text {value : Scaled} {c : Char} (member : c ∈ value.text) : c ∈ numeralChars := by
  simp only [text] at member
  split at member
  · exact mem_scientific member
  · exact mem_positional member

end Scaled

theorem mem_fixedNumeral :
    ∀ numeral ∈ ["nan".toList, "inf".toList, "0.0".toList], ∀ c ∈ numeral, c ∈ numeralChars := by
  decide

theorem mem_ofFloat {x : Float} {c : Char} (member : c ∈ ofFloat x) : c ∈ numeralChars := by
  have sign : c ∈ (if isNegative x then ['-'] else []) → c ∈ numeralChars := by
    intro inSign
    split at inSign
    · rw [List.mem_singleton.mp inSign]
      decide
    · cases inSign
  cases magnitude : Binary.ofFloat? x with
  | none =>
      simp only [ofFloat, magnitude] at member
      by_cases notNumber : x.isNaN
      · rw [if_pos notNumber] at member
        exact mem_fixedNumeral _ (by simp) c member
      · rw [if_neg notNumber] at member
        rcases List.mem_append.mp member with inSign | inName
        · exact sign inSign
        · exact mem_fixedNumeral _ (by simp) c inName
  | some value =>
      simp only [ofFloat, magnitude] at member
      rcases List.mem_append.mp member with inSign | inText
      · exact sign inSign
      · by_cases zero : value.mantissa = 0
        · rw [if_pos zero] at inText
          exact mem_fixedNumeral _ (by simp) c inText
        · rw [if_neg zero] at inText
          exact Scaled.mem_text inText

theorem mem_infinityName :
    ∀ name ∈ ["-Infinity".toList, "Infinity".toList], ∀ c ∈ name, c ∈ numeralChars := by
  decide

theorem mem_spelled {number : Number} {shown : Text} (spelled : number.spelled = .ok shown)
    {c : Char} (member : c ∈ shown) : c ∈ numeralChars := by
  cases number with
  | whole value =>
      rw [Number.spelled] at spelled
      exact mem_write spelled member
  | real value =>
      rw [Number.spelled] at spelled
      by_cases infinite : value.isInf
      · rw [if_pos infinite, Except.ok.injEq] at spelled
        rw [← spelled] at member
        split at member
        · exact mem_infinityName _ (by simp) c member
        · exact mem_infinityName _ (by simp) c member
      · rw [if_neg infinite] at spelled
        split at spelled
        · cases spelled
          exact mem_ofInt member
        · cases spelled
          exact mem_ofFloat member

end SymbolScript.Decimal
