import SymbolScript.Proofs.Action.NumberCode
import SymbolScript.Proofs.CommandLine.Ending
import SymbolScript.Proofs.CommandLine.Numeral
import SymbolScript.Proofs.VectorNumber.Whole

/-!
Integers that are encoded on the command line. A numeral within the digit limit is read as the
integer that it is. A longer one is read as the double nearest to it, so that the literal that is
printed is that of another integer or of infinity, unless the integer is a double itself.
-/

namespace SymbolScript.CommandLine

open SymbolScript.Action
open Decimal

/-! ## Literals that are printed -/

def printedLiteral (store : Store) (literal : Text) : Run :=
  { ending := .finished 0 [], printed := lines [literal], store }

/-- How a run ends that keeps an integer: with a literal of it, or with an error. -/
inductive KeepsInteger (store : Store) (format : NumberFormat) (number : Int) : Run → Prop
  | printed {literal : Text} (same : decodeIn format literal = .ok (.whole number)) :
      KeepsInteger store format number (printedLiteral store literal)
  | refused (message : Text) : KeepsInteger store format number (refuse store message)

/-- How a run ends that loses an integer: with a literal of another number. -/
inductive LosesInteger (store : Store) (format : NumberFormat) (number : Int) : Run → Prop
  | printed {literal : Text} {other : Number} (read : decodeIn format literal = .ok other)
      (different : other ≠ .whole number) :
      LosesInteger store format number (printedLiteral store literal)

section Run

variable {store : Store} {format : NumberFormat} {number : Int}

theorem printedLiteral_inj {left right : Text}
    (equal : printedLiteral store left = printedLiteral store right) : left = right := by
  have printed := congrArg Run.printed equal
  simpa [printedLiteral, lines] using printed

theorem LosesInteger.not_keeps {run : Run} (loses : LosesInteger store format number run) :
    ¬KeepsInteger store format number run := by
  cases loses with
  | @printed literal other read different =>
      intro keeps
      generalize isRun : printedLiteral store literal = run at keeps
      cases keeps with
      | @printed kept same =>
          rw [printedLiteral_inj isRun, same] at read
          exact different (Except.ok.inj read).symm
      | refused message => cases isRun

end Run

/-! ## Numbers that stand for an integer -/

def integer? : Number → Option Int
  | .whole value => some value
  | .real x => wholeOf? x

section Encode

variable {store : Store} {value : Text} {number : Number} {integer : Int} {literal : Text}
  {format? : Option NumberFormat}

theorem encode_of_integer? (whole : integer? number = some integer) :
    VectorNumber.encode number = VectorNumber.encode (.whole integer) := by
  cases number with
  | whole value =>
      cases whole
      rfl
  | real x => exact VectorNumber.encode_real_of_wholeOf? whole

theorem asWhole_of_integer? (whole : integer? number = some integer) :
    asWhole (.number number) = wholeOf integer := by
  cases number with
  | whole value =>
      cases whole
      rfl
  | real x =>
      have found : wholeOf? x = some integer := whole
      rw [asWhole, found]

theorem encodeNumber_encodeRequest (number : Number) (format? : Option NumberFormat) :
    encodeNumber (encodeRequest number (formatName format?)) = match format?.getD .vector with
      | .vector => do
        let literal ← VectorNumber.encode number
        return .fields [entry "format" (textOf "vector"), entry "value" (.number number),
          entry "literal" (.text literal)]
      | .base64 => do
        let literal := Base64Number.literal (← encodeBase64 (asWhole (.number number)))
        return .fields [entry "format" (textOf "base64"), entry "value" (asWhole (.number number)),
          entry "literal" (.text literal)] := by
  rcases format? with _ | _ | _ <;> rfl

theorem runEncode_of_literal (read : readNumber value = .ok number)
    {fields : Request} (answered : encodeNumber (encodeRequest number (formatName format?)) =
      .ok (.fields fields)) (shown : fields.fieldOr "literal" .null = .text literal) :
    runEncode store value (formatName format?) = printedLiteral store literal := by
  have response : dispatch (encodeRequest number (formatName format?)) = .success fields :=
    dispatch_of_fields answered
  rw [runEncode, read]
  dsimp only
  rw [runRequest, response]
  dsimp only
  rw [fieldLine_of_plain shown rfl]
  rfl

theorem runEncode_of_error (read : readNumber value = .ok number) {cause : Failure}
    (failed : encodeNumber (encodeRequest number (formatName format?)) = .error cause) :
    runEncode store value (formatName format?) = refuse store (Response.report cause) := by
  have response : dispatch (encodeRequest number (formatName format?)) = .failure cause :=
    dispatch_of_error failed
  rw [runEncode, read]
  dsimp only
  rw [runRequest, response]

theorem exists_runEncode_of_integer? (read : readNumber value = .ok number)
    (whole : integer? number = some integer)
    (covered : (format?.getD .vector).Covers integer) (store : Store) :
    ∃ literal, runEncode store value (formatName format?) = printedLiteral store literal ∧
      decodeIn (format?.getD .vector) literal = .ok (.whole integer) := by
  have encoded := encodeNumber_encodeRequest number format?
  have written := NumberFormat.exists_write covered
  rcases written with ⟨literal, written⟩
  refine ⟨literal, ?_, NumberFormat.decodeIn_of_write covered written⟩
  cases format : format?.getD .vector with
  | vector =>
      rw [format, NumberFormat.write, ← encode_of_integer? whole] at written
      rw [format, written] at encoded
      exact runEncode_of_literal read encoded rfl
  | base64 =>
      rw [format] at covered written encoded
      rw [NumberFormat.write, Base64Number.encodeLiteral_of_natural covered] at written
      have digits : encodeBase64 (asWhole (.number number)) =
          .ok (Base64Number.ofNat integer.toNat) := by
        rw [asWhole_of_integer? whole]
        exact if_neg (Int.not_lt.mpr covered)
      cases written
      rw [digits] at encoded
      exact runEncode_of_literal read encoded rfl

theorem covers_of_isWritable (writable : isWritable integer = true)
    (natural : format? = some .base64 → 0 ≤ integer) :
    (format?.getD .vector).Covers integer := by
  rcases format? with _ | _ | _
  · exact (isWritable_iff integer).mp writable
  · exact (isWritable_iff integer).mp writable
  · exact natural rfl

theorem keepsInteger_of_integer? (read : readNumber value = .ok number)
    (whole : integer? number = some integer)
    (covered : (format?.getD .vector).Covers integer) (store : Store) :
    KeepsInteger store (format?.getD .vector) integer
      (runEncode store value (formatName format?)) := by
  rcases exists_runEncode_of_integer? read whole covered store with ⟨literal, ended, decoded⟩
  rw [ended]
  exact .printed decoded

end Encode

/-! ## Numerals -/

section Numeral

variable {digits : Text} (plain : ∀ c ∈ digits, isPlainDigit c = true) (filled : digits ≠ [])
  (negative : Bool)

include plain filled

theorem readNumber_of_short (short : digits.length ≤ digitLimit) :
    readNumber (signText negative ++ digits) = .ok (.whole (signed negative (readDigits digits))) := by
  rw [readNumber, readInt_of_digits plain filled, if_neg (Nat.not_lt.mpr short)]
  rfl

theorem readNumber_of_long (long : digitLimit < digits.length) :
    readNumber (signText negative ++ digits) =
      .ok (.real (nearestScaled negative (readDigits digits) 0)) := by
  rw [readNumber, readInt_of_digits plain filled, if_pos long, readFloat,
    readFloat?_of_digits plain filled]
  rfl

theorem run_encodeArguments (format? : Option NumberFormat) (input : Text) (store : Store) :
    run (encodeArguments (signText negative ++ digits) format?) input store =
      runEncode store (signText negative ++ digits) (formatName format?) := by
  rw [run, readCommand_encode_digits plain filled]
  rfl

theorem run_of_overflow (long : digitLimit < digits.length)
    (large : Binary.overflow ≤ readDigits digits) (integer : Int) (format? : Option NumberFormat)
    (input : Text) (store : Store) :
    (format? ≠ some .base64 → LosesInteger store (format?.getD .vector) integer
      (run (encodeArguments (signText negative ++ digits) format?) input store)) ∧
    (format? = some .base64 → KeepsInteger store (format?.getD .vector) integer
      (run (encodeArguments (signText negative ++ digits) format?) input store)) := by
  have infinite : nearestScaled negative (readDigits digits) 0 =
      if negative then -infinity else infinity := by
    have unsigned := nearestScaled_of_overflow large
    cases negative with
    | true => rw [nearestScaled_true, unsigned]; rfl
    | false => exact unsigned
  have read := readNumber_of_long plain filled negative long
  rw [infinite] at read
  have encoded := encodeNumber_encodeRequest
    (.real (if negative then -infinity else infinity)) format?
  rw [run_encodeArguments plain filled]
  constructor
  · intro notBase
    have vector : format?.getD .vector = .vector := by
      rcases format? with _ | _ | _
      · rfl
      · rfl
      · exact absurd rfl notBase
    rcases VectorNumber.decode_encode_infinity negative with ⟨literal, x, written, decoded⟩
    rw [vector, written] at encoded
    rw [runEncode_of_literal read encoded rfl, vector]
    exact .printed decoded nofun
  · rintro rfl
    have notWhole : wholeOf? (if negative then -infinity else infinity) = none := by
      cases negative <;> decide +kernel
    have failed : encodeBase64
        (asWhole (.number (.real (if negative then -infinity else infinity)))) =
          .error (.number (.notWhole (ofFloat (if negative then -infinity else infinity)))) := by
      rw [asWhole, notWhole]
      rfl
    rw [Option.getD_some, failed] at encoded
    rw [runEncode_of_error read encoded]
    exact .refused _

section Kept

variable {format? : Option NumberFormat}
  (natural : format? = some .base64 → 0 ≤ signed negative (readDigits digits)) (input : Text)
  (store : Store)

include natural

theorem keepsInteger_of_short (short : digits.length ≤ digitLimit) :
    KeepsInteger store (format?.getD .vector) (signed negative (readDigits digits))
      (run (encodeArguments (signText negative ++ digits) format?) input store) := by
  have writable : isWritable (signed negative (readDigits digits)) = true := by
    rw [isWritable_iff, natAbs_signed]
    exact (readDigits_lt plain).trans_le (Nat.pow_le_pow_right (by decide) short)
  rw [run_encodeArguments plain filled]
  exact keepsInteger_of_integer? (readNumber_of_short plain filled negative short) rfl
    (covers_of_isWritable writable natural) store

theorem keepsInteger_of_wholeOf? (long : digitLimit < digits.length) {x : Float}
    (exact : wholeOf? x = some (signed negative (readDigits digits))) :
    KeepsInteger store (format?.getD .vector) (signed negative (readDigits digits))
      (run (encodeArguments (signText negative ++ digits) format?) input store) := by
  have whole := wholeOf?_nearestScaled exact
  rw [run_encodeArguments plain filled]
  exact keepsInteger_of_integer? (readNumber_of_long plain filled negative long) whole
    (covers_of_isWritable (isWritable_of_wholeOf? whole) natural) store

theorem losesInteger_of_small (long : digitLimit < digits.length)
    (inexact : ∀ x, wholeOf? x ≠ some (signed negative (readDigits digits)))
    (small : readDigits digits < Binary.overflow) :
    LosesInteger store (format?.getD .vector) (signed negative (readDigits digits))
      (run (encodeArguments (signText negative ++ digits) format?) input store) := by
  have positive : 0 < readDigits digits := by
    refine Nat.pos_of_ne_zero fun zero => ?_
    rw [zero] at inexact
    exact inexact _ (wholeOf?_nearestScaled_zero negative)
  rcases exists_wholeOf?_nearestScaled small negative with ⟨near, whole⟩
  have covered : (format?.getD .vector).Covers (signed negative near) := by
    refine covers_of_isWritable (isWritable_of_wholeOf? whole) fun isBase => ?_
    rw [eq_false_of_natural positive (natural isBase)]
    exact Int.natCast_nonneg near
  rcases exists_runEncode_of_integer? (readNumber_of_long plain filled negative long) whole covered
    store with ⟨literal, printed, decoded⟩
  rw [run_encodeArguments plain filled, printed]
  exact .printed decoded fun same =>
    inexact _ (whole.trans (congrArg some (Number.whole.inj same)))

end Kept

end Numeral

/-- The integers that are kept when a numeral of them is encoded: those within the digit limit, those
that are doubles, and as base-64 numbers also those beyond the doubles. -/
def IsKept (format? : Option NumberFormat) (digits : Text) (integer : Int) : Prop :=
  digits.length ≤ digitLimit ∨ (∃ x, wholeOf? x = some integer) ∨
    format? = some .base64 ∧ (Binary.overflow : Int) ≤ integer

/-- Encoding a numeral keeps its integer exactly in these cases. In any other case the literal of
another number is printed, and no error. -/
theorem run_encode_integer {digits : Text} (plain : ∀ c ∈ digits, isPlainDigit c = true)
    (filled : digits ≠ []) (negative : Bool) (format? : Option NumberFormat)
    (natural : format? = some .base64 → 0 ≤ signed negative (readDigits digits))
    (input : Text) (store : Store) :
    (IsKept format? digits (signed negative (readDigits digits)) →
      KeepsInteger store (format?.getD .vector) (signed negative (readDigits digits))
        (run (encodeArguments (signText negative ++ digits) format?) input store)) ∧
    (¬IsKept format? digits (signed negative (readDigits digits)) →
      LosesInteger store (format?.getD .vector) (signed negative (readDigits digits))
        (run (encodeArguments (signText negative ++ digits) format?) input store)) := by
  by_cases short : digits.length ≤ digitLimit
  · exact ⟨fun _ => keepsInteger_of_short plain filled negative natural input store short,
      absurd (.inl short)⟩
  have long := Nat.not_le.mp short
  constructor
  · rintro (isShort | ⟨x, exact⟩ | ⟨isBase, beyond⟩)
    · exact absurd isShort short
    · exact keepsInteger_of_wholeOf? plain filled negative natural input store long exact
    · have large : Binary.overflow ≤ readDigits digits := by
        have bound := beyond.trans Int.le_natAbs
        rwa [natAbs_signed, Int.ofNat_le] at bound
      exact (run_of_overflow plain filled negative long large _ format? input store).2 isBase
  · intro lost
    by_cases large : Binary.overflow ≤ readDigits digits
    · refine (run_of_overflow plain filled negative long large _ format? input store).1 ?_
      intro isBase
      have positive := Nat.lt_of_lt_of_le Binary.overflow_pos large
      refine lost (.inr (.inr ⟨isBase, ?_⟩))
      rw [eq_false_of_natural positive (natural isBase)]
      exact Int.ofNat_le.mpr large
    · exact losesInteger_of_small plain filled negative natural input store long
        (fun x exact => lost (.inr (.inl ⟨x, exact⟩))) (Nat.not_le.mp large)

theorem run_encode_integer_hundred :
    KeepsInteger {} .vector (-100) (run (encodeArguments "-100".toList none) [] {}) ∧
      KeepsInteger {} .base64 64 (run (encodeArguments "64".toList (some .base64)) [] {}) := by
  have integers : signed true (readDigits "100".toList) = -100 ∧
      signed false (readDigits "64".toList) = 64 := by decide
  have vector := (run_encode_integer (show ∀ c ∈ "100".toList, isPlainDigit c = true by decide)
    (by decide) true none (by decide) [] {}).1 (.inl (by decide))
  have base64 := (run_encode_integer (show ∀ c ∈ "64".toList, isPlainDigit c = true by decide)
    (by decide) false (some .base64) (by decide) [] {}).1 (.inl (by decide))
  rw [integers.1] at vector
  rw [integers.2] at base64
  exact ⟨vector, base64⟩

theorem readDigits_one_zeros (count : Nat) :
    readDigits ('1' :: List.replicate count '0') = 10 ^ count := by
  have digits := readDigits_append_zeros ['1'] count
  rwa [show readDigits ['1'] = 1 from rfl, Nat.one_mul] at digits

/-- A one with as many zeros as the limit allows digits is printed as infinity. -/
theorem run_encode_infinity :
    readDigits ('1' :: List.replicate 4300 '0') = 10 ^ 4300 ∧
      ¬KeepsInteger {} .vector (10 ^ 4300)
        (run (encodeArguments ('1' :: List.replicate 4300 '0') none) [] {}) := by
  have plain : ∀ c ∈ '1' :: List.replicate 4300 '0', isPlainDigit c = true := by
    refine List.forall_mem_cons.mpr ⟨rfl, fun c member => ?_⟩
    rw [List.eq_of_mem_replicate member]
    rfl
  have long : digitLimit < ('1' :: List.replicate 4300 '0').length := by
    rw [List.length_cons, List.length_replicate]
    exact Nat.lt_succ_self _
  have large : Binary.overflow ≤ readDigits ('1' :: List.replicate 4300 '0') := by
    rw [readDigits_one_zeros]
    decide +kernel
  have infinite := run_of_overflow plain (List.cons_ne_nil _ _) false long large (10 ^ 4300) none []
    {}
  exact ⟨readDigits_one_zeros 4300, (infinite.1 nofun).not_keeps⟩

end SymbolScript.CommandLine
