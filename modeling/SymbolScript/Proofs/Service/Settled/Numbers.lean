import SymbolScript.Proofs.Action.Finite
import SymbolScript.Proofs.Service.Settled
import SymbolScript.Proofs.VectorNumber.Failure

/-!
Answers with numbers. An infinite double is written as a vector number but not sent, and a literal
may be read as an integer that is beyond the digit limit.
-/

namespace SymbolScript.Service

open SymbolScript.Action
open Operation (Breaks Overfills)

variable {tokenizer? : Option Tokenizer}

/-! ## Encoding -/

theorem encodeNumber_request (value : Number) (format : Text) :
    Action.encodeNumber (Operation.encodeNumber value format).request =
      match NumberFormat.find? (.text format) with
      | none => .ok (.refusal ("Unknown format: ".toList ++ Text.quoted format))
      | some .vector => do
        let literal ← VectorNumber.encode value
        return .fields [entry "format" (.text format), entry "value" (.number value),
          entry "literal" (.text literal)]
      | some .base64 => do
        let literal := Base64Number.literal (← encodeBase64 (asWhole (.number value)))
        return .fields [entry "format" (.text format), entry "value" (asWhole (.number value)),
          entry "literal" (.text literal)] := by
  have given : (Operation.encodeNumber value format).request.field? "value" =
      some (.number value) := rfl
  have wanted : (Operation.encodeNumber value format).request.fieldOr "format"
      (textOf NumberFormat.vector.spelling) = .text format := rfl
  rw [Action.encodeNumber, given]
  simp only [wanted]
  cases NumberFormat.find? (.text format) with
  | none => rfl
  | some known => cases known <;> rfl

theorem isSettled_written_iff {format literal : Text} {value : Value} :
    IsSettled (.ok (.fields [entry "format" (.text format), entry "value" value,
      entry "literal" (.text literal)])) ↔ value.IsSendable := by
  simp [IsSettled, entry]

theorem isSettled_vector_whole_iff (number : Int) (format : Text) :
    IsSettled (do
      let literal ← VectorNumber.encode (.whole number)
      return .fields [entry "format" (.text format), entry "value" (wholeOf number),
        entry "literal" (.text literal)]) ↔ Decimal.isWritable number = true := by
  by_cases writable : Decimal.isWritable number = true
  · have short := (Decimal.isWritable_iff number).mp writable
    rcases VectorNumber.exists_encode_whole short with ⟨literal, written⟩
    rw [written]
    exact isSettled_written_iff.trans (Value.isSendable_wholeOf_iff number)
  · have long := Nat.not_lt.mp (mt (Decimal.isWritable_iff number).mpr writable)
    rw [VectorNumber.encode, VectorNumber.encodeWhole_of_unbounded long]
    exact iff_of_false (by rintro ⟨⟩) writable

theorem isSettled_vector_real_iff (x : Float) (format : Text) :
    IsSettled (do
      let literal ← VectorNumber.encode (.real x)
      return .fields [entry "format" (.text format), entry "value" (.number (.real x)),
        entry "literal" (.text literal)]) ↔ ¬x.isInf = true := by
  by_cases infinite : x.isInf = true
  · rcases VectorNumber.exists_encode_of_isInf infinite with ⟨literal, written⟩
    rw [written]
    refine iff_of_false (fun settled => ?_) (not_not_intro infinite)
    have sendable := isSettled_written_iff.mp settled
    rw [Value.isSendable_number_iff, Number.isSendable_real_iff,
      Number.isFinite_real_iff] at sendable
    rcases sendable with ⟨magnitude, read⟩
    cases read.symm.trans ((Decimal.Binary.ofFloat?_eq_none_iff x).mpr (.inr infinite))
  · refine iff_of_true ?_ infinite
    by_cases notNumber : x.isNaN = true
    · rw [VectorNumber.encode_of_isNaN notNumber]
      rfl
    · have magnitude : ∃ value, Decimal.Binary.ofFloat? x = some value := by
        rw [← Option.ne_none_iff_exists', Ne, Decimal.Binary.ofFloat?_eq_none_iff, not_or]
        exact ⟨notNumber, infinite⟩
      rcases VectorNumber.exists_encode_of_ofFloat? magnitude.choose_spec with ⟨literal, written⟩
      rw [written]
      refine isSettled_written_iff.mpr ?_
      rwa [Value.isSendable_number_iff, Number.isSendable_real_iff, Number.isFinite_real_iff]

theorem isSettled_base64_whole_iff (number : Int) (format : Text) :
    IsSettled (do
      let literal := Base64Number.literal (← encodeBase64 (wholeOf number))
      return .fields [entry "format" (.text format), entry "value" (wholeOf number),
        entry "literal" (.text literal)]) ↔ Decimal.isWritable number = true := by
  rw [wholeOf, encodeBase64, Base64Number.encode]
  by_cases negative : number < 0
  · rw [if_pos negative]
    by_cases writable : Decimal.isWritable number = true
    · rw [if_pos writable]
      exact iff_of_true rfl writable
    · rw [if_neg writable]
      exact iff_of_false (by rintro ⟨⟩) writable
  · rw [if_neg negative]
    exact isSettled_written_iff.trans (Value.isSendable_wholeOf_iff number)

theorem isSettled_base64_real (x : Float) (format : Text) :
    IsSettled (do
      let literal := Base64Number.literal (← encodeBase64 (asWhole (.number (.real x))))
      return .fields [entry "format" (.text format), entry "value" (asWhole (.number (.real x))),
        entry "literal" (.text literal)]) := by
  cases found : wholeOf? x with
  | some number =>
      have same : asWhole (.number (.real x)) = wholeOf number := by rw [asWhole, found]
      rw [same]
      exact (isSettled_base64_whole_iff number format).mpr (isWritable_of_wholeOf? found)
  | none =>
      have same : asWhole (.number (.real x)) = .number (.real x) := by rw [asWhole, found]
      rw [same]
      rfl

theorem breaks_encodeNumber_iff {value : Number} {format : NumberFormat} :
    Breaks tokenizer? (.encodeNumber value format.spelling.toList) ↔ ∃ number,
      value = .whole number ∧ Decimal.isWritable number = false ∧
        (format = .base64 → number < 0) := by
  constructor
  · generalize spelled : format.spelling.toList = name
    intro breaks
    cases breaks with
    | longVector long => exact ⟨_, rfl, long, by rintro rfl; cases spelled⟩
    | longNegative negative long => exact ⟨_, rfl, long, fun _ => negative⟩
  · rintro ⟨number, rfl, long, sign⟩
    cases format with
    | vector => exact .longVector long
    | base64 => exact .longNegative (sign rfl) long

theorem overfills_encodeNumber_iff {value : Number} {format : NumberFormat} :
    Overfills (.encodeNumber value format.spelling.toList) ↔
      format = .vector ∧ (∃ x, value = .real x ∧ x.isInf = true) ∨
        format = .base64 ∧ ∃ number, value = .whole number ∧ 0 ≤ number ∧
          Decimal.isWritable number = false := by
  constructor
  · generalize spelled : format.spelling.toList = name
    intro overfills
    cases overfills with
    | infinity infinite => cases format <;> cases spelled; exact .inl ⟨rfl, _, rfl, infinite⟩
    | longNatural natural long =>
        cases format <;> cases spelled
        exact .inr ⟨rfl, _, rfl, natural, long⟩
  · rintro (⟨rfl, x, rfl, infinite⟩ | ⟨rfl, number, rfl, natural, long⟩)
    · exact .infinity infinite
    · exact .longNatural natural long

/-- A number in a format that is known is written and sent, unless it is an infinite double or an
integer beyond the digit limit. -/
theorem isSettled_encodeNumber_iff (value : Number) (format : Text) :
    IsSettled (Action.encodeNumber (Operation.encodeNumber value format).request) ↔
      ¬Breaks tokenizer? (.encodeNumber value format) ∧
        ¬Overfills (.encodeNumber value format) := by
  rw [encodeNumber_request]
  cases found : NumberFormat.find? (.text format) with
  | none =>
      refine iff_of_true trivial ⟨?_, ?_⟩ <;> rintro ⟨⟩ <;> cases found
  | some known =>
      have named := Value.text.inj (NumberFormat.eq_of_find? found)
      rw [named, breaks_encodeNumber_iff, overfills_encodeNumber_iff]
      cases known with
      | vector =>
          cases value with
          | whole number => exact (isSettled_vector_whole_iff number _).trans (by simp)
          | real x => exact (isSettled_vector_real_iff x _).trans (by simp)
      | base64 =>
          cases value with
          | whole number =>
              refine (isSettled_base64_whole_iff number _).trans ?_
              cases writable : Decimal.isWritable number <;> simp [writable]
          | real x => exact iff_of_true (isSettled_base64_real x _) (by simp)

theorem exists_encodeNumber_error (format : NumberFormat) {number : Int}
    (long : Decimal.isWritable number = false) (sign : format = .base64 → number < 0) :
    ∃ cause, Action.encodeNumber
      (Operation.encodeNumber (.whole number) format.spelling.toList).request = .error cause := by
  have unwritable : ¬Decimal.isWritable number = true := Bool.eq_false_iff.mp long
  cases format with
  | vector =>
      have large := Nat.not_lt.mp (mt (Decimal.isWritable_iff number).mpr unwritable)
      have known : NumberFormat.find? (.text NumberFormat.vector.spelling.toList) =
        some .vector := rfl
      rw [encodeNumber_request, known, VectorNumber.encode,
        VectorNumber.encodeWhole_of_unbounded large]
      exact ⟨_, rfl⟩
  | base64 =>
      have known : NumberFormat.find? (.text NumberFormat.base64.spelling.toList) =
        some .base64 := rfl
      have unwritten : encodeBase64 (asWhole (.number (.whole number))) =
          .error (.value .tooManyDigitsToWrite) :=
        (if_pos (sign rfl)).trans (if_neg unwritable)
      rw [encodeNumber_request, known]
      simp only [unwritten]
      exact ⟨_, rfl⟩

/-! ## Decoding -/

theorem decodeNumber_request (literal : Text) (name? : Option Text) :
    (Operation.decodeNumber literal name?).request = CommandLine.decodeRequest literal name? :=
  rfl

theorem isOwn_of_base64_error {text : Text} {cause : Failure}
    (failed : Base64Number.decode text = .error cause) : cause.isOwn = true := by
  have values : ∀ digits : Text, Base64Number.digitValues digits = .error cause →
      cause.isOwn = true := by
    intro digits failed
    induction digits with
    | nil => cases failed
    | cons c rest induction =>
        rw [Base64Number.digitValues] at failed
        split at failed
        · cases failed
          rfl
        · cases later : Base64Number.digitValues rest with
          | error other =>
              rw [later] at failed
              cases failed
              exact induction later
          | ok values =>
              rw [later] at failed
              cases failed
  rw [Base64Number.decode] at failed
  split at failed
  · cases failed
    rfl
  · cases read : Base64Number.digitValues text with
    | error other =>
        rw [read] at failed
        cases failed
        exact values text read
    | ok digits =>
        rw [read] at failed
        cases failed

theorem decodeIn_error {format : NumberFormat} {literal : Text} {cause : Failure}
    (failed : decodeIn format literal = .error cause) :
    cause.isOwn = true ∨ format = .vector ∧ cause = .value .tooManyDigitsToWrite := by
  cases format with
  | vector =>
      rcases VectorNumber.decode_error failed with ⟨fault, rfl⟩ | isLong
      · exact .inl rfl
      · exact .inr ⟨rfl, isLong⟩
  | base64 =>
      left
      have digits : ∀ text, (do return .whole (← Base64Number.decode text) :
          Except Failure Number) = .error cause → cause.isOwn = true := by
        intro text failed
        cases read : Base64Number.decode text with
        | error other =>
            rw [read] at failed
            cases failed
            exact isOwn_of_base64_error read
        | ok number =>
            rw [read] at failed
            cases failed
      rw [decodeIn] at failed
      split at failed
      · cases found : Base64Number.literals.first? literal with
        | none =>
            rw [Base64Number.decodeLiteral, found] at failed
            cases failed
            rfl
        | some shown =>
            rw [Base64Number.decodeLiteral, found] at failed
            exact digits shown failed
      · exact digits literal failed

theorem isSettled_read_iff {format : NumberFormat} {literal : Text} (number : Number) :
    IsSettled (do
      return .fields [entry "format" (textOf format.spelling), entry "literal" (.text literal),
        entry "value" (← answerNumber number)]) ↔
      ∀ integer, number = .whole integer → Decimal.isWritable integer = true := by
  cases number with
  | whole integer => simp [IsSettled, answerNumber, bind, Except.bind, pure, Except.pure, entry,
      Number.isSendable_whole_iff]
  | real x =>
      refine iff_of_true ?_ (by simp)
      have spelled : ∃ text, (Number.real x).spelled = .ok text := by
        rw [Number.spelled]
        split
        · exact ⟨_, rfl⟩
        · split <;> exact ⟨_, rfl⟩
      rcases spelled with ⟨text, spelled⟩
      have answered : ∃ value, answerNumber (.real x) = .ok value := by
        rw [answerNumber, spelled]
        split <;> exact ⟨_, rfl⟩
      rcases answered with ⟨value, answered⟩
      rw [answered]
      have sendable : value.IsSendable := by
        rcases answerNumber_cases answered with ⟨shown, rfl⟩ | ⟨rfl, finite⟩
        · exact Value.isSendable_text shown
        · rwa [Value.isSendable_number_iff, Number.isSendable_real_iff]
      simp [IsSettled, bind, Except.bind, pure, Except.pure, entry, sendable]

theorem breaks_decodeNumber_iff {literal : Text} {name? : Option Text} :
    Breaks tokenizer? (.decodeNumber literal name?) ↔
      CommandLine.Command.literalFormat? literal name? = some .vector ∧
        VectorNumber.decode literal = .error (.value .tooManyDigitsToWrite) := by
  constructor
  · intro breaks
    cases breaks with
    | longFraction chosen failed => exact ⟨chosen, failed⟩
  · rintro ⟨chosen, failed⟩
    exact .longFraction chosen failed

theorem overfills_decodeNumber_iff {literal : Text} {name? : Option Text} :
    Overfills (.decodeNumber literal name?) ↔ ∃ format number,
      CommandLine.Command.literalFormat? literal name? = some format ∧
        decodeIn format literal = .ok (.whole number) ∧ Decimal.isWritable number = false := by
  constructor
  · intro overfills
    cases overfills with
    | longInteger chosen decoded long => exact ⟨_, _, chosen, decoded, long⟩
  · rintro ⟨format, number, chosen, decoded, long⟩
    exact .longInteger chosen decoded long

theorem isSettled_decodeIn_iff (format : NumberFormat) (literal : Text) :
    IsSettled (do
      let number ← decodeIn format literal
      return .fields [entry "format" (textOf format.spelling), entry "literal" (.text literal),
        entry "value" (← answerNumber number)]) ↔
      ¬(format = .vector ∧ VectorNumber.decode literal = .error (.value .tooManyDigitsToWrite)) ∧
        ¬∃ number, decodeIn format literal = .ok (.whole number) ∧
          Decimal.isWritable number = false := by
  cases decoded : decodeIn format literal with
  | error cause =>
      refine Iff.trans ⟨?_, fun ready => ?_⟩ (and_iff_left (by simp)).symm
      · rintro own ⟨rfl, failed⟩
        cases decoded.symm.trans failed
        cases own
      · rcases decodeIn_error decoded with own | ⟨rfl, rfl⟩
        · exact own
        · exact absurd ⟨rfl, decoded⟩ ready
  | ok number =>
      have notFailed :
          ¬(format = .vector ∧ VectorNumber.decode literal =
            .error (.value .tooManyDigitsToWrite)) := by
        rintro ⟨rfl, failed⟩
        cases decoded.symm.trans failed
      refine (isSettled_read_iff number).trans
        (Iff.trans ?_ (and_iff_right notFailed).symm)
      simp only [Except.ok.injEq, not_exists, not_and, Bool.not_eq_false]

theorem isSettled_decodeNumber_iff (literal : Text) (name? : Option Text) :
    IsSettled (Action.decodeNumber (Operation.decodeNumber literal name?).request) ↔
      ¬Breaks tokenizer? (.decodeNumber literal name?) ∧
        ¬Overfills (.decodeNumber literal name?) := by
  rw [decodeNumber_request, breaks_decodeNumber_iff, overfills_decodeNumber_iff]
  by_cases empty : literal = []
  · subst empty
    refine iff_of_true trivial ⟨?_, ?_⟩
    · rintro ⟨-, ⟨⟩⟩
    · rintro ⟨format, number, -, decoded, -⟩
      exact CommandLine.decodeIn_nil format _ decoded
  rw [CommandLine.decodeNumber_decodeRequest empty]
  cases CommandLine.Command.literalFormat? literal name? with
  | none => exact iff_of_true rfl (by simp)
  | some format =>
      refine (isSettled_decodeIn_iff format literal).trans ?_
      simp

theorem Operation.Overfills.exists_fields {operation : Operation}
    (overfills : operation.Overfills) :
    ∃ entries, answerWith tokenizer? operation.request = .ok (.fields entries) := by
  rw [Operation.answerWith_request]
  cases overfills with
  | infinity infinite =>
      rcases VectorNumber.exists_encode_of_isInf infinite with ⟨literal, written⟩
      have known : NumberFormat.find? (.text "vector".toList) = some .vector := rfl
      rw [Operation.handlerWith, encodeNumber_request, known, written]
      exact ⟨_, rfl⟩
  | @longNatural number natural long =>
      have known : NumberFormat.find? (.text "base64".toList) = some .base64 := rfl
      rw [Operation.handlerWith, encodeNumber_request, known]
      have written : encodeBase64 (asWhole (.number (.whole number))) =
          .ok (Base64Number.ofNat number.toNat) := if_neg (Int.not_lt.mpr natural)
      simp only [written]
      exact ⟨_, rfl⟩
  | @longInteger literal _ format number chosen decoded long =>
      have filled : literal ≠ [] := by
        rintro rfl
        exact CommandLine.decodeIn_nil format _ decoded
      rw [Operation.handlerWith, decodeNumber_request,
        CommandLine.decodeNumber_decodeRequest filled, chosen]
      simp only [decoded]
      exact ⟨_, rfl⟩

theorem exists_decodeNumber_error {literal : Text} {name? : Option Text}
    (chosen : CommandLine.Command.literalFormat? literal name? = some .vector)
    (failed : VectorNumber.decode literal = .error (.value .tooManyDigitsToWrite)) :
    ∃ cause, Action.decodeNumber (Operation.decodeNumber literal name?).request =
      .error cause := by
  have filled : literal ≠ [] := by
    rintro rfl
    cases failed
  have unread : decodeIn .vector literal = .error (.value .tooManyDigitsToWrite) := failed
  rw [decodeNumber_request, CommandLine.decodeNumber_decodeRequest filled, chosen]
  simp only [unread]
  exact ⟨_, rfl⟩

end SymbolScript.Service
