import SymbolScript.Proofs.Action.Answer
import SymbolScript.Proofs.Base64Number.Literal
import SymbolScript.Proofs.VectorNumber.RoundTrip

/-!
Integers survive the two number actions. What the one action writes in a format is recognised by
the other as a literal of that format and is answered with the integer it was written for.
-/

namespace SymbolScript.Action

/-! ## Actions by name -/

theorem dispatch_of_handler {request : Request} {name : String} {handler : Handler}
    {answered : Dictionary Text Value} (named : request.field? "action" = some (textOf name))
    (filled : (textOf name).isTrue = true)
    (known : ((handlersWith none).find? fun entry => (textOf name).isText entry.1) =
      some (name, handler))
    (handled : handler request = .ok (.fields answered)) :
    dispatch request = .success answered := by
  have answeredOk : answerWith none request = .ok (.fields answered) := by
    rw [answerWith, Request.fieldOr, named, Option.getD_some]
    simp [filled, known, handled]
  exact dispatch_of_fields answeredOk

namespace NumberFormat

/-! ## Literals of integers -/

def write : NumberFormat → Int → Except Failure Text
  | vector, number => VectorNumber.encode (.whole number)
  | base64, number => Base64Number.encodeLiteral number

/-- The integers that a format has literals for: those within the digit limit for vector numbers,
and natural numbers of any size for base-64 numbers. -/
def Covers : NumberFormat → Int → Prop
  | vector, number => number.natAbs < 10 ^ Decimal.digitLimit
  | base64, number => 0 ≤ number

theorem exists_write {format : NumberFormat} {number : Int} (covered : format.Covers number) :
    ∃ literal, format.write number = .ok literal := by
  cases format with
  | vector => exact VectorNumber.exists_encode_whole covered
  | base64 => exact ⟨_, Base64Number.encodeLiteral_of_natural covered⟩

theorem find?_spelling (format : NumberFormat) : find? (textOf format.spelling) = some format := by
  cases format <;> rfl

theorem detect_of_write {format : NumberFormat} {number : Int} {literal : Text}
    (covered : format.Covers number) (written : format.write number = .ok literal) :
    literal ≠ [] ∧ detect literal = format := by
  cases format with
  | vector =>
      rcases VectorNumber.encode_whole_eq written with ⟨glyphs, _, rfl⟩
      refine ⟨List.cons_ne_nil _ _, ?_⟩
      have noSign : (VectorNumber.cross :: (if number < 0 then [VectorNumber.minus] else []) ++
          glyphs).head? ≠ some '#' := by
        rw [List.cons_append, List.head?_cons]
        decide
      rw [detect, if_neg noSign, if_pos]
      simp [Text.holds]
  | base64 =>
      rw [write, Base64Number.encodeLiteral_of_natural covered, Except.ok.injEq] at written
      rw [← written]
      exact ⟨List.cons_ne_nil _ _, if_pos rfl⟩

theorem decodeIn_of_write {format : NumberFormat} {number : Int} {literal : Text}
    (covered : format.Covers number) (written : format.write number = .ok literal) :
    decodeIn format literal = .ok (.whole number) := by
  cases format with
  | vector => exact VectorNumber.decode_of_encode written
  | base64 =>
      rw [write, Base64Number.encodeLiteral_of_natural covered, Except.ok.injEq] at written
      have sign : (Base64Number.literal (Base64Number.ofNat number.toNat)).head? = some '#' := rfl
      have read := Base64Number.decodeLiteral_literal number.toNat []
      rw [List.append_nil] at read
      rw [← written, decodeIn, if_pos sign, read]
      exact congrArg (fun value => Except.ok (Number.whole value)) (Int.toNat_of_nonneg covered)

end NumberFormat

/-! ## The two actions -/

def encodeAnswer (format : NumberFormat) (number : Int) (literal : Text) :
    Dictionary Text Value := [
  entry "format" (textOf format.spelling), entry "value" (wholeOf number),
  entry "literal" (.text literal)]

def decodeAnswer (format : NumberFormat) (literal : Text) (number : Int) :
    Dictionary Text Value := [
  entry "format" (textOf format.spelling), entry "literal" (.text literal),
  entry "value" (wholeOf number)]

theorem encodeNumber_of_write {request : Request} {format : NumberFormat} {number : Int}
    {literal : Text} (value : request.field? "value" = some (wholeOf number))
    (wanted : request.field? "format" = some (textOf format.spelling))
    (written : format.write number = .ok literal) :
    encodeNumber request = .ok (.fields (encodeAnswer format number literal)) := by
  rw [encodeNumber, value]
  simp only [Request.fieldOr, wanted, Option.getD_some, NumberFormat.find?_spelling]
  cases format with
  | vector =>
      rw [NumberFormat.write] at written
      simp only [wholeOf, encodeVector, written]
      rfl
  | base64 =>
      rw [NumberFormat.write, Base64Number.encodeLiteral] at written
      cases digits : Base64Number.encode number with
      | error failure => simp [digits, Except.map] at written
      | ok shown =>
          simp only [digits, Except.map, Except.ok.injEq] at written
          simp only [asWhole, wholeOf, encodeBase64, digits, ← written]
          rfl

theorem decodeNumber_of_decodeIn {request : Request} {format : NumberFormat} {number : Int}
    {literal : Text} (filled : literal ≠ [])
    (given : request.field? "literal" = some (.text literal))
    (wanted : request.field? "format" = some (textOf format.spelling) ∨
      request.field? "format" = none ∧ NumberFormat.detect literal = format)
    (read : decodeIn format literal = .ok (.whole number)) :
    decodeNumber request = .ok (.fields (decodeAnswer format literal number)) := by
  have isTrue : (Value.text literal).isTrue = true := by
    simpa [Value.isTrue] using filled
  rw [decodeNumber, Request.fieldOr, given, Option.getD_some]
  rcases wanted with named | ⟨unnamed, shown⟩
  · have spelled : (textOf format.spelling).isTrue = true := by cases format <;> rfl
    simp only [isTrue, Request.fieldOr, named, Option.getD_some, spelled, if_true,
      NumberFormat.find?_spelling]
    simp only [bind, Except.bind, pure, Except.pure, read]
    rfl
  · simp only [isTrue, Request.fieldOr, unnamed, Option.getD_none, shown]
    simp only [bind, Except.bind, pure, Except.pure, read]
    rfl

/-! ## Round trip -/

def encodeRequest (format : NumberFormat) (number : Int) : Request := [
  entry "action" (textOf "encode_number"), entry "value" (wholeOf number),
  entry "format" (textOf format.spelling)]

def decodeRequest (literal : Text) : Request := [
  entry "action" (textOf "decode_number"), entry "literal" (.text literal)]

def decodeRequestIn (format : NumberFormat) (literal : Text) : Request :=
  decodeRequest literal ++ [entry "format" (textOf format.spelling)]

/-- The literal that is answered for an integer is answered with that integer and with the format
it was written in, whether the second request names the format or not. -/
theorem dispatch_decode_encode {format : NumberFormat} {number : Int}
    (covered : format.Covers number) :
    ∃ literal,
      dispatch (encodeRequest format number) = .success (encodeAnswer format number literal) ∧
      dispatch (decodeRequest literal) = .success (decodeAnswer format literal number) ∧
      dispatch (decodeRequestIn format literal) =
        .success (decodeAnswer format literal number) := by
  rcases NumberFormat.exists_write covered with ⟨literal, written⟩
  rcases NumberFormat.detect_of_write covered written with ⟨filled, shown⟩
  have read := NumberFormat.decodeIn_of_write covered written
  have encoded : encodeNumber (encodeRequest format number) = _ :=
    encodeNumber_of_write rfl rfl written
  have decoded : decodeNumber (decodeRequest literal) = _ :=
    decodeNumber_of_decodeIn filled rfl (.inr ⟨rfl, shown⟩) read
  have decodedIn : decodeNumber (decodeRequestIn format literal) = _ :=
    decodeNumber_of_decodeIn filled rfl (.inl rfl) read
  exact ⟨literal, dispatch_of_handler rfl rfl rfl encoded, dispatch_of_handler rfl rfl rfl decoded,
    dispatch_of_handler rfl rfl rfl decodedIn⟩

theorem dispatch_decode_encode_million :
    (NumberFormat.vector.Covers (-1000000) ∧ ∃ literal,
      dispatch (encodeRequest .vector (-1000000)) =
        .success (encodeAnswer .vector (-1000000) literal) ∧
      dispatch (decodeRequest literal) = .success (decodeAnswer .vector literal (-1000000)) ∧
      dispatch (decodeRequestIn .vector literal) =
        .success (decodeAnswer .vector literal (-1000000))) ∧
    NumberFormat.base64.Covers 1000000 ∧ ∃ literal,
      dispatch (encodeRequest .base64 1000000) =
        .success (encodeAnswer .base64 1000000 literal) ∧
      dispatch (decodeRequest literal) = .success (decodeAnswer .base64 literal 1000000) ∧
      dispatch (decodeRequestIn .base64 literal) =
        .success (decodeAnswer .base64 literal 1000000) := by
  have bounded : NumberFormat.vector.Covers (-1000000) := by
    rw [NumberFormat.Covers]
    decide +kernel
  have natural : NumberFormat.base64.Covers 1000000 := by
    rw [NumberFormat.Covers]
    decide
  exact ⟨⟨bounded, dispatch_decode_encode bounded⟩, natural, dispatch_decode_encode natural⟩

end SymbolScript.Action
