import SymbolScript.Proofs.Decimal.Shortest
import SymbolScript.Proofs.Number
import SymbolScript.Proofs.VectorNumber.Decoding

/-!
Why vector numbers are not written or not read. Every finite double is written. A literal that is
not read is refused for its form, or it has more digits in front of a fraction than can be written.
-/

namespace SymbolScript.VectorNumber

open Decimal

/-! ## Writing -/

theorem exists_encodeWhole_of_log2_le {number : Nat} (small : number.log2 ≤ 1024) :
    ∃ glyphs, encodeWhole number = .ok glyphs := by
  have writable : isWritable number = true :=
    isWritable_of_log2_le (by rwa [Int.natAbs_natCast])
  exact exists_encodeWhole ((isWritable_natCast_iff number).mp writable)

theorem exists_encode_of_ofFloat? {x : Float} {value : Binary}
    (read : Binary.ofFloat? x = some value) : ∃ literal, encode (.real x) = .ok literal := by
  have written : ∃ glyphs, encodeMagnitude value = .ok glyphs := by
    unfold encodeMagnitude
    split
    · exact exists_encodeWhole_of_log2_le (Binary.log2_le_of_le
        (Nat.le_trans value.floor_le_ceil (Binary.ceil_le (Binary.place_le_of_ofFloat? read))))
    · rcases exists_encodeWhole (readDigits_parts_lt read) with ⟨glyphs, whole⟩
      dsimp only
      rw [whole]
      exact ⟨_, rfl⟩
  rcases written with ⟨glyphs, written⟩
  rw [encode, encodeReal]
  cases writtenConstants.find? (·.1 == x.abs) with
  | some constant => exact ⟨_, rfl⟩
  | none =>
      rw [read]
      dsimp only
      rw [written]
      exact ⟨_, rfl⟩

/-! ## Reading -/

/-- The failures of reading a literal: its form is wrong, or a number in it is too long to be
written. -/
def IsReadingFailure (cause : Failure) : Prop :=
  (∃ fault, cause = .number fault) ∨ cause = .value .tooManyDigitsToWrite

theorem isReadingFailure_number (fault : NumberFault) : IsReadingFailure (.number fault) :=
  .inl ⟨fault, rfl⟩

theorem readGlyphs_error {isAllowed : Char → Option Nat} {high : Nat} {glyphs : Text}
    {cause : Failure} (failed : readGlyphs isAllowed high glyphs = .error cause) :
    IsReadingFailure cause := by
  induction glyphs generalizing high with
  | nil => cases failed
  | cons c rest induction =>
      rw [readGlyphs] at failed
      split at failed
      · cases failed
        exact isReadingFailure_number _
      · exact induction failed

theorem decodeWhole_error {glyphs : Text} {cause : Failure}
    (failed : decodeWhole glyphs = .error cause) : IsReadingFailure cause := by
  unfold decodeWhole at failed
  split at failed
  · cases failed
  · cases failed
  · split at failed
    · cases failed
    · exact readGlyphs_error failed
  · exact readGlyphs_error failed

theorem fractionDigits_cases (glyphs : Text) :
    (∃ digits, fractionDigits glyphs = .ok digits ∧ ∀ c ∈ digits, isPlainDigit c = true) ∨
      ∃ fault, fractionDigits glyphs = .error (.number fault) := by
  induction glyphs with
  | nil => exact .inl ⟨[], rfl, by simp⟩
  | cons c rest induction =>
      rw [fractionDigits]
      cases isValue : plainValue? c with
      | none => exact .inr ⟨_, rfl⟩
      | some value =>
          rcases induction with ⟨digits, read, plain⟩ | ⟨fault, failed⟩
          · refine .inl ⟨digitChar value :: digits, by simp only [read]; rfl, ?_⟩
            exact List.forall_mem_cons.mpr
              ⟨isPlainDigit_digitChar value (plainValue?_lt isValue), plain⟩
          · exact .inr ⟨fault, by simp only [failed]; rfl⟩

theorem fractionText_cases (whole fraction : Text) :
    (∃ number digits, fractionText whole fraction = .ok (ofNat number ++ '.' :: digits) ∧
        ∀ c ∈ digits, isPlainDigit c = true) ∨
      ∃ cause, fractionText whole fraction = .error cause ∧ IsReadingFailure cause := by
  rw [fractionText]
  rcases fractionDigits_cases fraction with ⟨digits, read, plain⟩ | ⟨fault, failed⟩
  · cases readWhole : decodeWhole whole with
    | error cause => exact .inr ⟨cause, by rw [read]; rfl, decodeWhole_error readWhole⟩
    | ok number =>
        by_cases bounded : number < 10 ^ digitLimit
        · have written := write_natCast_eq_ok_iff.mpr ⟨bounded, rfl⟩
          exact .inl ⟨number, digits, by simp only [read, written, bind, Except.bind]; rfl, plain⟩
        · have unwritable : ¬ isWritable number = true := fun writable =>
            bounded ((isWritable_natCast_iff number).mp writable)
          have unwritten : write number = .error (.value .tooManyDigitsToWrite) :=
            if_neg unwritable
          exact .inr ⟨_, by simp only [read, unwritten, bind, Except.bind], .inr rfl⟩
  · exact .inr ⟨_, by rw [failed]; rfl, isReadingFailure_number fault⟩

theorem decodeBody_error {encoded body : Text} {cause : Failure}
    (failed : decodeBody encoded body = .error cause) : IsReadingFailure cause := by
  unfold decodeBody at failed
  split at failed
  · cases failed
  · split at failed
    · next whole fraction _ =>
      split at failed
      · cases failed
        exact isReadingFailure_number _
      · rcases fractionText_cases whole fraction with
          ⟨number, digits, shown, plain⟩ | ⟨other, notShown, isReading⟩
        · have float := readFloat_of_point
            (fun c member => isPlainDigit_of_mem_ofNat member) (ofNat_ne_nil number) plain
          simp [shown, float, bind, Except.bind, pure, Except.pure] at failed
        · simp only [notShown, bind, Except.bind, Except.error.injEq] at failed
          rwa [← failed]
    · next whole _ =>
      cases read : decodeWhole whole with
      | error other =>
          rw [read] at failed
          cases failed
          exact decodeWhole_error read
      | ok number =>
          rw [read] at failed
          cases failed

theorem decode_error {encoded : Text} {cause : Failure} (failed : decode encoded = .error cause) :
    IsReadingFailure cause := by
  unfold decode at failed
  split at failed
  · cases failed
    exact isReadingFailure_number _
  · next c rest _ =>
    split at failed
    · split at failed
      · cases failed
        exact isReadingFailure_number _
      · cases read : decodeBody encoded rest with
        | error other =>
            rw [read] at failed
            cases failed
            exact decodeBody_error read
        | ok number =>
            rw [read] at failed
            cases failed
    · exact decodeBody_error failed

end SymbolScript.VectorNumber
