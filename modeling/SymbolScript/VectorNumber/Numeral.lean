import SymbolScript.Text.Digit
import SymbolScript.Text.Recogniser
import SymbolScript.VectorNumber.Basic

/-! Decimal numerals in a program, and their replacement by vector literals. -/

namespace SymbolScript.VectorNumber

/-- Takes a run of digits off the front of a text, with a fraction if one follows. -/
def takeNumeral? (text : Text) : Option (Text × Text) :=
  match Text.takeRun Text.isDigit text with
  | ([], _) => none
  | (whole, '.' :: rest) =>
    match Text.takeRun Text.isDigit rest with
    | ([], _) => some (whole, '.' :: rest)
    | (fraction, after) => some (whole ++ '.' :: fraction, after)
  | (whole, after) => some (whole, after)

theorem length_takeRun_lt {inClass : Char → Bool} {text run rest : Text} {c : Char}
    (taken : Text.takeRun inClass text = (c :: run, rest)) : rest.length < text.length := by
  have whole : text.takeWhile inClass ++ text.dropWhile inClass = text :=
    List.takeWhile_append_dropWhile
  simp only [Text.takeRun, Prod.mk.injEq] at taken
  rw [taken.1, taken.2] at whole
  rw [← whole, List.length_append, List.length_cons]
  omega

def numerals : Text.Recogniser Text where
  take := takeNumeral?
  shorter := by
    intro text found rest taken
    unfold takeNumeral? at taken
    split at taken
    · simp at taken
    · next whole inner notNil run =>
      obtain ⟨c, digits, rfl⟩ := List.exists_cons_of_ne_nil notNil
      have first := length_takeRun_lt run
      split at taken
      · simp only [Option.some.injEq, Prod.mk.injEq] at taken
        rw [← taken.2]
        exact first
      · next fraction after _ fractionRun =>
        have second := Text.length_takeRun_le Text.isDigit inner
        rw [fractionRun] at second
        simp only [Option.some.injEq, Prod.mk.injEq] at taken
        rw [List.length_cons] at first
        rw [← taken.2]
        simp only at second
        omega
    · next whole after notNil _ run =>
      obtain ⟨c, digits, rfl⟩ := List.exists_cons_of_ne_nil notNil
      simp only [Option.some.injEq, Prod.mk.injEq] at taken
      rw [← taken.2]
      exact length_takeRun_lt run

def samples : List (String × Number) := [
  ("0", .whole 0), ("1", .whole 1), ("2", .whole 2), ("3", .whole 3), ("4", .whole 4),
  ("5", .whole 5), ("10", .whole 10), ("11", .whole 11), ("12", .whole 12), ("20", .whole 20),
  ("100", .whole 100), ("0.5", .real half), ("0.25", .real quarter), ("3.14159", .real piValue),
  ("2.71828", .real eulerValue)]

def numeralValue (numeral : Text) : Except Failure Number :=
  match samples.find? fun sample => sample.1.toList == numeral with
  | some (_, value) => .ok value
  | none =>
    if Text.holds numeral '.' then (Decimal.readFloat numeral).map .real
    else (Decimal.readInt numeral).map .whole

def vectorize (program : Text) : Except Failure Text :=
  numerals.replaceOr (fun numeral => do encode (← numeralValue numeral)) program

end SymbolScript.VectorNumber
