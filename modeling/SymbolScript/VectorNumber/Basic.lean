import SymbolScript.Number

/-!
Vector numbers: a cross in front of glyphs. Integers are runs of Greek digits, with forms of their
own for ten, for eleven to nineteen and for one hundred; some values have a glyph to themselves;
any other fraction is a run of digits before and one after a point.
-/

namespace SymbolScript.VectorNumber

/-! ## Glyphs -/

/-- The mark in front of every vector number. It may be repeated inside one. -/
def cross : Char := '⊗'

def minus : Char := '⁻'

def digitGlyphs : Text := "∅αβγδεζηθι".toList

def circledGlyphs : Text := "①②③④⑤⑥⑦⑧⑨".toList

def ten : Char := 'χ'

def hundred : Char := 'ψ'

def digitGlyph (digit : Nat) : Char :=
  digitGlyphs.getD digit '∅'

def plainValue? (c : Char) : Option Nat :=
  digitGlyphs.idxOf? c

def value? (c : Char) : Option Nat :=
  match plainValue? c with
  | some value => some value
  | none => (circledGlyphs.idxOf? c).map (· + 1)

def isPlainGlyph (c : Char) : Bool :=
  (plainValue? c).isSome

def isGlyph (c : Char) : Bool :=
  (value? c).isSome

/-! ## Constants -/

def piValue : Float := Float.ofBits 0x400921fb54442d18

def eulerValue : Float := Float.ofBits 0x4005bf0a8b145769

def half : Float := Float.ofBits 0x3fe0000000000000

def quarter : Float := Float.ofBits 0x3fd0000000000000

def threeQuarters : Float := Float.ofBits 0x3fe8000000000000

def third : Float := Float.ofBits 0x3fd5555555555555

def twoThirds : Float := Float.ofBits 0x3fe5555555555555

def constants : List (Char × Number) := [
  ('π', .real piValue),
  ('e', .real eulerValue),
  ('∞', .real Decimal.infinity),
  ('½', .real half),
  ('¼', .real quarter),
  ('¾', .real threeQuarters),
  ('⅓', .real third),
  ('⅔', .real twoThirds),
  ('⑩', .whole 10),
  ('⊤', .whole 1),
  ('⊥', .whole 0)]

def writtenConstants : List (Float × Char) := [
  (piValue, 'π'), (eulerValue, 'e'), (half, '½'), (quarter, '¼'), (threeQuarters, '¾'),
  (third, '⅓'), (twoThirds, '⅔')]

/-! ## Writing -/

def encodeWhole (number : Nat) : Except Failure Text :=
  if number = 10 then .ok [ten]
  else if 11 ≤ number ∧ number ≤ 19 then .ok [ten, digitGlyph (number - 10)]
  else if number = 100 then .ok [hundred]
  else if Decimal.isWritable number then .ok ((Positional.digits 10 number).map digitGlyph)
  else .error (.value .tooManyDigitsToWrite)

def encodeFraction (digits : Text) : Text :=
  digits.map fun c => digitGlyph (Decimal.plainDigitValue c)

/-- The glyphs of a finite magnitude: those of a whole number, or whole digits, a point and the
digits of the fraction of its shortest decimal. -/
def encodeMagnitude (value : Decimal.Binary) : Except Failure Text :=
  if value.isWhole then encodeWhole value.floor
  else
    let (whole, fraction) := value.shortest.parts
    (encodeWhole (Decimal.readDigits whole)).map fun glyphs =>
      glyphs ++ '.' :: encodeFraction fraction

def encodeReal (x : Float) : Except Failure Text :=
  match writtenConstants.find? (·.1 == x.abs) with
  | some (_, glyph) => .ok [glyph]
  | none =>
    match Decimal.Binary.ofFloat? x with
    | some value => encodeMagnitude value
    | none => if x.isNaN then .error (.number .notANumber) else .ok ['∞']

/-- Writes a number as a vector number. Negative zero has no minus mark. -/
def encode : Number → Except Failure Text
  | .whole number =>
    let sign := if number < 0 then [minus] else []
    (encodeWhole number.natAbs).map fun glyphs => cross :: sign ++ glyphs
  | .real x =>
    let sign := if x < 0 then [minus] else []
    (encodeReal x).map fun glyphs => cross :: sign ++ glyphs

/-! ## Reading -/

def readGlyphs (isAllowed : Char → Option Nat) (high : Nat) : Text → Except Failure Nat
  | [] => .ok high
  | c :: rest =>
    match isAllowed c with
    | none => .error (.number (.vectorDigit c))
    | some value => readGlyphs isAllowed (high * 10 + value) rest

def decodeWhole (glyphs : Text) : Except Failure Nat :=
  match glyphs with
  | ['χ'] => .ok 10
  | ['ψ'] => .ok 100
  | ['χ', unit] =>
    match plainValue? unit with
    | some value => .ok (10 + value)
    | none => readGlyphs value? 0 glyphs
  | _ => readGlyphs value? 0 glyphs

def fractionDigits : Text → Except Failure Text
  | [] => .ok []
  | c :: rest =>
    match plainValue? c with
    | none => .error (.number (.vectorDigit c))
    | some value => (fractionDigits rest).map (Decimal.digitChar value :: ·)

def fractionText (whole fraction : Text) : Except Failure Text := do
  let digits ← fractionDigits fraction
  let number ← decodeWhole whole
  let shown ← Decimal.write number
  return shown ++ '.' :: digits

/-- Reads the glyphs that follow the cross and the minus mark; `encoded` is the text that messages
show. -/
def decodeBody (encoded body : Text) : Except Failure Number :=
  match constants.find? fun entry => body == [entry.1] with
  | some (_, value) => .ok value
  | none =>
    match Text.cutAt '.' body with
    | (whole, some fraction) =>
      if whole.isEmpty || fraction.isEmpty then
        .error (.number (.malformedFraction encoded))
      else do
        let value ← Decimal.readFloat (← fractionText whole fraction)
        return .real value
    | (whole, none) => (decodeWhole whole).map fun number => .whole number

/-- Reads a vector number. Crosses are passed over wherever they stand. -/
def decode (encoded : Text) : Except Failure Number :=
  match (Text.trim encoded).filter (· != cross) with
  | [] => .error (.number (.emptyVector encoded))
  | c :: rest =>
    if c = minus then
      if rest.isEmpty then .error (.number (.emptyVector encoded))
      else (decodeBody encoded rest).map Number.negate
    else decodeBody encoded (c :: rest)

end SymbolScript.VectorNumber
