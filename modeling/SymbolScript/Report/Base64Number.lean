import SymbolScript.Base64Number.Literal
import SymbolScript.Report.Basic

/-! The report on base-64 numbers: some numbers are written and read back. -/

namespace SymbolScript.Report.Base64Number

def numbers : List Nat := [0, 1, 10, 64, 100, 123, 1000, 1000000, 1000000000]

def arrow (left right : String) : String :=
  s!"{fieldRight 10 left} → {right}"

def readingLine (literal : Text) : String :=
  match Base64Number.decodeLiteral literal with
  | .ok number => arrow (String.ofList literal) (whole number)
  | .error failure => s!"Error parsing {String.ofList literal}: {String.ofList failure.message}"

def text : Except Failure String := do
  let encoded := numbers.map fun number => (number, String.ofList (Base64Number.ofNat number))
  let literals := numbers.map fun number =>
    (number, Base64Number.literal (Base64Number.ofNat number))
  let decoded ← encoded.mapM fun (_, digits) =>
    return arrow digits (whole (← Base64Number.decode digits.toList))
  return print <|
    ["Base64 Number System Test", "========================", "Decimal → Base64:"] ++
    (encoded.map fun (number, digits) => arrow (whole number) digits) ++
    ["\nBase64 → Decimal:"] ++ decoded ++
    ["\nFormatted GaiaScript Base64 Numbers:"] ++
    (literals.map fun (number, literal) => arrow (whole number) (String.ofList literal)) ++
    ["\nParsing GaiaScript Base64 Numbers:"] ++
    (literals.map fun (_, literal) => readingLine literal) ++ [readingLine "#⟨B*⟩".toList]

end SymbolScript.Report.Base64Number
