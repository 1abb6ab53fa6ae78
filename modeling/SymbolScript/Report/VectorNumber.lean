import SymbolScript.Report.Basic
import SymbolScript.VectorNumber.Numeral

/-! The report on vector literals: how long they are beside decimal numerals. -/

namespace SymbolScript.Report.VectorNumber

def program : String :=
  "count = 0;\n" ++
  "for (i = 1; i <= 10; i++) \x7b\n" ++
  "    if (i === 5) break;\n" ++
  "    count = count + 1;\n" ++
  "\x7d\n" ++
  "result = count * 3.14159;\n"

def reductionText (before after : Nat) : Except Failure String :=
  return percent 1 (← TokenCost.reduction (.whole before) (.whole after))

def trimmedLength (text : Text) : Nat :=
  (Text.trim text).length

def text : Except Failure String := do
  let encoded ← VectorNumber.samples.mapM fun (numeral, value) =>
    return (numeral, ← VectorNumber.encode value)
  let rows ← encoded.mapM fun (numeral, literal) =>
    return [numeral, numeral, String.ofList literal,
      ← reductionText numeral.length literal.length]
  let traditional := (encoded.map fun (numeral, _) => numeral.length).sum
  let vector := (encoded.map fun (_, literal) => literal.length).sum
  let vectorProgram ← VectorNumber.vectorize program.toList
  let before := trimmedLength program.toList
  let after := trimmedLength vectorProgram
  let overall ← reductionText traditional vector
  let programReduction ← reductionText before after
  return print [
    "GaiaScript Vector Number System Efficiency Analysis\n",
    "Number Representation Comparison:",
    ← gridOf (some [11, 12, 12, 12]) ["Number", "Traditional", "Vector (⊗)", "Compression"]
      "<<<>" rows,
    "\nOverall Statistics:",
    s!"   Traditional total chars: {whole traditional}",
    s!"   Vector total chars: {whole vector}",
    s!"   Overall compression: {overall}",
    "\nProgramming Context Examples:",
    "Traditional JavaScript:",
    program,
    "Vector GaiaScript:",
    String.ofList vectorProgram,
    s!"Code compression: {programReduction}",
    s!"Traditional chars: {whole before}, Vector chars: {whole after}"]

end SymbolScript.Report.VectorNumber
