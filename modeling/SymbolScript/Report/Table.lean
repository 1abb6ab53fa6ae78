import SymbolScript.Failure
import SymbolScript.Text.Digit

/-!
Tables in boxes. A column has a width and an alignment mark, which together say how each of its
cells is laid out. A cell that is wider than its column is kept whole.
-/

namespace SymbolScript.Report

/-! ## Cells -/

inductive Alignment
  | left
  | right
  | centre
deriving DecidableEq, Repr

/-- How a cell is laid out: filled up to a width, or cut to a length. -/
inductive CellFormat
  | filled (fill : Char) (alignment : Alignment) (width : Nat)
  | cut (length : Nat)
deriving DecidableEq, Repr

namespace CellFormat

def sizeLimit : Nat := 2 ^ 63

/-- The format of a mark with a width that is not negative. A digit as a mark stands in front of
the digits of the width. -/
def ofWidth (mark : Char) (width : Nat) : Except CellFault CellFormat :=
  let digits := Decimal.ofNat width
  let limited (size : Nat) (format : Except CellFault CellFormat) : Except CellFault CellFormat :=
    if size < sizeLimit then format else .error .tooManyDigits
  match mark with
  | '<' => limited width (.ok (.filled ' ' .left width))
  | '>' => limited width (.ok (.filled ' ' .right width))
  | '^' => limited width (.ok (.filled ' ' .centre width))
  | '0' => limited width (.ok (.filled '0' .left width))
  | '.' => limited width (.ok (.cut width))
  | '=' => limited width (.error .innerAlignment)
  | '+' | '-' => limited width (.error .sign)
  | ' ' => limited width (.error .space)
  | '#' => limited width (.error .alternateForm)
  | 'z' => limited width (.error .negativeZero)
  | mark =>
    match Text.digitValue? mark, digits with
    | some first, _ =>
      let joined := first * 10 ^ digits.length + width
      limited joined (.ok (.filled ' ' .left joined))
    | none, [digit] =>
      if mark = ',' ∨ mark = '_' then .error (.grouping mark digit)
      else .error (.unknownFormat [mark, digit])
    | none, _ => .error (.unknownFormat (mark :: digits))

def negativeWidth (mark : Char) (width : Int) : CellFault :=
  if mark = '<' ∨ mark = '=' ∨ mark = '>' ∨ mark = '^' then
    if width.natAbs < sizeLimit then .sign else .tooManyDigits
  else if mark = '.' then .missingPrecision
  else .unknownFormat (mark :: Decimal.ofInt width)

def ofMark (mark : Char) (width : Int) : Except Failure CellFormat :=
  let format := if width < 0 then .error (negativeWidth mark width) else ofWidth mark width.toNat
  format.mapError fun fault => .value (.cellFormat fault)

/-- A cell with fill on the sides that its alignment leaves free; in the centre, the right side
takes the odd one. -/
def apply (text : Text) : CellFormat → Text
  | cut length => text.take length
  | filled fill alignment width =>
    let room := width - text.length
    match alignment with
    | .left => text ++ List.replicate room fill
    | .right => List.replicate room fill ++ text
    | .centre => List.replicate (room / 2) fill ++ text ++ List.replicate (room - room / 2) fill

example : apply "bb".toList (.filled ' ' .centre 5) = " bb  ".toList := by decide

end CellFormat

/-! ## Lines -/

def rule (left middle right : Char) (widths : List Int) : Text :=
  let spans := widths.map fun width => List.replicate (width + 2).toNat '─'
  left :: Text.join (String.singleton middle) spans ++ [right]

/-- The cells of a line, as far as there are marks and widths for them. -/
def layOut : List Text → Text → List Int → Except Failure (List Text)
  | cell :: cells, mark :: marks, width :: widths => do
    let format ← CellFormat.ofMark mark width
    return format.apply cell :: (← layOut cells marks widths)
  | _, _, _ => .ok []

def line (cells : List Text) (marks : Text) (widths : List Int) : Except Failure Text := do
  return "│ ".toList ++ Text.join " │ " (← layOut cells marks widths) ++ " │".toList

/-! ## Tables -/

/-- The width of the widest cell of a column, its header included. Every row has to reach the
column. -/
def columnWidth (header : Text) (rows : List (List Text)) (column : Nat) : Except Failure Nat :=
  rows.foldlM (fun width row =>
    match row[column]? with
    | none => .error .missingPosition
    | some cell => .ok (max width cell.length)) header.length

def columnWidths (headers : List Text) (rows : List (List Text)) : Except Failure (List Int) :=
  headers.zipIdx.mapM fun (header, column) => do
    return ((← columnWidth header rows column : Nat) : Int)

/-- A table with the given widths or, without any, with columns as wide as their widest cells.
Headers stand on the left; without marks, so do all cells. -/
def table (headers : List Text) (rows : List (List Text)) (widths : Option (List Int))
    (marks : Text) : Except Failure Text := do
  let widths ← match widths with
    | some widths => pure widths
    | none => columnWidths headers rows
  let headerMarks := List.replicate headers.length '<'
  let marks := if marks.isEmpty then headerMarks else marks
  let header ← line headers headerMarks widths
  let body ← rows.mapM fun row => line row marks widths
  return Text.join "\n" <|
    [rule '┌' '┬' '┐' widths, header, rule '├' '┼' '┤' widths] ++ body ++
      [rule '└' '┴' '┘' widths]

end SymbolScript.Report
