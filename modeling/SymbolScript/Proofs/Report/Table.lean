import SymbolScript.Proofs.Text.Recogniser
import SymbolScript.Report.Table

/-!
Tables with columns as wide as their widest texts. All lines of such a table have one length and
their separators at the same places, and between two of these stands the whole text of a cell, with
blanks on the sides that its mark leaves free.
-/

namespace SymbolScript.Report

open Text

/-! ## Lines with separators -/

def fenced (left middle right : Char) (spans : List Text) : Text :=
  left :: join (String.singleton middle) spans ++ [right]

/-- Where the separator in front of a column stands. There is a blank on both sides of every
separator. -/
def offset (widths : List Nat) (column : Nat) : Nat :=
  (widths.take column).sum + 3 * column

@[simp] theorem offset_zero (widths : List Nat) : offset widths 0 = 0 := rfl

@[simp] theorem offset_cons_succ (width : Nat) (widths : List Nat) (column : Nat) :
    offset (width :: widths) (column + 1) = width + 3 + offset widths column := by
  simp only [offset, List.take_succ_cons, List.sum_cons]
  omega

theorem offset_succ {widths : List Nat} {column width : Nat}
    (here : widths[column]? = some width) :
    offset widths (column + 1) = offset widths column + width + 3 := by
  induction widths generalizing column with
  | nil => cases here
  | cons first rest induction =>
      rw [offset_cons_succ]
      cases column with
      | zero =>
          rw [List.getElem?_cons_zero, Option.some.injEq] at here
          rw [here, offset_zero, offset_zero]
          omega
      | succ column =>
          rw [induction here, offset_cons_succ]
          omega

section Fences

variable {left middle right : Char} {spans : List Text} {widths : List Nat}

@[simp] theorem fenced_singleton (span : Text) :
    fenced left middle right [span] = left :: (span ++ [right]) := by
  rw [fenced, join_singleton, List.cons_append]

@[simp] theorem fenced_cons_cons (first second : Text) (rest : List Text) :
    fenced left middle right (first :: second :: rest) =
      left :: (first ++ fenced middle middle right (second :: rest)) := by
  simp [fenced, join_cons_cons]

theorem length_fenced (filled : spans ≠ [])
    (sizes : spans.map List.length = widths.map (· + 2)) :
    (fenced left middle right spans).length = offset widths widths.length + 1 := by
  induction spans generalizing left widths with
  | nil => exact absurd rfl filled
  | cons first rest induction =>
      cases widths with
      | nil => cases sizes
      | cons width widths =>
          obtain ⟨size, sizes⟩ : first.length = width + 2 ∧
            rest.map List.length = widths.map (· + 2) := List.cons.inj sizes
          cases rest with
          | nil =>
              rw [List.map_eq_nil_iff.mp sizes.symm]
              simp [size]
          | cons second rest =>
              rw [fenced_cons_cons, List.length_cons, List.length_append,
                induction (List.cons_ne_nil second rest) sizes, size, List.length_cons,
                offset_cons_succ]
              omega

theorem drop_fenced (sizes : spans.map List.length = widths.map (· + 2)) {column : Nat}
    (inside : column < spans.length) :
    (fenced left middle right spans).drop (offset widths column) =
      fenced (if column = 0 then left else middle) middle right (spans.drop column) := by
  induction spans generalizing left widths column with
  | nil => cases inside
  | cons first rest induction =>
      cases column with
      | zero => rfl
      | succ column =>
          cases widths with
          | nil => cases sizes
          | cons width widths =>
              obtain ⟨size, sizes⟩ : first.length = width + 2 ∧
                rest.map List.length = widths.map (· + 2) := List.cons.inj sizes
              cases rest with
              | nil => exact absurd inside (by simp)
              | cons second rest =>
                  have skipped : width + 3 + offset widths column =
                      first.length + offset widths column + 1 := by omega
                  rw [fenced_cons_cons, offset_cons_succ, skipped, List.drop_succ_cons,
                    List.drop_length_add_append, induction sizes (Nat.lt_of_succ_lt_succ inside),
                    ite_self, if_neg (Nat.succ_ne_zero column), List.drop_succ_cons]

theorem getElem?_fenced (filled : spans ≠ [])
    (sizes : spans.map List.length = widths.map (· + 2)) {column : Nat}
    (inside : column ≤ widths.length) :
    (fenced left middle right spans)[offset widths column]? =
      some (if column = 0 then left else if column = widths.length then right else middle) := by
  have same : spans.length = widths.length := by
    simpa using congrArg List.length sizes
  rcases Nat.lt_or_eq_of_le inside with before | rfl
  · have dropped : (fenced left middle right spans).drop (offset widths column) = _ :=
      drop_fenced sizes (by omega)
    have first := congrArg List.head? dropped
    rw [List.head?_drop] at first
    rw [first, if_neg (Nat.ne_of_lt before)]
    rfl
  · have positive : widths.length ≠ 0 := by
      rw [← same]
      exact mt List.length_eq_zero_iff.mp filled
    have length : (fenced left middle right spans).length = _ := length_fenced filled sizes
    have last : (fenced left middle right spans).getLast? = some right :=
      List.getLast?_concat
    rw [List.getLast?_eq_getElem?, length, Nat.add_sub_cancel] at last
    rw [last, if_neg positive, if_pos rfl]

theorem extract_fenced (sizes : spans.map List.length = widths.map (· + 2)) {column : Nat}
    {span : Text} (here : spans[column]? = some span) :
    (fenced left middle right spans).extract (offset widths column + 1)
      (offset widths (column + 1)) = span := by
  rcases List.getElem?_eq_some_iff.mp here with ⟨inside, equal⟩
  have size := congrArg (·[column]?) sizes
  simp only [List.getElem?_map, here, Option.map_some] at size
  rcases Option.map_eq_some_iff.mp size.symm with ⟨width, isWidth, length⟩
  have room : offset widths (column + 1) - (offset widths column + 1) = span.length := by
    rw [offset_succ isWidth]
    omega
  rw [List.extract_eq_take_drop, room, ← List.drop_drop, drop_fenced sizes inside,
    List.drop_eq_getElem_cons inside, equal]
  cases spans.drop (column + 1) with
  | nil => simp
  | cons second rest => simp

end Fences

/-! ## Fields -/

def sideMarks : List Char := ['<', '>', '^']

/-- How a text fills the field of a column: with blanks behind it, in front of it or around it, as
the mark of the column says, where an odd blank comes behind it. -/
inductive Fills : (mark : Char) → (width : Nat) → (text field : Text) → Prop
  | left {width blanks : Nat} {text : Text} (full : text.length + blanks = width) :
      Fills '<' width text (text ++ List.replicate blanks ' ')
  | right {width blanks : Nat} {text : Text} (full : blanks + text.length = width) :
      Fills '>' width text (List.replicate blanks ' ' ++ text)
  | centre {width front back : Nat} {text : Text} (full : front + text.length + back = width)
      (middle : front ≤ back ∧ back ≤ front + 1) :
      Fills '^' width text (List.replicate front ' ' ++ text ++ List.replicate back ' ')

section Fields

variable {mark : Char} {width : Nat} {text field : Text}

theorem Fills.length_eq (fills : Fills mark width text field) : field.length = width := by
  cases fills with
  | left full => simpa using full
  | right full => simpa using full
  | centre full _ => simpa [Nat.add_assoc] using full

theorem Fills.mem_cases (fills : Fills mark width text field) {c : Char} (member : c ∈ field) :
    c = ' ' ∨ c ∈ text := by
  cases fills with
  | left _ => exact (List.mem_append.mp member).symm.imp_left List.eq_of_mem_replicate
  | right _ => exact (List.mem_append.mp member).imp_left List.eq_of_mem_replicate
  | centre _ _ =>
      rcases List.mem_append.mp member with inFront | behind
      · exact (List.mem_append.mp inFront).imp_left List.eq_of_mem_replicate
      · exact .inl (List.eq_of_mem_replicate behind)

theorem exists_ofMark (marked : mark ∈ sideMarks) (bounded : width < CellFormat.sizeLimit) :
    ∃ format, CellFormat.ofMark mark (Int.ofNat width) = .ok format ∧
      ∀ text, text.length ≤ width → Fills mark width text (format.apply text) := by
  have formatted : CellFormat.ofMark mark (Int.ofNat width) =
      (CellFormat.ofWidth mark width).mapError fun fault => .value (.cellFormat fault) := by
    have notNegative : ¬Int.ofNat width < 0 := Int.not_lt.mpr (Int.natCast_nonneg width)
    rw [CellFormat.ofMark, if_neg notNegative]
    rfl
  rw [formatted]
  simp only [sideMarks, List.mem_cons, List.not_mem_nil, or_false] at marked
  rcases marked with rfl | rfl | rfl
  · refine ⟨.filled ' ' .left width, by simp only [CellFormat.ofWidth, bounded, if_true]; rfl, ?_⟩
    exact fun text fits => .left (by omega)
  · refine ⟨.filled ' ' .right width, by simp only [CellFormat.ofWidth, bounded, if_true]; rfl, ?_⟩
    exact fun text fits => .right (by omega)
  · refine ⟨.filled ' ' .centre width, by simp only [CellFormat.ofWidth, bounded, if_true]; rfl, ?_⟩
    exact fun text fits => .centre (by omega) (by omega)

end Fields

def FillEach (marks : Text) (widths : List Nat) (texts fields : List Text) : Prop :=
  ∀ (column : Nat) (mark : Char) (width : Nat) (text : Text), marks[column]? = some mark →
    widths[column]? = some width → texts[column]? = some text →
    ∃ field, fields[column]? = some field ∧ Fills mark width text field

theorem exists_layOut {marks : Text} {widths : List Nat} {texts : List Text}
    (marked : ∀ mark ∈ marks, mark ∈ sideMarks) (sameMarks : marks.length = widths.length)
    (bounded : ∀ width ∈ widths, width < CellFormat.sizeLimit)
    (fits : List.Forall₂ (fun text width => text.length ≤ width) texts widths) :
    ∃ fields, layOut texts marks (widths.map Int.ofNat) = .ok fields ∧
      fields.map List.length = widths ∧ FillEach marks widths texts fields ∧
      ∀ field ∈ fields, ∀ c ∈ field, c = ' ' ∨ ∃ text ∈ texts, c ∈ text := by
  induction fits generalizing marks with
  | nil => exact ⟨[], rfl, rfl, by rintro column _ _ _ _ ⟨⟩, by simp⟩
  | @cons text width texts widths fit _ induction =>
      cases marks with
      | nil => cases sameMarks
      | cons mark marks =>
          rcases exists_ofMark (marked mark List.mem_cons_self)
            (bounded width List.mem_cons_self) with ⟨format, formatted, fills⟩
          rcases induction (fun other member => marked other (List.mem_cons_of_mem mark member))
            (Nat.succ.inj sameMarks)
            (fun other member => bounded other (List.mem_cons_of_mem width member)) with
            ⟨fields, laidOut, sizes, each, inside⟩
          refine ⟨format.apply text :: fields, ?_, ?_, ?_, ?_⟩
          · rw [List.map_cons, layOut, formatted, laidOut]
            rfl
          · rw [List.map_cons, sizes, (fills text fit).length_eq]
          · intro column otherMark otherWidth otherText isMark isWidth isText
            cases column with
            | zero =>
                cases isMark
                cases isWidth
                cases isText
                exact ⟨_, rfl, fills text fit⟩
            | succ column => exact each column otherMark otherWidth otherText isMark isWidth isText
          · refine List.forall_mem_cons.mpr ⟨fun c member => ?_, fun field isField c member => ?_⟩
            · exact ((fills text fit).mem_cases member).imp_right
                fun inText => ⟨text, List.mem_cons_self, inText⟩
            · exact (inside field isField c member).imp_right fun ⟨other, isText, inText⟩ =>
                ⟨other, List.mem_cons_of_mem text isText, inText⟩

/-! ## The lines of a table -/

/-- Whether a line is cut into columns by separators and filled with dashes. -/
structure IsRule (left middle right : Char) (widths : List Nat) (shown : Text) : Prop where
  separated : ∀ column ≤ widths.length, shown[offset widths column]? =
    some (if column = 0 then left else if column = widths.length then right else middle)
  dashed : ∀ column < widths.length,
    ∀ c ∈ shown.extract (offset widths column + 1) (offset widths (column + 1)), c = '─'

/-- Whether a line is cut into columns by separators and has each text of a list, with a blank on
both sides, in the field of its column. -/
structure HasFields (marks : Text) (widths : List Nat) (texts : List Text) (shown : Text) :
    Prop where
  separated : ∀ column ≤ widths.length, shown[offset widths column]? = some '│'
  filled : ∀ (column : Nat) (mark : Char) (width : Nat) (text : Text), marks[column]? = some mark →
    widths[column]? = some width → texts[column]? = some text →
    ∃ field, shown.extract (offset widths column + 1) (offset widths (column + 1)) =
      ' ' :: (field ++ [' ']) ∧ Fills mark width text field

section Lines

variable {left middle right : Char} {widths : List Nat}

theorem rule_eq_fenced (left middle right : Char) (widths : List Nat) :
    rule left middle right (widths.map Int.ofNat) =
      fenced left middle right (widths.map fun width => List.replicate (width + 2) '─') := by
  rw [rule, List.map_map]
  rfl

theorem isRule_rule (filled : widths ≠ []) :
    IsRule left middle right widths
      (rule left middle right (widths.map Int.ofNat)) := by
  have sizes : (widths.map fun width => List.replicate (width + 2) '─').map List.length =
      widths.map (· + 2) := by
    rw [List.map_map]
    exact List.map_congr_left fun width _ => List.length_replicate
  rw [rule_eq_fenced]
  refine ⟨fun column => getElem?_fenced (mt List.map_eq_nil_iff.mp filled) sizes,
    fun column inside c member => ?_⟩
  have here : (widths.map fun width => List.replicate (width + 2) '─')[column]? =
      some (List.replicate (widths[column] + 2) '─') := by
    rw [List.getElem?_map, List.getElem?_eq_getElem inside, Option.map_some]
  rw [extract_fenced sizes here] at member
  exact List.eq_of_mem_replicate member

def spaced (field : Text) : Text :=
  ' ' :: (field ++ [' '])

theorem line_eq_fenced {fields : List Text} (filled : fields ≠ []) :
    "│ ".toList ++ join " │ " fields ++ " │".toList =
      fenced '│' '│' '│' (fields.map spaced) := by
  induction fields with
  | nil => exact absurd rfl filled
  | cons first rest induction =>
      cases rest with
      | nil => simp [spaced]
      | cons second rest =>
          have later := induction (List.cons_ne_nil second rest)
          rw [List.map_cons, List.map_cons, fenced_cons_cons, ← List.map_cons, ← later,
            join_cons_cons]
          simp [spaced]

theorem exists_line {marks : Text} {texts : List Text} (filled : texts ≠ [])
    (marked : ∀ mark ∈ marks, mark ∈ sideMarks) (sameMarks : marks.length = widths.length)
    (bounded : ∀ width ∈ widths, width < CellFormat.sizeLimit)
    (fits : List.Forall₂ (fun text width => text.length ≤ width) texts widths) :
    ∃ shown, line texts marks (widths.map Int.ofNat) = .ok shown ∧
      HasFields marks widths texts shown ∧ shown.length = offset widths widths.length + 1 ∧
      ∀ c ∈ shown, c = '│' ∨ c = ' ' ∨ ∃ text ∈ texts, c ∈ text := by
  rcases exists_layOut marked sameMarks bounded fits with ⟨fields, laidOut, sizes, each, inside⟩
  have sameSize := congrArg List.length sizes
  rw [List.length_map, ← fits.length_eq] at sameSize
  have someField : fields ≠ [] := by
    rintro rfl
    exact filled (List.length_eq_zero_iff.mp sameSize.symm)
  have someSpan : fields.map spaced ≠ [] := mt List.map_eq_nil_iff.mp someField
  have spanSizes : (fields.map spaced).map List.length = widths.map (· + 2) := by
    rw [← sizes, List.map_map, List.map_map]
    exact List.map_congr_left fun field _ => by simp [spaced]
  refine ⟨fenced '│' '│' '│' (fields.map spaced), ?_, ⟨fun column within => ?_, ?_⟩,
    length_fenced someSpan spanSizes, ?_⟩
  · rw [line, laidOut, ← line_eq_fenced someField]
    rfl
  · rw [getElem?_fenced someSpan spanSizes within, ite_self, ite_self]
  · intro column mark width text isMark isWidth isText
    rcases each column mark width text isMark isWidth isText with ⟨field, isField, fills⟩
    have isSpan : (fields.map spaced)[column]? = some (spaced field) := by
      rw [List.getElem?_map, isField, Option.map_some]
    exact ⟨field, extract_fenced spanSizes isSpan, fills⟩
  · intro c member
    rw [← line_eq_fenced someField, List.mem_append, List.mem_append] at member
    have sign : ∀ d ∈ "│ ".toList ++ " │ ".toList ++ " │".toList, d = '│' ∨ d = ' ' := by decide
    rcases member with (inFront | joined) | behind
    · exact (sign c (List.mem_append_left _ (List.mem_append_left _ inFront))).imp_right .inl
    · rcases mem_join joined with between | ⟨field, isField, inField⟩
      · exact (sign c (List.mem_append_left _ (List.mem_append_right _ between))).imp_right .inl
      · exact .inr (inside field isField c inField)
    · exact (sign c (List.mem_append_right _ behind)).imp_right .inl

end Lines

/-! ## The widths of columns -/

def columnTexts (headers : List Text) (rows : List (List Text)) (column : Nat) : List Text :=
  (headers :: rows).filterMap (·[column]?)

structure IsWidest (texts : List Text) (width : Nat) : Prop where
  covers : ∀ text ∈ texts, text.length ≤ width
  reached : ∃ text ∈ texts, text.length = width

theorem IsWidest.append {texts : List Text} {width : Nat} (widest : IsWidest texts width)
    (text : Text) : IsWidest (texts ++ [text]) (max width text.length) := by
  refine ⟨fun other member => ?_, ?_⟩
  · rcases List.mem_append.mp member with inTexts | isText
    · exact Nat.le_trans (widest.covers other inTexts) (Nat.le_max_left _ _)
    · rw [List.mem_singleton.mp isText]
      exact Nat.le_max_right _ _
  · rcases widest.reached with ⟨other, member, length⟩
    rcases Nat.le_total width text.length with longer | shorter
    · exact ⟨text, by simp, (Nat.max_eq_right longer).symm⟩
    · exact ⟨other, List.mem_append_left _ member, length.trans (Nat.max_eq_left shorter).symm⟩

theorem exists_columnWidth {rows : List (List Text)} {column : Nat}
    (reach : ∀ row ∈ rows, column < row.length) (header : Text) :
    ∃ width, columnWidth header rows column = .ok width ∧
      IsWidest (header :: rows.filterMap fun row => row[column]?) width := by
  let Holds (seen : List (List Text)) := IsWidest (header :: seen.filterMap fun row => row[column]?)
  have start : Holds [] header.length :=
    ⟨fun text isHeader => by rw [List.mem_singleton.mp isHeader], header,
      List.mem_singleton_self header, rfl⟩
  refine exists_foldlM Holds (fun seen width row isRow widest => ?_) start
  have inside := reach row isRow
  have here : row[column]? = some row[column] := List.getElem?_eq_getElem inside
  refine ⟨max width row[column].length, by rw [here], ?_⟩
  simpa [Holds, here] using widest.append row[column]

structure AreWidths (headers : List Text) (rows : List (List Text)) (widths : List Nat) :
    Prop where
  same : widths.length = headers.length
  widest : ∀ (column width : Nat), widths[column]? = some width →
    IsWidest (columnTexts headers rows column) width

section Widths

variable {headers : List Text} {rows : List (List Text)}

theorem exists_columnWidths (square : ∀ row ∈ rows, row.length = headers.length) :
    ∃ widths : List Nat, columnWidths headers rows = .ok (widths.map Int.ofNat) ∧
      AreWidths headers rows widths := by
  have each : ∀ entry ∈ headers.zipIdx, ∃ width, columnWidth entry.1 rows entry.2 = .ok width ∧
      IsWidest (columnTexts headers rows entry.2) width := by
    rintro ⟨header, column⟩ member
    have here : headers[column]? = some header := List.mem_zipIdx_iff_getElem?.mp member
    have reach : ∀ row ∈ rows, column < row.length := by
      intro row isRow
      rw [square row isRow]
      exact (List.getElem?_eq_some_iff.mp here).1
    rcases exists_columnWidth reach header with ⟨width, computed, widest⟩
    exact ⟨width, computed, by simpa [columnTexts, List.filterMap_cons, here] using widest⟩
  rcases exists_mapM each with ⟨widths, computed, widest⟩
  have mapped := mapM_map (fun width : Nat => (width : Int)) headers.zipIdx
    |>.trans (congrArg _ computed)
  refine ⟨widths, mapped, ?_, fun column width here => ?_⟩
  · rw [← widest.length_eq, List.length_zipIdx]
  · rcases List.getElem?_eq_some_iff.mp here with ⟨inside, rfl⟩
    have related := widest.get (by rw [widest.length_eq]; exact inside) inside
    simpa using related

theorem AreWidths.filled {widths : List Nat} (sized : AreWidths headers rows widths)
    (filled : headers ≠ []) : widths ≠ [] := by
  rintro rfl
  exact filled (List.length_eq_zero_iff.mp sized.same.symm)

theorem AreWidths.fits {widths : List Nat} (sized : AreWidths headers rows widths)
    {texts : List Text} (inTable : texts ∈ headers :: rows)
    (same : texts.length = headers.length) :
    List.Forall₂ (fun text width => text.length ≤ width) texts widths := by
  refine List.forall₂_iff_get.mpr ⟨same.trans sized.same.symm, fun column inTexts inWidths => ?_⟩
  refine (sized.widest column _ (List.getElem?_eq_getElem inWidths)).covers _ ?_
  exact List.mem_filterMap.mpr ⟨texts, inTable, List.getElem?_eq_getElem inTexts⟩

theorem AreWidths.bounded {widths : List Nat} (sized : AreWidths headers rows widths)
    {bound : Nat} (small : ∀ texts ∈ headers :: rows, ∀ text ∈ texts, text.length < bound) :
    ∀ width ∈ widths, width < bound := by
  intro width member
  rcases List.mem_iff_getElem?.mp member with ⟨column, here⟩
  rcases (sized.widest column width here).reached with ⟨text, inColumn, rfl⟩
  rcases List.mem_filterMap.mp inColumn with ⟨texts, inTable, isText⟩
  exact small texts inTable text (List.mem_of_getElem? isText)

end Widths

/-! ## Boxes -/

def leftMarks (count : Nat) : Text :=
  List.replicate count '<'

def rowMarks (count : Nat) (marks : Text) : Text :=
  if marks.isEmpty then leftMarks count else marks

/-- Whether headers, rows and marks go together: there are some columns, every row has a text for
each of them, and so do the marks, if there are any. Each text stands on one line and is shorter
than the limit of widths, as every text is that can be stored at all. -/
structure IsGrid (headers : List Text) (rows : List (List Text)) (marks : Text) : Prop where
  filled : headers ≠ []
  square : ∀ row ∈ rows, row.length = headers.length
  oneLine : ∀ texts ∈ headers :: rows, ∀ text ∈ texts, '\n' ∉ text
  bounded : ∀ texts ∈ headers :: rows, ∀ text ∈ texts, text.length < CellFormat.sizeLimit
  marked : marks = [] ∨ marks.length = headers.length ∧ ∀ mark ∈ marks, mark ∈ sideMarks

/-- Whether lines are those of a table in a box: all of one length and cut at the same places, with
three rules around the headers and the rows. -/
structure IsBoxed (headers : List Text) (rows : List (List Text)) (marks : Text)
    (widths : List Nat) (lines : List Text) : Prop where
  count : lines.length = rows.length + 4
  even : ∀ shown ∈ lines, shown.length = widths.sum + 3 * headers.length + 1
  top : ∃ shown, lines[0]? = some shown ∧ IsRule '┌' '┬' '┐' widths shown
  header : ∃ shown, lines[1]? = some shown ∧
    HasFields (leftMarks headers.length) widths headers shown
  middle : ∃ shown, lines[2]? = some shown ∧ IsRule '├' '┼' '┤' widths shown
  body : ∀ (index : Nat) (row : List Text), rows[index]? = some row →
    ∃ shown, lines[index + 3]? = some shown ∧
      HasFields (rowMarks headers.length marks) widths row shown
  bottom : ∃ shown, lines[rows.length + 3]? = some shown ∧ IsRule '└' '┴' '┘' widths shown

structure IsFullLine (widths : List Nat) (shown : Text) : Prop where
  full : shown.length = offset widths widths.length + 1
  unbroken : '\n' ∉ shown

section Rules

variable {left middle right : Char}

theorem length_rule {widths : List Nat} (filled : widths ≠ []) :
    (rule left middle right (widths.map Int.ofNat)).length =
      offset widths widths.length + 1 := by
  rw [rule_eq_fenced]
  refine length_fenced (mt List.map_eq_nil_iff.mp filled) ?_
  rw [List.map_map]
  exact List.map_congr_left fun width _ => List.length_replicate

theorem mem_rule {widths : List Int} {c : Char} (member : c ∈ rule left middle right widths) :
    c ∈ [left, middle, right, '─'] := by
  rw [rule, List.cons_append, List.mem_cons, List.mem_append] at member
  rcases member with rfl | joined | last
  · exact List.mem_cons_self
  · rcases mem_join joined with between | ⟨span, isSpan, inSpan⟩
    · rw [String.toList_singleton, List.mem_singleton] at between
      simp [between]
    · rcases List.mem_map.mp isSpan with ⟨width, _, rfl⟩
      simp [List.eq_of_mem_replicate inSpan]
  · simp [List.mem_singleton.mp last]

theorem isFullLine_rule {widths : List Nat} (filled : widths ≠ [])
    (unbroken : '\n' ∉ [left, middle, right, '─']) :
    IsFullLine widths (rule left middle right (widths.map Int.ofNat)) :=
  ⟨length_rule filled, mt mem_rule unbroken⟩

end Rules

def boxLines (widths : List Nat) (header : Text) (body : List Text) : List Text :=
  rule '┌' '┬' '┐' (widths.map Int.ofNat) :: header ::
    rule '├' '┼' '┤' (widths.map Int.ofNat) ::
      (body ++ [rule '└' '┴' '┘' (widths.map Int.ofNat)])

section Boxes

variable {headers : List Text} {rows : List (List Text)} {marks : Text} {widths : List Nat}
variable {header : Text} {body : List Text}

theorem table_eq_join (computed : columnWidths headers rows = .ok (widths.map Int.ofNat))
    (headed : line headers (leftMarks headers.length) (widths.map Int.ofNat) = .ok header)
    (bodied : (rows.mapM fun row =>
      line row (rowMarks headers.length marks) (widths.map Int.ofNat)) = .ok body) :
    table headers rows none marks = .ok (join "\n" (boxLines widths header body)) := by
  rw [leftMarks] at headed
  rw [rowMarks, leftMarks] at bodied
  rw [table, computed]
  dsimp only [bind, Except.bind]
  rw [headed]
  dsimp only
  rw [bodied]
  rfl

theorem isFullLine_of_mem_boxLines (filled : widths ≠ []) (fullHeader : IsFullLine widths header)
    (fullBody : ∀ shown ∈ body, IsFullLine widths shown) :
    ∀ shown ∈ boxLines widths header body, IsFullLine widths shown := by
  intro shown member
  simp only [boxLines, List.mem_cons, List.mem_append, List.not_mem_nil, or_false] at member
  rcases member with rfl | rfl | rfl | inBody | rfl
  · exact isFullLine_rule filled (by decide)
  · exact fullHeader
  · exact isFullLine_rule filled (by decide)
  · exact fullBody shown inBody
  · exact isFullLine_rule filled (by decide)

theorem offset_length (widths : List Nat) :
    offset widths widths.length = widths.sum + 3 * widths.length := by
  rw [offset, List.take_length]

theorem mem_leftMarks {count : Nat} {mark : Char} (member : mark ∈ leftMarks count) :
    mark ∈ sideMarks := by
  rw [List.eq_of_mem_replicate member]
  exact List.mem_cons_self

namespace IsGrid

theorem rowMarks (grid : IsGrid headers rows marks) :
    (rowMarks headers.length marks).length = headers.length ∧
      ∀ mark ∈ rowMarks headers.length marks, mark ∈ sideMarks := by
  rcases grid.marked with rfl | given
  · exact ⟨List.length_replicate, fun mark => mem_leftMarks⟩
  · have some : marks.isEmpty = false := by
      rw [List.isEmpty_eq_false_iff]
      rintro rfl
      exact grid.filled (List.length_eq_zero_iff.mp given.1.symm)
    rwa [Report.rowMarks, some]

theorem exists_line (grid : IsGrid headers rows marks) (sized : AreWidths headers rows widths)
    {lineMarks : Text} (sameMarks : lineMarks.length = headers.length)
    (marked : ∀ mark ∈ lineMarks, mark ∈ sideMarks) {texts : List Text}
    (inTable : texts ∈ headers :: rows) :
    ∃ shown, line texts lineMarks (widths.map Int.ofNat) = .ok shown ∧
      HasFields lineMarks widths texts shown ∧ IsFullLine widths shown := by
  have same : texts.length = headers.length := by
    rcases List.mem_cons.mp inTable with rfl | isRow
    · rfl
    · exact grid.square texts isRow
  have filled : texts ≠ [] := by
    rintro rfl
    exact grid.filled (List.length_eq_zero_iff.mp same.symm)
  rcases Report.exists_line filled marked (sameMarks.trans sized.same.symm)
    (sized.bounded grid.bounded) (sized.fits inTable same) with
    ⟨shown, made, fields, length, inside⟩
  refine ⟨shown, made, fields, length, fun breaks => ?_⟩
  rcases inside _ breaks with separator | blank | ⟨text, isText, inText⟩
  · exact absurd separator (by decide)
  · exact absurd blank (by decide)
  · exact grid.oneLine texts inTable text isText inText

theorem isBoxed_boxLines (grid : IsGrid headers rows marks) (sized : AreWidths headers rows widths)
    (full : ∀ shown ∈ boxLines widths header body, IsFullLine widths shown)
    (headed : HasFields (leftMarks headers.length) widths headers header)
    (bodied : List.Forall₂ (HasFields (Report.rowMarks headers.length marks) widths) rows body) :
    IsBoxed headers rows marks widths (boxLines widths header body) where
  count := by simp [boxLines, bodied.length_eq]
  even shown member := by rw [(full shown member).full, offset_length, sized.same]
  top := ⟨_, rfl, isRule_rule (sized.filled grid.filled)⟩
  header := ⟨header, rfl, headed⟩
  middle := ⟨_, rfl, isRule_rule (sized.filled grid.filled)⟩
  body index row isRow := by
    rcases List.getElem?_eq_some_iff.mp isRow with ⟨inRows, rfl⟩
    have inBody : index < body.length := by
      rw [← bodied.length_eq]
      exact inRows
    refine ⟨body[index], ?_, bodied.get inRows inBody⟩
    show (body ++ [_])[index]? = _
    rw [List.getElem?_append_left inBody, List.getElem?_eq_getElem inBody]
  bottom := by
    refine ⟨_, ?_, isRule_rule (sized.filled grid.filled)⟩
    show (body ++ [_])[rows.length]? = _
    rw [bodied.length_eq, List.getElem?_concat_length]

end IsGrid

/-- A table of a grid is made, with columns as wide as their widest texts; its lines are those of a
box, in which every text stands whole in its field. -/
theorem table_is_boxed (grid : IsGrid headers rows marks) :
    ∃ (shown : Text) (widths : List Nat), table headers rows none marks = .ok shown ∧
      AreWidths headers rows widths ∧
      IsBoxed headers rows marks widths (splitOn '\n' shown) := by
  rcases exists_columnWidths grid.square with ⟨widths, computed, sized⟩
  rcases grid.exists_line sized (show (leftMarks headers.length).length = headers.length from
    List.length_replicate) (fun mark => mem_leftMarks) List.mem_cons_self with
    ⟨header, madeHeader, headed, fullHeader⟩
  rcases exists_mapM fun row isRow => grid.exists_line sized grid.rowMarks.1 grid.rowMarks.2
    (List.mem_cons_of_mem headers isRow) with ⟨body, madeBody, related⟩
  have bodied := related.imp fun row shown => And.left
  have fullBody : ∀ shown ∈ body, IsFullLine widths shown := by
    intro shown member
    rcases List.mem_iff_getElem.mp member with ⟨index, inside, rfl⟩
    exact (related.get (related.length_eq ▸ inside) inside).2
  have full := isFullLine_of_mem_boxLines (sized.filled grid.filled) fullHeader fullBody
  have split : splitOn '\n' (join "\n" (boxLines widths header body)) =
      boxLines widths header body :=
    splitOn_join rfl fun shown member => (full shown member).unbroken
  refine ⟨_, widths, table_eq_join computed madeHeader madeBody, sized, ?_⟩
  rw [split]
  exact grid.isBoxed_boxLines sized full headed bodied

end Boxes

theorem table_is_boxed_two_columns :
    IsGrid ["id".toList, "n".toList] [["a".toList, "120".toList]] ['<', '>'] ∧
      ∃ (shown : Text) (widths : List Nat),
        table ["id".toList, "n".toList] [["a".toList, "120".toList]] none ['<', '>'] =
          .ok shown ∧
        AreWidths ["id".toList, "n".toList] [["a".toList, "120".toList]] widths ∧
        IsBoxed ["id".toList, "n".toList] [["a".toList, "120".toList]] ['<', '>'] widths
          (splitOn '\n' shown) := by
  have grid : IsGrid ["id".toList, "n".toList] [["a".toList, "120".toList]] ['<', '>'] :=
    ⟨by decide, by decide, by decide, by decide, .inr (by decide)⟩
  exact ⟨grid, table_is_boxed grid⟩

example : table ["id".toList, "n".toList] [["a".toList, "120".toList]] none ['<', '>'] =
    .ok (join "\n" ["┌────┬─────┐".toList, "│ id │ n   │".toList, "├────┼─────┤".toList,
      "│ a  │ 120 │".toList, "└────┴─────┘".toList]) := rfl

end SymbolScript.Report
