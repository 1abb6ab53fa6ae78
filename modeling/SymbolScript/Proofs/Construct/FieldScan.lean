import SymbolScript.Proofs.Construct.Field

/-!
Scans for fields, step by step. Behind a text a scan stands inside an open quote or not, and at some
depth of brackets, unless a separator of the text ends a field.
-/

namespace SymbolScript.Construct

open Text

/-- Where a scan for fields stands: the quote that is open, if there is one, and the depth of
brackets. -/
structure ScanState where
  quote : Option Char
  depth : Int
deriving DecidableEq, Repr

namespace ScanState

def outside : ScanState := ⟨none, 0⟩

/-- Where a scan stands behind one more character, none if that ends a field. -/
def next? (isSeparator : Char → Bool) (state : ScanState) (c : Char) : Option ScanState :=
  match state.quote with
  | some quote => some { state with quote := if c = quote then none else some quote }
  | none =>
    if isQuote c then some { state with quote := some c }
    else if isNestingOpener c then some { state with depth := state.depth + 1 }
    else if isNestingCloser c then some { state with depth := state.depth - 1 }
    else if isSeparator c && state.depth == 0 then none
    else some state

/-- Where a scan stands behind a text, none if a separator in it ends a field. -/
def after? (isSeparator : Char → Bool) (state : ScanState) : Text → Option ScanState
  | [] => some state
  | c :: rest => (state.next? isSeparator c).bind fun next => next.after? isSeparator rest

/-- Where a scan stands behind one more character, whether or not that ends a field. -/
def step (isSeparator : Char → Bool) (state : ScanState) (c : Char) : ScanState :=
  (state.next? isSeparator c).getD outside

/-- Where a scan stands behind a text, whether or not separators in it end fields. -/
def behind (isSeparator : Char → Bool) (state : ScanState) (text : Text) : ScanState :=
  text.foldl (step isSeparator) state

abbrev scan (isSeparator : Char → Bool) (state : ScanState) (text : Text) : Text × List Text :=
  scanFields isSeparator state.quote state.depth text

example : outside.after? isComma "f('a,b',[1,2])".toList = some outside := by decide
example : outside.after? isComma "'a".toList = some ⟨some '\x27', 0⟩ := by decide
example : outside.after? isComma "a,b".toList = none := by decide

variable {isSeparator : Char → Bool} {state next : ScanState}

/-! ## Steps -/

theorem scan_cons (isSeparator : Char → Bool) (state : ScanState) (c : Char) (rest : Text) :
    state.scan isSeparator (c :: rest) =
      match state.next? isSeparator c with
      | some next => (c :: (next.scan isSeparator rest).1, (next.scan isSeparator rest).2)
      | none => ([], (outside.scan isSeparator rest).1 :: (outside.scan isSeparator rest).2) := by
  rcases state with ⟨_ | quote, depth⟩
  · rw [scan, scanFields]
    by_cases quotes : isQuote c = true
    · simp [next?, quotes]
    by_cases opens : isNestingOpener c = true
    · simp [next?, quotes, opens]
    by_cases closes : isNestingCloser c = true
    · simp [next?, quotes, opens, closes]
    by_cases separates : (isSeparator c && depth == 0) = true
    · rcases Bool.and_eq_true_iff.mp separates with ⟨isEnd, level⟩
      rw [beq_iff_eq] at level
      simp [next?, quotes, opens, closes, isEnd, level, outside]
    · simp [next?, quotes, opens, closes, separates]
  · rfl

theorem next?_eq_none {c : Char} (ends : state.next? isSeparator c = none) :
    isSeparator c = true ∧ state = outside := by
  rcases state with ⟨_ | quote, depth⟩
  · simp only [next?] at ends
    split at ends
    · cases ends
    split at ends
    · cases ends
    split at ends
    · cases ends
    split at ends
    · next separates =>
      rcases Bool.and_eq_true_iff.mp separates with ⟨isEnd, level⟩
      rw [beq_iff_eq] at level
      exact ⟨isEnd, by rw [level, outside]⟩
    · cases ends
  · cases ends

theorem next?_comma_eq_none_iff {c : Char} :
    state.next? isComma c = none ↔ c = ',' ∧ state = outside := by
  constructor
  · intro ends
    rcases next?_eq_none ends with ⟨separates, stands⟩
    exact ⟨by simpa [isComma] using separates, stands⟩
  · rintro ⟨rfl, rfl⟩
    rfl

theorem exists_next_of_ne_outside (isSeparator : Char → Bool) (inside : state ≠ outside)
    (c : Char) : ∃ next, state.next? isSeparator c = some next :=
  Option.ne_none_iff_exists'.mp fun ends => inside (next?_eq_none ends).2

/-! ## Texts -/

@[simp] theorem after?_nil : state.after? isSeparator [] = some state := rfl

theorem after?_cons (c : Char) (rest : Text) :
    state.after? isSeparator (c :: rest) =
      (state.next? isSeparator c).bind fun next => next.after? isSeparator rest := rfl

theorem after?_append (left right : Text) :
    state.after? isSeparator (left ++ right) =
      (state.after? isSeparator left).bind fun next => next.after? isSeparator right := by
  induction left generalizing state with
  | nil => rfl
  | cons c left induction =>
      rw [List.cons_append, after?_cons, after?_cons]
      cases state.next? isSeparator c with
      | none => rfl
      | some next => exact induction

theorem after?_of_plain {text : Text} (plain : IsPlainField isSeparator text) :
    outside.after? isSeparator text = some outside := by
  induction text with
  | nil => rfl
  | cons c rest induction =>
      rcases plain c List.mem_cons_self with ⟨noQuote, noOpener, noCloser, noSeparator⟩
      have step : outside.next? isSeparator c = some outside := by
        simp [next?, outside, noQuote, noOpener, noCloser, noSeparator]
      rw [after?_cons, step]
      exact induction fun d member => plain d (List.mem_cons_of_mem c member)

theorem after?_of_blank_of_solid (solid : ∀ c, isSeparator c = true → isBlank c = false)
    {text : Text} (blank : ∀ c ∈ text, isBlank c = true) :
    outside.after? isSeparator text = some outside := by
  apply after?_of_plain
  intro c member
  have other : c ∉ ['\x27', '\x22', '\x60', '(', '[', '{', ')', ']', '}'] := fun stops =>
    absurd (blank c member) ((by decide : ∀ d ∈ ['\x27', '\x22', '\x60', '(', '[', '{', ')', ']',
      '}'], ¬isBlank d = true) c stops)
  have noSeparator : isSeparator c = false :=
    Bool.eq_false_iff.mpr fun separates => nomatch (solid c separates).symm.trans (blank c member)
  simp only [List.mem_cons, not_or] at other
  simp [isQuote, isNestingOpener, isNestingCloser, noSeparator, other]

theorem after?_of_blank {text : Text} (blank : ∀ c ∈ text, isBlank c = true) :
    outside.after? isComma text = some outside := by
  apply after?_of_blank_of_solid _ blank
  intro c isComma
  rw [beq_iff_eq.mp isComma]
  rfl

theorem after?_quoted {quote : Char} {depth : Int} {text : Text} (absent : quote ∉ text) :
    (⟨some quote, depth⟩ : ScanState).after? isSeparator (text ++ [quote]) =
      some ⟨none, depth⟩ := by
  induction text with
  | nil => simp [after?, next?]
  | cons c rest induction =>
      rcases List.ne_and_not_mem_of_not_mem_cons absent with ⟨different, later⟩
      have step : (⟨some quote, depth⟩ : ScanState).next? isSeparator c =
          some ⟨some quote, depth⟩ := by
        simp [next?, different.symm]
      rw [List.cons_append, after?_cons, step]
      exact induction later

theorem scan_append {text : Text} (passed : state.after? isSeparator text = some next)
    (rest : Text) :
    state.scan isSeparator (text ++ rest) =
      (text ++ (next.scan isSeparator rest).1, (next.scan isSeparator rest).2) := by
  induction text generalizing state with
  | nil =>
      cases passed
      rfl
  | cons c text induction =>
      rw [after?_cons] at passed
      rcases Option.bind_eq_some_iff.mp passed with ⟨middle, step, later⟩
      rw [List.cons_append, scan_cons, step]
      simp only [induction later, List.cons_append]

theorem scan_of_after {text : Text} (passed : state.after? isSeparator text = some next) :
    state.scan isSeparator text = (text, []) := by
  have whole := scan_append passed []
  have nothing : next.scan isSeparator [] = ([], []) := by
    rcases next with ⟨_ | quote, depth⟩ <;> rfl
  rwa [nothing, List.append_nil] at whole

theorem exists_end_of_after?_eq_none {text : Text} (ends : state.after? isSeparator text = none) :
    ∃ before separator after, text = before ++ separator :: after ∧
      state.after? isSeparator before = some outside ∧
      outside.next? isSeparator separator = none := by
  induction text generalizing state with
  | nil => cases ends
  | cons c text induction =>
      cases step : state.next? isSeparator c with
      | none =>
          have stands := (next?_eq_none step).2
          exact ⟨[], c, text, rfl, by rw [stands, after?_nil], by rw [← stands, step]⟩
      | some next =>
          rw [after?_cons, step] at ends
          rcases induction ends with ⟨before, separator, after, parts, passed, isEnd⟩
          refine ⟨c :: before, separator, after, by rw [parts, List.cons_append], ?_, isEnd⟩
          rw [after?_cons, step]
          exact passed

theorem scan_append_end {text : Text} (passed : state.after? isSeparator text = some outside)
    {separator : Char} (ends : outside.next? isSeparator separator = none) (rest : Text) :
    state.scan isSeparator (text ++ separator :: rest) =
      (text, (outside.scan isSeparator rest).1 :: (outside.scan isSeparator rest).2) := by
  rw [scan_append passed, scan_cons, ends]
  simp only [List.append_nil]

theorem scan_join {first : Text} {rest : List Text}
    (passed : ∀ piece ∈ first :: rest, outside.after? isComma piece = some outside) :
    outside.scan isComma (join "," (first :: rest)) = (first, rest) := by
  induction rest generalizing first with
  | nil =>
      rw [join_singleton]
      exact scan_of_after (passed first List.mem_cons_self)
  | cons second rest induction =>
      have later := induction fun piece member => passed piece (List.mem_cons_of_mem first member)
      rw [join_char_cons_cons rfl, scan_append_end (passed first List.mem_cons_self) rfl, later]

end ScanState

open ScanState

/-! ## Fields -/

section Fields

variable {isSeparator : Char → Bool} {text first : Text}

theorem fields_of_scan {others : List Text}
    (scanned : outside.scan isSeparator text = (first, others)) (filled : trim first ≠ []) :
    fields isSeparator text =
      trim first :: (others.map trim).filter fun piece => !piece.isEmpty := by
  have kept : (!(trim first).isEmpty) = true := by simpa using filled
  have read : scanFields isSeparator none 0 text = (first, others) := scanned
  simp only [fields, read, List.map_cons]
  exact List.filter_cons_of_pos kept

theorem fields_of_after {state : ScanState}
    (passed : outside.after? isSeparator text = some state) (filled : trim text ≠ []) :
    fields isSeparator text = [trim text] :=
  fields_of_scan (scan_of_after passed) filled

theorem fields_append (passed : outside.after? isSeparator text = some outside)
    {separator : Char} (ends : outside.next? isSeparator separator = none) (rest : Text) :
    fields isSeparator (text ++ separator :: rest) =
      [trim text].filter (fun piece => !piece.isEmpty) ++ fields isSeparator rest := by
  have read : scanFields isSeparator none 0 (text ++ separator :: rest) =
      (text, (outside.scan isSeparator rest).1 :: (outside.scan isSeparator rest).2) :=
    scan_append_end passed ends rest
  rw [fields, read]
  exact List.filter_append [trim text] _

theorem fields_append_end (passed : outside.after? isSeparator text = some outside)
    {separator : Char} (ends : outside.next? isSeparator separator = none)
    (filled : trim text ≠ []) (rest : Text) :
    fields isSeparator (text ++ separator :: rest) = trim text :: fields isSeparator rest := by
  have kept : [trim text].filter (fun piece => !piece.isEmpty) = [trim text] := by
    simp [filled]
  rw [fields_append passed ends, kept, List.singleton_append]

theorem fields_join {pieces : List Text}
    (passed : ∀ piece ∈ pieces, outside.after? isComma piece = some outside) :
    fields isComma (join "," pieces) = (pieces.map trim).filter fun piece => !piece.isEmpty := by
  cases pieces with
  | nil => rfl
  | cons first rest =>
      have read : scanFields isComma none 0 (join "," (first :: rest)) = (first, rest) :=
        scan_join passed
      rw [fields, read]

theorem mem_of_mem_scanFields {quote : Option Char} {depth : Int} {piece : Text}
    (isPiece : piece ∈ (scanFields isSeparator quote depth text).1 ::
      (scanFields isSeparator quote depth text).2) {c : Char} (member : c ∈ piece) : c ∈ text := by
  induction text generalizing quote depth piece with
  | nil => cases quote <;> simp_all [scanFields]
  | cons head rest induction =>
      rcases scanFields_step isSeparator quote depth head rest with
        ⟨nextQuote, nextDepth, scanned | ⟨_, scanned⟩⟩
      · rw [scanned] at isPiece
        rcases List.mem_cons.mp isPiece with rfl | later
        · rcases List.mem_cons.mp member with rfl | inside
          · exact List.mem_cons_self
          · exact List.mem_cons_of_mem head (induction List.mem_cons_self inside)
        · exact List.mem_cons_of_mem head (induction (List.mem_cons_of_mem _ later) member)
      · rw [scanned] at isPiece
        rcases List.mem_cons.mp isPiece with rfl | later
        · cases member
        · exact List.mem_cons_of_mem head (induction later member)

theorem mem_of_mem_fields {field : Text} (isField : field ∈ fields isSeparator text) {c : Char}
    (member : c ∈ field) : c ∈ text := by
  rcases List.mem_map.mp (List.mem_filter.mp isField).1 with ⟨piece, isPiece, rfl⟩
  exact mem_of_mem_scanFields isPiece (mem_of_mem_trimBy member)

end Fields

end SymbolScript.Construct
