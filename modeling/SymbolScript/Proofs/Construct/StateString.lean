import SymbolScript.Proofs.Construct.FieldScan
import SymbolScript.Proofs.Construct.LiteralTree
import SymbolScript.Proofs.Construct.StringLiteral
import SymbolScript.Proofs.Program.Part

/-!
Strings in state blocks. The string literals of a state block are written first, and then the
declarations are cut at commas outside quotes and brackets. A cut does not know the escapes of a
literal: a quote inside a string ends the quoted part for it, and commas behind it may cut. The
strings are kept exactly if the literals are read apart all the same, in particular if none holds a
double quote.
-/

namespace SymbolScript.Construct

open Program Text

/-- A name with a string as its value, on one line and without brackets of blocks. -/
structure StringEntry where
  name : Name
  value : Text
  oneLine : '\n' ∉ value
  plain : ∀ c ∈ value, isBlockBracket c = false

namespace StringEntry

def source (entry : StringEntry) : Text :=
  entry.name.text ++ ":文⟨".toList ++ entry.value ++ "⟩".toList

def declaration (entry : StringEntry) : Text :=
  entry.name.text ++ ':' :: stringLiteral entry.value

def shown (entry : StringEntry) : Text :=
  "  ".toList ++ entry.name.text ++ ": ".toList ++ stringLiteral entry.value

def stateSource (entries : List StringEntry) : Text :=
  "Σ⟨".toList ++ (join "," (entries.map source) ++ "⟩".toList)

def stateShown (entries : List StringEntry) : Text :=
  "const state = \x7b\n".toList ++ join ",\n" (entries.map shown) ++ "\n\x7d;".toList

/-- Where a scan for commas stands behind the literal of an entry that it has read from outside
quotes and brackets; none if a comma inside the literal ends a field. -/
def behind? (entry : StringEntry) : Option ScanState :=
  ScanState.outside.after? isComma (stringLiteral entry.value)

/-- Whether the literals are read apart: no comma in one of them ends a field, and the comma behind
one does. -/
def ReadApart : List StringEntry → Prop
  | [] => True
  | [last] => last.behind? ≠ none
  | entry :: next :: rest => entry.behind? = some .outside ∧ ReadApart (next :: rest)

variable (entry : StringEntry)

/-! ## Declarations -/

theorem behind?_declaration :
    ScanState.outside.after? isComma entry.declaration = entry.behind? := by
  rw [declaration, ScanState.after?_append, ScanState.after?_of_plain entry.name.isPlainField]
  rfl

theorem trim_name_append_ne_nil (rest : Text) : trim (entry.name.text ++ rest) ≠ [] := by
  intro empty
  rcases List.exists_mem_of_ne_nil _ entry.name.filled with ⟨c, member⟩
  have blank := trimBy_eq_nil_iff.mp empty c (List.mem_append_left rest member)
  rw [entry.name.not_blank c member] at blank
  cases blank

theorem trim_declaration : trim entry.declaration = entry.declaration := by
  apply trimBy_eq_self
  · intro c isHead
    rw [declaration, List.head?_append_of_ne_nil _ entry.name.filled] at isHead
    exact entry.name.not_blank c (List.mem_of_head? isHead)
  · intro c isLast
    rw [declaration, stringLiteral_eq, ← List.cons_append, ← List.cons_append, ← List.append_assoc,
      List.getLast?_append_of_ne_nil _ (List.cons_ne_nil _ _)] at isLast
    cases isLast
    decide

theorem stateEntry_of_name (value : Text) :
    stateEntry (entry.name.text ++ ':' :: value) = "  ".toList ++ entry.name.text ++ ": ".toList ++
      (if (trim value).isEmpty then "undefined".toList else trim value) := by
  simp only [stateEntry, cutAt_append entry.name.no_colon, Option.getD_some, entry.name.trim_text]

theorem trim_stringLiteral (content : Text) :
    trim (stringLiteral content) = stringLiteral content := by
  rw [stringLiteral_eq, ← List.cons_append]
  apply trimBy_eq_self
  · intro c isHead
    cases isHead
    decide
  · intro c isLast
    rw [List.getLast?_append_of_ne_nil _ (List.cons_ne_nil _ _)] at isLast
    cases isLast
    decide

theorem stateEntry_declaration : stateEntry entry.declaration = entry.shown := by
  rw [declaration, stateEntry_of_name, trim_stringLiteral]
  rfl

theorem trim_of_stateEntry {value : Text}
    (equal : stateEntry (entry.name.text ++ ':' :: value) = entry.shown) :
    trim value = stringLiteral entry.value := by
  rw [stateEntry_of_name, shown] at equal
  have written := List.append_cancel_left equal
  split at written
  · rw [stringLiteral_eq] at written
    cases written
  · exact written

/-! ## Cutting the declarations -/

theorem stateEntry_of_longer (more : Text) :
    stateEntry (entry.declaration ++ ',' :: more) ≠ entry.shown := by
  intro equal
  rw [declaration, List.append_assoc, List.cons_append] at equal
  have trimmed := entry.trim_of_stateEntry equal
  rcases exists_trimBy_parts isBlank (stringLiteral entry.value ++ ',' :: more) with
    ⟨front, back, parts, frontBlank, backBlank⟩
  rw [← trim, trimmed] at parts
  cases front with
  | nil =>
      have same : ',' :: more = back := List.append_cancel_left parts
      have comma := backBlank ',' (by rw [← same]; exact List.mem_cons_self)
      exact absurd comma (by decide)
  | cons c front =>
      rw [stringLiteral_eq] at parts
      rcases List.cons.inj parts with ⟨rfl, _⟩
      exact absurd (frontBlank '\x22' List.mem_cons_self) (by decide)

theorem stateEntry_of_shorter {before after : Text}
    (parts : stringLiteral entry.value = before ++ ',' :: after) :
    stateEntry (entry.name.text ++ ':' :: before) ≠ entry.shown := by
  intro equal
  have trimmed := entry.trim_of_stateEntry equal
  have short := (trimBy_isInfix isBlank before).length_le
  rw [← trim, trimmed, parts, List.length_append, List.length_cons] at short
  omega

theorem fields_of_end (ends : entry.behind? = none) (rest : Text) : ∃ piece pieces,
    fields isComma (entry.declaration ++ rest) = piece :: pieces ∧
      stateEntry piece ≠ entry.shown := by
  rcases ScanState.exists_end_of_after?_eq_none ends with
    ⟨before, separator, after, parts, passed, isEnd⟩
  have comma : separator = ',' := by simpa [isComma] using (ScanState.next?_eq_none isEnd).1
  rw [comma] at parts isEnd
  have read : ScanState.outside.after? isComma (entry.name.text ++ ':' :: before) =
      some .outside := by
    rw [ScanState.after?_append, ScanState.after?_of_plain entry.name.isPlainField]
    exact passed
  have whole : entry.declaration ++ rest =
      (entry.name.text ++ ':' :: before) ++ ',' :: (after ++ rest) := by
    rw [declaration, parts]
    simp
  have filled := entry.trim_name_append_ne_nil (':' :: before)
  rw [whole, fields_append_end read isEnd filled]
  refine ⟨_, _, rfl, ?_⟩
  rw [stateEntry_trim]
  exact entry.stateEntry_of_shorter parts

theorem fields_of_last {state : ScanState} (stands : entry.behind? = some state) :
    fields isComma entry.declaration = [entry.declaration] := by
  rw [← behind?_declaration] at stands
  rw [fields_of_after stands (entry.trim_name_append_ne_nil _), trim_declaration]

theorem fields_of_apart (stands : entry.behind? = some .outside) (rest : Text) :
    fields isComma (entry.declaration ++ ',' :: rest) =
      entry.declaration :: fields isComma rest := by
  rw [← behind?_declaration] at stands
  rw [fields_append_end stands rfl (entry.trim_name_append_ne_nil _), trim_declaration]

theorem fields_of_inside {state : ScanState} (stands : entry.behind? = some state)
    (inside : state ≠ .outside) (rest : Text) : ∃ piece pieces,
    fields isComma (entry.declaration ++ ',' :: rest) = piece :: pieces ∧
      stateEntry piece ≠ entry.shown := by
  rw [← behind?_declaration] at stands
  rcases ScanState.exists_next_of_ne_outside isComma inside ',' with ⟨next, step⟩
  have scanned := ScanState.scan_append stands (',' :: rest)
  rw [ScanState.scan_cons, step] at scanned
  have filled : trim (entry.declaration ++ ',' :: (next.scan isComma rest).1) ≠ [] := by
    rw [declaration, List.append_assoc]
    exact entry.trim_name_append_ne_nil _
  rw [fields_of_scan scanned filled]
  refine ⟨_, _, rfl, ?_⟩
  rw [stateEntry_trim]
  exact entry.stateEntry_of_longer _

theorem map_stateEntry_fields_iff (entries : List StringEntry) :
    (fields isComma (join "," (entries.map declaration))).map stateEntry = entries.map shown ↔
      ReadApart entries := by
  match entries with
  | [] => exact iff_of_true rfl trivial
  | [last] =>
      rw [List.map_singleton, join_singleton, ReadApart]
      cases stands : last.behind? with
      | none =>
          rcases last.fields_of_end stands [] with ⟨piece, pieces, read, other⟩
          rw [List.append_nil] at read
          simp [read, other]
      | some state => simp [last.fields_of_last stands, stateEntry_declaration]
  | entry :: next :: rest =>
      have joined : join "," ((entry :: next :: rest).map declaration) =
          entry.declaration ++ ',' :: join "," ((next :: rest).map declaration) :=
        join_char_cons_cons rfl _ _ _
      rw [joined, ReadApart]
      cases stands : entry.behind? with
      | none =>
          rcases entry.fields_of_end stands (',' :: join "," ((next :: rest).map declaration)) with
            ⟨piece, pieces, read, other⟩
          rw [read]
          simp [other]
      | some state =>
          by_cases inside : state = .outside
          · have later := map_stateEntry_fields_iff (next :: rest)
            rw [inside] at stands ⊢
            rw [entry.fields_of_apart stands, List.map_cons, entry.stateEntry_declaration,
              List.map_cons (f := shown), List.cons.injEq, later]
            simp
          · rcases entry.fields_of_inside stands inside (join "," ((next :: rest).map declaration))
              with ⟨piece, pieces, read, other⟩
            rw [read]
            simp [other, inside]

/-! ## State blocks -/

theorem rewriteLiterals_source_append {rest done : Text}
    (stop : ∀ c, rest.head? = some c → blockCloser? c = none)
    (rewritten : rewriteLiterals rest = .ok done) :
    rewriteLiterals (entry.source ++ rest) = .ok (entry.declaration ++ done) := by
  have named : ∀ c ∈ entry.name.text ++ [':'], isBlockBracket c = false := by
    intro c member
    rcases List.mem_append.mp member with inName | isColon
    · exact nameChars_no_bracket c (entry.name.chars c inName)
    · rw [List.mem_singleton.mp isColon]
      decide
  have replaced := LiteralNode.rewriteLiterals_renderAll_append
    [.text (entry.name.text ++ [':']) named,
      .block .string '文' (by decide) .angle [.text entry.value entry.plain]] stop rewritten
  simpa [LiteralNode.renderAll, LiteralNode.render, LiteralNode.evaluateAll, LiteralNode.evaluate,
    BlockBracket.opener, BlockBracket.closer, LiteralForm.write, source, declaration] using replaced

theorem rewriteLiterals_sources_append (entries : List StringEntry) {rest done : Text}
    (stop : ∀ c, rest.head? = some c → blockCloser? c = none)
    (rewritten : rewriteLiterals rest = .ok done) :
    rewriteLiterals (join "," (entries.map source) ++ rest) =
      .ok (join "," (entries.map declaration) ++ done) := by
  match entries with
  | [] => exact rewritten
  | [last] =>
      rw [List.map_singleton, List.map_singleton, join_singleton, join_singleton]
      exact last.rewriteLiterals_source_append stop rewritten
  | entry :: next :: others =>
      have later := rewriteLiterals_sources_append (next :: others) stop rewritten
      have comma : rewriteLiterals (",".toList ++
          (join "," ((next :: others).map source) ++ rest)) =
            .ok (",".toList ++ (join "," ((next :: others).map declaration) ++ done)) :=
        rewriteBlocks_append_of_plain (by decide) later
      have noOpener : ∀ c, (",".toList ++
          (join "," ((next :: others).map source) ++ rest)).head? = some c →
            blockCloser? c = none := by
        intro c isHead
        cases isHead
        rfl
      have replaced := entry.rewriteLiterals_source_append noOpener comma
      simpa only [List.map_cons, join_cons_cons, List.append_assoc] using replaced

theorem rewriteLiterals_stateSource (entries : List StringEntry) :
    rewriteLiterals (stateSource entries) =
      .ok ("Σ⟨".toList ++ (join "," (entries.map declaration) ++ "⟩".toList)) := by
  have closed : rewriteLiterals "⟩".toList = .ok "⟩".toList := by decide +kernel
  have stop : ∀ c, "⟩".toList.head? = some c → blockCloser? c = none := by
    intro c isHead
    cases isHead
    rfl
  exact rewriteBlocks_append_of_plain (by decide)
    (rewriteLiterals_sources_append entries stop closed)

theorem mem_declaration {c : Char} (member : c ∈ entry.declaration) :
    c ∈ nameChars ∨ c ∈ ":\"\\".toList ∨ c ∈ entry.value := by
  rw [declaration, stringLiteral_eq, List.mem_append, List.mem_cons, List.mem_cons, List.mem_append,
    List.mem_singleton] at member
  rcases member with inName | rfl | rfl | inContents | rfl
  · exact .inl (entry.name.chars c inName)
  · exact .inr (.inl (by decide))
  · exact .inr (.inl (by decide))
  · rcases mem_literalContents inContents with isBackslash | inValue
    · rw [isBackslash]
      exact .inr (.inl (by decide))
    · exact .inr (.inr inValue)
  · exact .inr (.inl (by decide))

theorem declaration_no_bracket : ∀ c ∈ entry.declaration, isBlockBracket c = false := by
  intro c member
  rcases entry.mem_declaration member with inName | isMark | inValue
  · exact nameChars_no_bracket c inName
  · exact (by decide : ∀ c ∈ ":\"\\".toList, isBlockBracket c = false) c isMark
  · exact entry.plain c inValue

theorem declaration_oneLine : '\n' ∉ entry.declaration := by
  intro member
  rcases entry.mem_declaration member with inName | isMark | inValue
  · exact absurd inName (by decide)
  · exact absurd isMark (by decide)
  · exact entry.oneLine inValue

theorem rewriteStates_declarations (entries : List StringEntry) :
    rewriteStates ("Σ⟨".toList ++ (join "," (entries.map declaration) ++ "⟩".toList)) =
      .ok (stateObject (join "," (entries.map declaration))) := by
  have plain : ∀ c ∈ join "," (entries.map declaration), isBlockBracket c = false := by
    intro c member
    rcases mem_join member with inSeparator | ⟨piece, isPiece, inside⟩
    · rw [List.mem_singleton.mp inSeparator]
      decide
    · rcases List.mem_map.mp isPiece with ⟨entry, _, rfl⟩
      exact entry.declaration_no_bracket c inside
  have nested : WellNested blockCloser? (join "," (entries.map declaration)) :=
    (wellNested_iff _).mpr (dueAfter?_of_no_bracket plain [])
  have unopened : ∀ c ∈ join "," (entries.map declaration), blockCloser? c = none :=
    fun c member => ((isBlockBracket_eq_false_iff c).mp (plain c member)).1
  have handled : stateHandlers 'Σ' = some stateObject := rfl
  have pair : blockCloser? '⟨' = some '⟩' := rfl
  have replaced := rewriteBlocks_of_block handled pair nested (rewriteFrom_of_unopened unopened 0)
    (rewriteFrom_nil 0)
  rwa [List.append_nil] at replaced

/-! ## The whole way -/

theorem joined_oneLine (entries : List StringEntry) :
    '\n' ∉ join "," (entries.map declaration) := by
  intro isBreak
  rcases mem_join isBreak with inSeparator | ⟨piece, isPiece, inside⟩
  · exact absurd inSeparator (by decide)
  · rcases List.mem_map.mp isPiece with ⟨entry, _, rfl⟩
    exact entry.declaration_oneLine inside

theorem stateObject_eq_iff (entries : List StringEntry) :
    stateObject (join "," (entries.map declaration)) = stateShown entries ↔ ReadApart entries := by
  have lines : ∀ line ∈ entries.map shown, line ≠ [] ∧ '\n' ∉ line := by
    refine List.forall_mem_map.mpr fun entry _ => ?_
    rw [← stateEntry_declaration]
    refine ⟨stateEntry_ne_nil entry.declaration, fun isBreak => ?_⟩
    exact entry.declaration_oneLine (mem_of_mem_stateEntry (by decide) isBreak)
  exact (stateObject_eq_iff_entries (joined_oneLine entries) lines).trans
    (map_stateEntry_fields_iff entries)

theorem behind?_of_no_quote (noQuote : '\x22' ∉ entry.value) :
    entry.behind? = some .outside := by
  rw [behind?, stringLiteral, replaceChar_of_not_mem _ noQuote, List.cons_append]
  exact ScanState.after?_quoted noQuote

theorem readApart_of_no_quote {entries : List StringEntry}
    (noQuote : ∀ entry ∈ entries, '\x22' ∉ entry.value) : ReadApart entries := by
  match entries with
  | [] => trivial
  | [last] =>
      rw [ReadApart, last.behind?_of_no_quote (noQuote last List.mem_cons_self)]
      exact Option.some_ne_none _
  | entry :: next :: rest =>
      exact ⟨entry.behind?_of_no_quote (noQuote entry List.mem_cons_self),
        readApart_of_no_quote fun other member => noQuote other (List.mem_cons_of_mem _ member)⟩

/-- A state block of strings is always rewritten. Every string is kept as the value of its name, and
there are no other entries, exactly if the literals are read apart, as they are if no string holds
a double quote. -/
theorem rewriteStates_strings (entries : List StringEntry) :
    ∃ written, (rewriteLiterals (stateSource entries)).bind rewriteStates = .ok written ∧
      (written = stateShown entries ↔ ReadApart entries) ∧
      ((∀ entry ∈ entries, '\x22' ∉ entry.value) → written = stateShown entries) := by
  refine ⟨stateObject (join "," (entries.map declaration)), ?_, stateObject_eq_iff entries, ?_⟩
  · rw [rewriteLiterals_stateSource]
    exact rewriteStates_declarations entries
  · exact fun noQuote => (stateObject_eq_iff entries).mpr (readApart_of_no_quote noQuote)

def withQuote : StringEntry where
  name := ⟨"k".toList, by decide, by decide⟩
  value := "a\",b".toList
  oneLine := by decide
  plain := by decide

/-- The string is cut in two at its comma, and there is an entry for each half. -/
theorem rewriteStates_strings_cut :
    (rewriteLiterals (stateSource [withQuote])).bind rewriteStates =
        .ok "const state = \x7b\n  k: \"a\\\",\n  b\": undefined\n\x7d;".toList ∧
      stateShown [withQuote] = "const state = \x7b\n  k: \"a\\\",b\"\n\x7d;".toList ∧
      ¬ReadApart [withQuote] := by
  refine ⟨by decide +kernel, by decide +kernel, ?_⟩
  rw [ReadApart]
  decide

end StringEntry

end SymbolScript.Construct
