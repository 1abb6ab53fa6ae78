import SymbolScript.Proofs.Construct.Mark
import SymbolScript.Proofs.Construct.SelfContained
import SymbolScript.Proofs.Text.Casing

/-!
Style blocks keep every declaration, in order. A value may hold colons, and separators inside its
brackets: the declaration is cut at its first colon, and the block at the separators between
declarations. What is written for a styled text is not rewritten a second time.
-/

namespace SymbolScript.Construct

open Text

/-! ## Entries -/

/-- What stands for a text in a glossary: the word of a text that is one of its symbols, and any
other text itself. -/
inductive IsSpelling (glossary : Glossary) : Text → Text → Prop
  | word {c : Char} {word : String} (member : (c, word) ∈ glossary) :
      IsSpelling glossary [c] word.toList
  | other {text : Text} (absent : ∀ entry ∈ glossary, text ≠ [entry.1]) :
      IsSpelling glossary text text

/-- The parts of a name between its hyphens, put together with all but the first capitalised. -/
inductive IsCamelCase : Text → Text → Prop
  | joined {head : Text} {parts : List Text} (noHyphen : ∀ part ∈ head :: parts, '-' ∉ part) :
      IsCamelCase (join "-" (head :: parts)) (head ++ parts.flatMap capitalize)

theorem isSpelling_spellOut (glossary : Glossary) (text : Text) :
    IsSpelling glossary text (spellOut glossary text) := by
  unfold spellOut
  split
  · next c =>
    cases found : glossary.find? (·.1 == c) with
    | some entry =>
        rcases entry with ⟨symbol, word⟩
        have same : symbol = c := by simpa using List.find?_some found
        have spelled : glossary.word? c = some word := by rw [Glossary.word?, found, Option.map_some]
        rw [spelled, ← same]
        exact .word (List.mem_of_find?_eq_some found)
    | none =>
        have unknown : glossary.word? c = none := by rw [Glossary.word?, found, Option.map_none]
        rw [unknown]
        refine .other fun entry member equal => ?_
        have different := List.find?_eq_none.mp found entry member
        exact different (by simpa using (List.cons.inj equal).1.symm)
  · next several =>
    exact .other fun entry _ equal => several entry.1 equal

theorem isCamelCase_camelCase (name : Text) : IsCamelCase name (camelCase name) := by
  unfold camelCase
  split
  · next empty => exact absurd empty (splitOn_ne_nil '-' name)
  · next head parts split =>
    have whole : join "-" (splitOn '-' name) = name := join_splitOn rfl name
    rw [split] at whole
    have noHyphen : ∀ part ∈ head :: parts, '-' ∉ part :=
      fun part member => not_mem_of_mem_splitOn (split ▸ member)
    simpa only [whole] using IsCamelCase.joined noHyphen

theorem IsSpelling.not_mem {glossary : Glossary} {text shown : Text}
    (spelling : IsSpelling glossary text shown) {mark : Char}
    (foreign : ∀ entry ∈ glossary, mark ∉ entry.2.toList) (absent : mark ∉ text) :
    mark ∉ shown := by
  cases spelling with
  | word member => exact foreign _ member
  | other _ => exact absent

theorem IsCamelCase.not_mem {name shown : Text} (camel : IsCamelCase name shown) {mark : Char}
    (caseless : IsCaseless mark) (absent : mark ∉ name) : mark ∉ shown := by
  cases camel with
  | @joined head parts _ =>
      have absentIn : ∀ part ∈ head :: parts, mark ∉ part :=
        fun part member inside => absent (mem_join_of_mem "-" member inside)
      rw [List.mem_append, List.mem_flatMap, not_or]
      refine ⟨absentIn head List.mem_cons_self, ?_⟩
      rintro ⟨part, member, inside⟩
      exact caseless.not_mem_capitalize (absentIn part (List.mem_cons_of_mem head member)) inside

/-! ## Declarations -/

/-- A name that stands alone in a declaration: nothing in it ends it or opens anything. -/
structure IsStyleName (name : Text) : Prop where
  filled : name ≠ []
  trimmed : trim name = name
  plain : IsPlainField isSemicolonOrComma name
  noColon : ':' ∉ name
  unmarked : ∀ c ∈ name, c ∉ ['Φ', '樣']

/-- A value that is one field of a block: it holds no quotes and no braces, and separators only
inside its brackets. -/
structure IsStyleValue (value : Text) : Prop where
  filled : value ≠ []
  trimmed : trim value = value
  noQuote : ∀ c ∈ value, isQuote c = false
  noBrace : ∀ c ∈ value, c ∉ ['\x7b', '\x7d']
  nests : NestsFrom isSemicolonOrComma 0 value
  unmarked : ∀ c ∈ value, c ∉ ['Φ', '樣']

structure StyleDeclaration where
  name : Text
  value : Text
  named : IsStyleName name
  valued : IsStyleValue value

namespace StyleDeclaration

def text (declaration : StyleDeclaration) : Text :=
  declaration.name ++ ':' :: declaration.value

/-- Whether a text is the entry of a declaration in the style object: the property, written without
hyphens, and its value in quotes. -/
def HasEntry (declaration : StyleDeclaration) (entry : Text) : Prop :=
  ∃ property shownProperty shownValue,
    IsSpelling Glossary.styleProperties declaration.name property ∧
    IsCamelCase property shownProperty ∧
    IsSpelling Glossary.styleValues declaration.value shownValue ∧
    entry = shownProperty ++ ": '".toList ++ shownValue ++ "'".toList

def entry (declaration : StyleDeclaration) : Text :=
  camelCase (spellOut Glossary.styleProperties declaration.name) ++ ": '".toList ++
    spellOut Glossary.styleValues declaration.value ++ "'".toList

variable (declaration : StyleDeclaration)

theorem hasEntry_entry : declaration.HasEntry declaration.entry :=
  ⟨_, _, _, isSpelling_spellOut _ _, isCamelCase_camelCase _, isSpelling_spellOut _ _, rfl⟩

theorem HasEntry.not_mem_brace {declaration : StyleDeclaration} {entry : Text}
    (has : declaration.HasEntry entry) : '\x7b' ∉ entry := by
  rcases has with ⟨property, shownProperty, shownValue, spelled, camel, valueSpelled, rfl⟩
  have noBrace : '\x7b' ∉ declaration.name := fun member =>
    absurd (declaration.named.plain _ member).2.1 (by decide)
  have noBraceInValue : '\x7b' ∉ declaration.value := fun member =>
    declaration.valued.noBrace _ member (by decide)
  have inProperty := camel.not_mem isCaseless_brace
    (spelled.not_mem (by decide +kernel) noBrace)
  have inValue := valueSpelled.not_mem (by decide +kernel) noBraceInValue
  simp only [List.mem_append, not_or]
  exact ⟨⟨⟨inProperty, by decide⟩, inValue⟩, by decide⟩

theorem after?_text :
    ScanState.outside.after? isSemicolonOrComma declaration.text = some .outside := by
  have contained := IsSelfContained.of_nestsFrom declaration.valued.noQuote declaration.valued.nests
  rw [text, ScanState.after?_append, ScanState.after?_of_plain declaration.named.plain]
  exact contained.after?

theorem trim_text : trim declaration.text = declaration.text := by
  apply trimBy_eq_self
  · intro c first
    rw [text, List.head?_append_of_ne_nil _ declaration.named.filled,
      ← declaration.named.trimmed] at first
    exact head?_trimBy first
  · intro c last
    rw [text, List.getLast?_append_of_ne_nil _ (List.cons_ne_nil ':' _), List.getLast?_cons,
      ← declaration.valued.trimmed] at last
    cases shown : (trim declaration.value).getLast? with
    | none =>
        have empty := List.getLast?_eq_none_iff.mp shown
        exact absurd (declaration.valued.trimmed.symm.trans empty) declaration.valued.filled
    | some d =>
        rw [shown] at last
        cases last
        exact getLast?_trimBy shown

theorem text_ne_nil : declaration.text ≠ [] :=
  List.append_ne_nil_of_left_ne_nil declaration.named.filled _

theorem entry_of_text : styleEntry? declaration.text = some declaration.entry := by
  have unquoted : ∀ {part : Text}, (∀ c ∈ part, isQuote c = false) →
      trimBy isStringQuote part = part := by
    intro part noQuote
    have noStringQuote : ∀ c ∈ part, isStringQuote c = false := by
      intro c member
      have plain := noQuote c member
      simp only [isQuote, Bool.or_eq_false_iff] at plain
      exact Bool.or_eq_false_iff.mpr plain.1
    exact trimBy_eq_self (fun c first => noStringQuote c (List.mem_of_head? first))
      fun c last => noStringQuote c (List.mem_of_getLast? last)
  have name := unquoted fun c member => (declaration.named.plain c member).1
  have value := unquoted declaration.valued.noQuote
  unfold styleEntry?
  simp only [text, cutAt_append declaration.named.noColon,
    declaration.named.trimmed, declaration.valued.trimmed, name, value, entry]

theorem unmarked_text : ∀ c ∈ declaration.text, c ∉ ['Φ', '樣'] :=
  List.forall_mem_append.mpr ⟨declaration.named.unmarked,
    List.forall_mem_cons.mpr ⟨by decide, declaration.valued.unmarked⟩⟩

theorem braceless_text : ∀ c ∈ declaration.text, c ∉ ['\x7b', '\x7d'] := by
  refine List.forall_mem_append.mpr ⟨fun c member isBrace => ?_,
    List.forall_mem_cons.mpr ⟨by decide, declaration.valued.noBrace⟩⟩
  have plain := declaration.named.plain c member
  simp only [List.mem_cons, List.not_mem_nil, or_false] at isBrace
  rcases isBrace with rfl | rfl
  · exact absurd plain.2.1 (by decide)
  · exact absurd plain.2.2.1 (by decide)

end StyleDeclaration

/-! ## Style blocks -/

inductive StyleSeparator
  | semicolon
  | comma
deriving DecidableEq, Repr

def StyleSeparator.mark : StyleSeparator → Char
  | semicolon => ';'
  | comma => ','

/-- Declarations as they are written in a style block, with a separator behind each but the last. -/
inductive StyleList
  | last (declaration : StyleDeclaration)
  | cons (declaration : StyleDeclaration) (separator : StyleSeparator) (rest : StyleList)

namespace StyleList

def declarations : StyleList → List StyleDeclaration
  | last declaration => [declaration]
  | cons declaration _ rest => declaration :: rest.declarations

def text : StyleList → Text
  | last declaration => declaration.text
  | cons declaration separator rest => declaration.text ++ separator.mark :: rest.text

def block (mark : Char) (list : StyleList) : Text :=
  mark :: '\x7b' :: (list.text ++ ['\x7d'])

def object (entries : List Text) : Text :=
  '\x7b' :: (join ", " entries ++ ['\x7d'])

theorem fields_text (list : StyleList) :
    fields isSemicolonOrComma list.text = list.declarations.map StyleDeclaration.text := by
  have filled : ∀ declaration : StyleDeclaration, trim declaration.text ≠ [] := by
    intro declaration
    rw [declaration.trim_text]
    exact declaration.text_ne_nil
  induction list with
  | last declaration =>
      rw [text, fields_of_after declaration.after?_text (filled declaration), declaration.trim_text]
      rfl
  | cons declaration separator rest induction =>
      have ends : ScanState.outside.next? isSemicolonOrComma separator.mark = none := by
        cases separator <;> rfl
      rw [text, fields_append_end declaration.after?_text ends (filled declaration), induction,
        declaration.trim_text, declarations, List.map_cons]

theorem styleObject_text (list : StyleList) :
    styleObject list.text = object (list.declarations.map StyleDeclaration.entry) := by
  have entries : (list.declarations.map StyleDeclaration.text).filterMap styleEntry? =
      list.declarations.map StyleDeclaration.entry := by
    rw [List.filterMap_map, ← List.filterMap_eq_map]
    exact List.filterMap_congr fun declaration _ => declaration.entry_of_text
  rw [styleObject, list.fields_text, entries, object, List.cons_append]

theorem styledElement_text (list : StyleList) (content : Text) :
    styledElement (list.text, content) = "<div style=\x7b".toList ++
      object (list.declarations.map StyleDeclaration.entry) ++ "\x7d>".toList ++ trim content ++
        "</div>".toList := by
  rw [← list.styleObject_text]
  rfl

theorem forall_mem_text {P : Char → Prop} (separators : P ';' ∧ P ',') {list : StyleList}
    (each : ∀ declaration ∈ list.declarations, ∀ c ∈ declaration.text, P c) :
    ∀ c ∈ list.text, P c := by
  induction list with
  | last declaration => exact each declaration List.mem_cons_self
  | cons declaration separator rest induction =>
      have between : P separator.mark := by
        cases separator
        · exact separators.1
        · exact separators.2
      exact List.forall_mem_append.mpr ⟨each declaration List.mem_cons_self,
        List.forall_mem_cons.mpr ⟨between, induction fun other member =>
          each other (List.mem_cons_of_mem declaration member)⟩⟩

theorem takeStyle?_block {mark : Char} (marked : mark ∈ ['Φ', '樣']) (list : StyleList)
    (rest : Text) : takeStyle? (block mark list ++ rest) = some (list.text, rest) := by
  have braceless : ∀ c ∈ list.text, c ∉ ['\x7b', '\x7d'] :=
    forall_mem_text (by decide) fun declaration _ => declaration.braceless_text
  have run : takeRun (fun c => c != '\x7b' && c != '\x7d') (list.text ++ '\x7d' :: rest) =
      (list.text, '\x7d' :: rest) := by
    apply takeRun_append
    · intro c member
      simpa using braceless c member
    · rintro _ ⟨⟩
      rfl
  have whole : block mark list ++ rest = mark :: '\x7b' :: (list.text ++ '\x7d' :: rest) := by
    simp [block]
  rw [whole, takeStyle?, if_pos (by simpa using marked)]
  simp only [run]

theorem replace_styledTexts_block {mark : Char} (marked : mark ∈ ['Φ', '樣']) (list : StyleList) :
    styledTexts.replace styledElement (block mark list) = block mark list := by
  apply styledTexts.replace_eq_self
  intro left c right parts
  cases left with
  | nil =>
      have taken := takeStyle?_block marked list []
      rw [List.append_nil, parts] at taken
      change takeStyledText? (c :: right) = none
      rw [takeStyledText?, ← List.nil_append (c :: right), taken]
      rfl
  | cons first left =>
      have unmarked : ∀ d ∈ '\x7b' :: (list.text ++ ['\x7d']), d ∉ ['Φ', '樣'] := by
        refine List.forall_mem_cons.mpr ⟨by decide, List.forall_mem_append.mpr ⟨?_, by decide⟩⟩
        exact forall_mem_text (by decide) fun declaration _ => declaration.unmarked_text
      refine styledTexts_startsWith c right (unmarked c ?_)
      rw [(List.cons.inj parts).2]
      exact List.mem_append_right left List.mem_cons_self

theorem takeStyledText?_block {mark : Char} (marked : mark ∈ ['Φ', '樣']) (list : StyleList)
    {blanks : Text} (blank : ∀ c ∈ blanks, isBlank c = true) {content : Text}
    (noCloser : '⟧' ∉ content) :
    takeStyledText? (block mark list ++ (blanks ++ '⟦' :: (content ++ ['⟧']))) =
      some ((list.text, content), []) := by
  have opened : (blanks ++ '⟦' :: (content ++ ['⟧'])).dropWhile isBlank =
      '⟦' :: (content ++ ['⟧']) := by
    rw [List.dropWhile_append_of_pos blank, List.dropWhile_cons_of_neg (by decide)]
  have run : takeRun (· != '⟧') (content ++ ['⟧']) = (content, ['⟧']) := by
    apply takeRun_append
    · intro c member
      simpa using ne_of_mem_of_not_mem member noCloser
    · rintro _ ⟨⟩
      rfl
  rw [takeStyledText?, takeStyle?_block marked]
  simp only [opened, run]

end StyleList

/-! ## Elements -/

theorem replace_styles_append {before : Text} (noBrace : '\x7b' ∉ before)
    (last : ∀ c ∈ before.getLast?, c ∉ ['Φ', '樣']) (write : Text → Text) (after : Text) :
    styles.replace write (before ++ after) = before ++ styles.replace write after := by
  apply styles.replace_append_of_plain
  rintro left c right rfl
  cases right with
  | nil => exact styles_startsWith c after (last c (by simp))
  | cons d right =>
      have different : d ≠ '\x7b' := fun equal => noBrace (by simp [equal])
      change takeStyle? (c :: d :: (right ++ after)) = none
      unfold takeStyle?
      split
      · next equal =>
        cases equal
        exact absurd rfl different
      · rfl

theorem replace_styles_element {entries : List Text} (noBrace : ∀ entry ∈ entries, '\x7b' ∉ entry)
    {content : Text} (unmarked : ∀ c ∈ content, c ∉ ['Φ', '樣']) (write : Text → Text) :
    styles.replace write ("<div style=\x7b".toList ++ StyleList.object entries ++ "\x7d>".toList ++
        trim content ++ "</div>".toList) =
      "<div style=\x7b".toList ++ StyleList.object entries ++ "\x7d>".toList ++ trim content ++
        "</div>".toList := by
  have parts : "<div style=\x7b".toList ++ StyleList.object entries ++ "\x7d>".toList ++
      trim content ++ "</div>".toList = "<div style=\x7b\x7b".toList ++
        ((join ", " entries ++ "\x7d\x7d>".toList) ++ (trim content ++ "</div>".toList)) := by
    simp [StyleList.object]
  have inEntries : '\x7b' ∉ join ", " entries ++ "\x7d\x7d>".toList := by
    rw [List.mem_append, not_or]
    refine ⟨fun member => ?_, by decide⟩
    rcases mem_join member with inSeparator | ⟨entry, isEntry, inside⟩
    · exact absurd inSeparator (by decide)
    · exact noBrace entry isEntry inside
  have ending : ∀ c ∈ (join ", " entries ++ "\x7d\x7d>".toList).getLast?, c ∉ ['Φ', '樣'] := by
    rw [List.getLast?_append_of_ne_nil _ (by decide)]
    intro c last
    cases last
    decide
  have behind : ∀ c ∈ trim content ++ "</div>".toList, c ∉ ['Φ', '樣'] :=
    List.forall_mem_append.mpr ⟨fun c member => unmarked c (mem_of_mem_trimBy member), by decide⟩
  rw [parts, styles_startsWith.replace_append (by decide), replace_styles_append inEntries ending,
    styles_startsWith.replace_eq_self behind]

open StyleList

/-- A style block becomes the style object with one entry for each declaration, in order; in front
of a text in double square brackets it becomes an element with that style. -/
theorem rewriteStyles_in_order {mark : Char} (marked : mark ∈ ['Φ', '樣']) (list : StyleList) :
    ∃ entries, List.Forall₂ StyleDeclaration.HasEntry list.declarations entries ∧
      rewriteStyles (block mark list) = object entries ∧
      ∀ blanks content : Text, (∀ c ∈ blanks, isBlank c = true) →
        (∀ c ∈ content, c ∉ ['⟧', 'Φ', '樣']) →
        rewriteStyles (block mark list ++ (blanks ++ '⟦' :: (content ++ ['⟧']))) =
          "<div style=\x7b".toList ++ object entries ++ "\x7d>".toList ++ trim content ++
            "</div>".toList := by
  have has : List.Forall₂ StyleDeclaration.HasEntry list.declarations
      (list.declarations.map StyleDeclaration.entry) := by
    rw [List.forall₂_map_right_iff]
    exact List.forall₂_same.mpr fun declaration _ => declaration.hasEntry_entry
  refine ⟨_, has, ?_, ?_⟩
  · have taken : styles.take (block mark list) = some (list.text, []) := by
      have front := takeStyle?_block marked list []
      rwa [List.append_nil] at front
    rw [rewriteStyles, replace_styledTexts_block marked, styles.replace_of_found _ taken,
      styles.replace_nil, List.append_nil, list.styleObject_text]
  · intro blanks content blank free
    have noCloser : '⟧' ∉ content := fun member => free '⟧' member (by decide)
    have unmarked : ∀ c ∈ content, c ∉ ['Φ', '樣'] :=
      fun c member marks => free c member (List.mem_cons_of_mem '⟧' marks)
    have taken : styledTexts.take _ = _ := takeStyledText?_block marked list blank noCloser
    have element := styledTexts.replace_of_found styledElement taken
    rw [styledTexts.replace_nil, List.append_nil, list.styledElement_text] at element
    have noBrace : ∀ entry ∈ list.declarations.map StyleDeclaration.entry, '\x7b' ∉ entry :=
      List.forall_mem_map.mpr fun declaration _ => declaration.hasEntry_entry.not_mem_brace
    exact (congrArg (styles.replace styleObject) element).trans
      (replace_styles_element noBrace unmarked styleObject)

/-- A property with a hyphen, and a value with all separators inside its brackets. -/
def image : StyleDeclaration where
  name := "mask-image".toList
  value := "url(a:b;[c,d])".toList
  named := ⟨by decide, by decide, by decide, by decide, by decide⟩
  valued := ⟨by decide, by decide, by decide, by decide, by decide, by decide⟩

def centered : StyleDeclaration where
  name := "χ".toList
  value := "◐".toList
  named := ⟨by decide, by decide, by decide, by decide, by decide⟩
  valued := ⟨by decide, by decide, by decide, by decide, by decide, by decide⟩

def styling : StyleList :=
  .cons image .comma (.last centered)

theorem rewriteStyles_in_order_image :
    'Φ' ∈ ['Φ', '樣'] ∧ (∀ c ∈ "\n ".toList, isBlank c = true) ∧
      (∀ c ∈ " a \x7b⟦".toList, c ∉ ['⟧', 'Φ', '樣']) ∧
      ∃ entries, List.Forall₂ StyleDeclaration.HasEntry [image, centered] entries ∧
        rewriteStyles "Φ\x7bmask-image:url(a:b;[c,d]),χ:◐\x7d".toList = object entries ∧
        rewriteStyles "Φ\x7bmask-image:url(a:b;[c,d]),χ:◐\x7d\n ⟦ a \x7b⟦⟧".toList =
          "<div style=\x7b".toList ++ object entries ++ "\x7d>".toList ++ trim " a \x7b⟦".toList ++
            "</div>".toList := by
  have blank : ∀ c ∈ "\n ".toList, isBlank c = true := by decide
  have free : ∀ c ∈ " a \x7b⟦".toList, c ∉ ['⟧', 'Φ', '樣'] := by decide
  have read : block 'Φ' styling = "Φ\x7bmask-image:url(a:b;[c,d]),χ:◐\x7d".toList := by decide
  have readStyled : "Φ\x7bmask-image:url(a:b;[c,d]),χ:◐\x7d\n ⟦ a \x7b⟦⟧".toList =
      block 'Φ' styling ++ ("\n ".toList ++ '⟦' :: (" a \x7b⟦".toList ++ ['⟧'])) := by decide
  rcases rewriteStyles_in_order (by decide : 'Φ' ∈ ['Φ', '樣']) styling with
    ⟨entries, each, written, element⟩
  rw [readStyled, ← read]
  exact ⟨by decide, blank, free, entries, each, written, element _ _ blank free⟩

end SymbolScript.Construct
