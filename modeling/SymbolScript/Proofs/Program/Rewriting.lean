import SymbolScript.Proofs.Construct.Component
import SymbolScript.Proofs.Construct.Function
import SymbolScript.Proofs.Program.Stage

/-!
Each item is rewritten by its own pass, whatever the lines after it are. Its source holds the marks
of no other pass, and its JavaScript none at all.
-/

namespace SymbolScript.Program

open Construct Text

/-! ## Characters of items -/

def Uses (others : List Char) (text : Text) : Prop :=
  ∀ c ∈ text, c.toNat < 128 ∨ c ∈ others

instance (others : List Char) (text : Text) : Decidable (Uses others text) :=
  inferInstanceAs (Decidable (∀ c ∈ text, c.toNat < 128 ∨ c ∈ others))

theorem uses_of_ascii {text : Text} (ascii : IsAscii text) (others : List Char) :
    Uses others text :=
  fun c member => .inl (ascii c member)

theorem uses_append {others : List Char} {left right : Text} (leftUses : Uses others left)
    (rightUses : Uses others right) : Uses others (left ++ right) := by
  intro c member
  rcases List.mem_append.mp member with inLeft | inRight
  · exact leftUses c inLeft
  · exact rightUses c inRight

theorem uses_cons {others : List Char} {c : Char} {rest : Text} (known : c ∈ others)
    (restUses : Uses others rest) : Uses others (c :: rest) := by
  intro d member
  rcases List.mem_cons.mp member with rfl | inRest
  · exact .inr known
  · exact restUses d inRest

theorem Uses.mono {others : List Char} {text : Text} (uses : Uses others text)
    (more : List Char) : Uses (others ++ more) text :=
  fun c member => (uses c member).imp_right (List.mem_append_left more)

def sharedSigns : List Char := ['⟨', '⟩', '→', '⊘']

def Item.marks (item : Item) : List Char :=
  match item.stage? with
  | none => []
  | some stage => stage.marks

theorem blockSource_uses {tag : Char} {tags : List Char} (tagged : tag ∈ tags) (name : Name)
    (parameters : List Name) (body : Line) :
    Uses (sharedSigns ++ tags) (blockSource tag name parameters body) := by
  have known : tag ∈ sharedSigns ++ tags := List.mem_append_right sharedSigns tagged
  have opening : Uses sharedSigns "⟨".toList := by decide
  have closing : Uses sharedSigns "⟩".toList := by decide
  have ending : Uses sharedSigns "⟨/".toList := by decide
  apply uses_append
  · apply uses_append
    · apply uses_append
      · apply uses_append
        · exact uses_append (uses_cons known (opening.mono tags))
            (uses_of_ascii (nameList_ascii _) _)
        · exact closing.mono tags
      · exact uses_of_ascii body.ascii _
    · exact ending.mono tags
  · exact uses_cons known (closing.mono tags)

theorem Item.source_uses (item : Item) : Uses (sharedSigns ++ item.marks) item.source := by
  have opening : Uses sharedSigns "⟨".toList := by decide
  have closing : Uses sharedSigns "⟩".toList := by decide
  cases item with
  | text line => exact uses_of_ascii line.ascii _
  | imports source names filled =>
      have known : source.mark ∈ sharedSigns ++ (Item.imports source names filled).marks := by
        apply List.mem_append_right
        cases source <;> exact List.mem_singleton.mpr rfl
      exact uses_append (uses_append (uses_cons known (opening.mono _))
        (uses_of_ascii (nameList_ascii names) _)) (closing.mono _)
  | state mark marked entries filled =>
      have declarations : IsAscii (join "," (entries.map Entry.declaration)) := by
        apply IsAscii.join (by decide)
        exact List.forall_mem_map.mpr fun entry _ => entry.declaration_ascii
      exact uses_append (uses_append (uses_cons (List.mem_append_right sharedSigns marked)
        (opening.mono _)) (uses_of_ascii declarations _)) (closing.mono _)
  | function tag tagged name parameters body => exact blockSource_uses tagged name parameters body
  | component tag tagged name parameters body => exact blockSource_uses tagged name parameters body
  | conditional condition branch other =>
      have known : '∇' ∈ sharedSigns ++ ['∇'] := by decide
      have arrow : Uses sharedSigns ") → ".toList := by decide
      have mark : Uses sharedSigns " ⊘ ".toList := by decide
      have start : Uses (sharedSigns ++ ['∇']) "∇(".toList := by decide
      apply uses_append
      · exact uses_append (uses_append (uses_append start (uses_of_ascii condition.ascii _))
          (arrow.mono _)) (uses_of_ascii branch.ascii _)
      · cases other with
        | none => exact uses_of_ascii isAscii_nil _
        | some line => exact uses_append (mark.mono _) (uses_of_ascii line.ascii _)

theorem shownNames_ascii (names : List Name) : IsAscii (shownNames names) := by
  apply IsAscii.join (by decide)
  exact List.forall_mem_map.mpr fun name _ => name.ascii

theorem Entry.shown_ascii (entry : Entry) : IsAscii entry.shown := by
  have indent : IsAscii "  ".toList := by decide
  have colon : IsAscii ": ".toList := by decide
  exact ((indent.append entry.name.ascii).append colon).append entry.value.ascii

theorem Item.rendering_ascii (item : Item) : IsAscii item.rendering := by
  have brace : IsAscii "\n\x7d".toList := by decide
  have function : IsAscii "function ".toList := by decide
  have parenthesis : IsAscii "(".toList := by decide
  cases item with
  | text line => exact line.ascii
  | imports source names filled =>
      have head : IsAscii "import \x7b ".toList := by decide
      have middle : IsAscii " \x7d from \"".toList := by decide
      have module : IsAscii source.module.toList := by cases source <;> decide
      have tail : IsAscii "\";".toList := by decide
      exact (((head.append (shownNames_ascii names)).append middle).append module).append tail
  | state mark marked entries filled =>
      have head : IsAscii "const state = \x7b\n".toList := by decide
      have tail : IsAscii "\n\x7d;".toList := by decide
      have shown : IsAscii (join ",\n" (entries.map Entry.shown)) := by
        apply IsAscii.join (by decide)
        exact List.forall_mem_map.mpr fun entry _ => entry.shown_ascii
      exact (head.append shown).append tail
  | function tag tagged name parameters body =>
      have opening : IsAscii ") \x7b\n  ".toList := by decide
      exact (((((function.append name.ascii).append parenthesis).append
        (shownNames_ascii parameters)).append opening).append body.ascii).append brace
  | component tag tagged name parameters body =>
      have signature : IsAscii (if parameters = [] then [] else
          "\x7b ".toList ++ shownNames parameters ++ " \x7d".toList) := by
        have left : IsAscii "\x7b ".toList := by decide
        have right : IsAscii " \x7d".toList := by decide
        split
        · exact isAscii_nil
        · exact (left.append (shownNames_ascii parameters)).append right
      have opening : IsAscii ") \x7b\n  return (\n    ".toList := by decide
      have closing : IsAscii "\n  );\n\x7d".toList := by decide
      exact (((((function.append name.ascii).append parenthesis).append signature).append
        opening).append body.ascii).append closing
  | conditional condition branch other =>
      have head : IsAscii "if (".toList := by decide
      have opening : IsAscii ") \x7b\n  ".toList := by decide
      have first :=
        (((head.append condition.ascii).append opening).append branch.ascii).append brace
      cases other with
      | none => exact first.append isAscii_nil
      | some line =>
          have second : IsAscii " else \x7b\n  ".toList := by decide
          exact first.append ((second.append line.ascii).append brace)

/-! ## Shapes of sources -/

theorem source_imports (source : ImportSource) (names : List Name) (filled : names ≠ [])
    (rest : Text) : (Item.imports source names filled).source ++ rest =
      source.mark :: '⟨' :: (nameList names ++ '⟩' :: rest) := by
  change source.mark :: "⟨".toList ++ nameList names ++ "⟩".toList ++ rest = _
  rw [List.append_assoc, List.append_assoc]
  rfl

theorem source_state (mark : Char) (marked : mark ∈ stateMarks) (entries : List Entry)
    (filled : entries ≠ []) (rest : Text) : (Item.state mark marked entries filled).source ++ rest =
      mark :: '⟨' :: (join "," (entries.map Entry.declaration) ++ '⟩' :: rest) := by
  change mark :: "⟨".toList ++ join "," (entries.map Entry.declaration) ++ "⟩".toList ++ rest = _
  rw [List.append_assoc, List.append_assoc]
  rfl

theorem blockSource_append (tag : Char) (name : Name) (parameters : List Name) (body : Line)
    (rest : Text) : blockSource tag name parameters body ++ rest =
      tag :: '⟨' :: (join "," (name.text :: parameters.map Name.text) ++
        '⟩' :: (body.text ++ '⟨' :: '/' :: tag :: '⟩' :: rest)) := by
  rw [blockSource, nameList_cons]
  simp

section TaggedSource

variable {tag : Char} (name : Name) (parameters : List Name) (body : Line)

def headerParameters : List Name → Option (List Text)
  | [] => none
  | first :: rest => some ((first :: rest).map Name.text)

theorem getD_headerParameters : (headerParameters parameters).getD [] = parameters.map Name.text := by
  cases parameters <;> rfl

def taggedSource {isTag isExcluded : Char → Bool} (tagged : isTag tag = true)
    (foreign : 128 ≤ tag.toNat) (included : ∀ c ∈ nameChars, isExcluded c = false) :
    BlockSource isTag isExcluded where
  tag := tag
  tagged := tagged
  headerOpener := .angle
  name := name.text
  named := ⟨name.filled, fun c member => ⟨name.all nameChars_no_bracket c member,
    ne_of_mem_of_not_mem member name.no_comma, included c (name.chars c member)⟩⟩
  parameters := headerParameters parameters
  plain := by
    intro pieces given piece isPiece c member
    have listed := getD_headerParameters parameters
    rw [given, Option.getD_some] at listed
    rw [listed] at isPiece
    rcases List.mem_map.mp isPiece with ⟨parameter, _, rfl⟩
    exact ⟨parameter.all nameChars_no_bracket c member,
      ne_of_mem_of_not_mem member parameter.no_comma⟩
  headerCloser := .angle
  body := body.text
  noClosing := holdsNoClosingTag_of_not_mem (body.ascii.not_mem foreign)
  endOpener := .angle
  endCloser := .angle

variable {isTag isExcluded : Char → Bool} (tagged : isTag tag = true) (foreign : 128 ≤ tag.toNat)
  (included : ∀ c ∈ nameChars, isExcluded c = false)

theorem text_taggedSource :
    (taggedSource name parameters body tagged foreign included).text =
      blockSource tag name parameters body := by
  have header : nameList (name :: parameters) =
      name.text ++ BlockSource.listText (headerParameters parameters) := by
    cases parameters with
    | nil => simp [nameList, headerParameters, BlockSource.listText]
    | cons first rest => exact join_char_cons_cons rfl name.text first.text (rest.map Name.text)
  unfold blockSource
  rw [header]
  simp [BlockSource.text, taggedSource, BlockBracket.opener, BlockBracket.closer]

theorem names_taggedSource :
    (taggedSource name parameters body tagged foreign included).names =
      parameters.map Name.text := by
  have trimmed : (parameters.map Name.text).map trim = parameters.map Name.text := by
    rw [List.map_map]
    exact List.map_congr_left fun parameter _ => parameter.trim_text
  have listed : (taggedSource name parameters body tagged foreign included).parameters.getD [] =
      parameters.map Name.text := getD_headerParameters parameters
  rw [BlockSource.names, listed, trimmed, List.filter_eq_self]
  refine List.forall_mem_map.mpr fun parameter _ => ?_
  simpa using parameter.filled

end TaggedSource

def conditionalLine (condition : Condition) (branch : Line) (other : Option Line) :
    ConditionalLine where
  blanks := []
  bracket := .round
  condition := condition.text
  branch := branch.text
  alternative := other.map Line.text
  blank := by simp
  balanced := condition.nested.isBalanced (onePair_isPairing (by decide)) (if_pos rfl)
  isBranch := branch.isBranch (by decide)
  isAlternative := by
    intro text isText
    rcases Option.map_eq_some_iff.mp isText with ⟨line, _, rfl⟩
    exact line.isBranch (by decide)

theorem source_conditional (condition : Condition) (branch : Line) (other : Option Line) :
    (Item.conditional condition branch other).source =
      (conditionalLine condition branch other).source := by
  cases other with
  | none =>
      change "∇(".toList ++ condition.text ++ ") → ".toList ++ branch.text ++ [] = _
      simp [ConditionalLine.source, conditionalLine, ConditionalLine.markedAlternative,
        ConditionBracket.opener, ConditionBracket.closer]
  | some line =>
      change "∇(".toList ++ condition.text ++ ") → ".toList ++ branch.text ++
        (" ⊘ ".toList ++ line.text) = _
      simp [ConditionalLine.source, conditionalLine, ConditionalLine.markedAlternative,
        ConditionBracket.opener, ConditionBracket.closer]

theorem rendering_conditional (condition : Condition) (branch : Line) (other : Option Line) :
    (Item.conditional condition branch other).rendering =
      (conditionalLine condition branch other).shown := by
  unfold Item.rendering ConditionalLine.shown ConditionalLine.elseBlock conditionalLine
  simp only [condition.trim_text, branch.trim_text]
  cases other with
  | none => rfl
  | some line => simp only [Option.map_some, line.trim_text]

/-! ## Items and their passes -/

theorem importStatement_nameList (source : ImportSource) (names : List Name)
    (filled : names ≠ []) : importStatement source (nameList names) =
      (Item.imports source names filled).rendering := by
  unfold importStatement
  rw [parameterList_nameList]
  rfl

theorem imports_rewrites (source : ImportSource) (names : List Name) (filled : names ≠ [])
    (rest : Text) : (imports source).replace (importStatement source)
        ((Item.imports source names filled).source ++ rest) =
      (Item.imports source names filled).rendering ++
        (imports source).replace (importStatement source) rest := by
  have taken : (imports source).take ((Item.imports source names filled).source ++ rest) =
      some (nameList names, rest) := by
    rw [source_imports]
    exact takeImport?_of_plain source (by decide) (by decide) (nameList_ne_nil filled)
      (nameList_no_bracket names) rest
  rw [(imports source).replace_of_found _ taken, importStatement_nameList source names filled]

theorem declarations_plain (entries : List Entry) :
    ∀ c ∈ join "," (entries.map Entry.declaration),
      isBlockBracket c = false ∧ stateHandlers c = none := by
  intro c member
  have bracketFree : isBlockBracket c = false := by
    rcases mem_join member with inSeparator | ⟨piece, isPiece, inside⟩
    · rw [List.mem_singleton.mp inSeparator]
      decide
    · rcases List.mem_map.mp isPiece with ⟨entry, _, rfl⟩
      by_contra bracket
      have plain := entry.declaration_plain c inside
      rcases (isBlockBracket_iff c).mp ((Bool.not_eq_false _).mp bracket) with rfl | rfl | rfl | rfl
      · exact entry.declaration_ascii.ne_of_mem inside (by decide) rfl
      · exact absurd plain.2.1 (by decide)
      · exact entry.declaration_ascii.ne_of_mem inside (by decide) rfl
      · exact absurd plain.2.2.1 (by decide)
  have ascii : IsAscii (join "," (entries.map Entry.declaration)) := by
    apply IsAscii.join (by decide)
    exact List.forall_mem_map.mpr fun entry _ => entry.declaration_ascii
  exact ⟨bracketFree, stateHandlers_startWith c (unmarked_of_ascii ascii (by decide) c member)⟩

theorem stateObject_declarations (mark : Char) (marked : mark ∈ stateMarks) (entries : List Entry)
    (filled : entries ≠ []) : stateObject (join "," (entries.map Entry.declaration)) =
      (Item.state mark marked entries filled).rendering := by
  have solid : ∀ entry ∈ entries, trim entry.declaration ≠ [] := by
    intro entry _
    rw [entry.trim_declaration]
    exact entry.declaration_ne_nil
  exact stateObject_join (fun entry _ => ScanState.after?_of_plain entry.declaration_plain) solid
    fun entry _ => entry.stateEntry_declaration

theorem state_rewrites (mark : Char) (marked : mark ∈ stateMarks) (entries : List Entry)
    (filled : entries ≠ []) :
    Rewrites rewriteStates (Item.state mark marked entries filled).source
      (Item.state mark marked entries filled).rendering := by
  intro rest done _ rewritten
  rw [source_state, ← stateObject_declarations mark marked entries filled]
  exact rewriteBlocks_of_plain (stateHandlers_of_mem marked) (declarations_plain entries) rewritten

section Tagged

variable {tag : Char} (name : Name) (parameters : List Name) (body : Line)

theorem function_rewrites (tagged : tag ∈ functionTags) (rest : Text) :
    rewriteFunctions ((Item.function tag tagged name parameters body).source ++ rest) =
      (Item.function tag tagged name parameters body).rendering ++ rewriteFunctions rest := by
  have known : ∀ c ∈ functionTags, isFunctionTag c = true ∧ 128 ≤ c.toNat := by decide
  rcases known tag tagged with ⟨isTag, foreign⟩
  let block : FunctionSource := taggedSource name parameters body isTag foreign fun _ _ => rfl
  have written : block.text = (Item.function tag tagged name parameters body).source :=
    text_taggedSource name parameters body isTag foreign fun _ _ => rfl
  have names : block.names = parameters.map Name.text :=
    names_taggedSource name parameters body isTag foreign fun _ _ => rfl
  have shownName : trim block.name = name.text := name.trim_text
  have shownBody : trim block.body = body.text := body.trim_text
  have declared : functionDeclaration block.parts =
      (Item.function tag tagged name parameters body).rendering := by
    rw [FunctionSource.functionDeclaration_parts]
    unfold FunctionSource.declaration
    rw [names, shownName, shownBody]
    rfl
  rw [← declared, ← written]
  exact functions.replace_of_found functionDeclaration (block.takeBlock?_append rest)

theorem component_rewrites (tagged : tag ∈ componentTags) (rest : Text) :
    components.replace componentFunction
        ((Item.component tag tagged name parameters body).source ++ rest) =
      (Item.component tag tagged name parameters body).rendering ++
        components.replace componentFunction rest := by
  have known : ∀ c ∈ componentTags, isComponentTag c = true ∧ 128 ≤ c.toNat := by decide
  rcases known tag tagged with ⟨isTag, foreign⟩
  have included : ∀ c ∈ nameChars, isStar c = false := by decide
  let block : ComponentSource := taggedSource name parameters body isTag foreign included
  have written : block.text = (Item.component tag tagged name parameters body).source :=
    text_taggedSource name parameters body isTag foreign included
  have names : block.names = parameters.map Name.text :=
    names_taggedSource name parameters body isTag foreign included
  have shownName : trim block.name = name.text := name.trim_text
  have shownBody : trim block.body = body.text := body.trim_text
  have declared : componentFunction block.parts =
      (Item.component tag tagged name parameters body).rendering := by
    rw [ComponentSource.componentFunction_parts]
    unfold ComponentSource.function ComponentSource.signature
    rw [names, shownName, shownBody]
    simp only [List.map_eq_nil_iff]
    rfl
  rw [← declared, ← written]
  exact components.replace_of_found componentFunction (block.takeBlock?_append rest)

end Tagged

theorem conditional_rewrites (condition : Condition) (branch : Line) (other : Option Line)
    {rest : Text} (next : IsNextLine rest) :
    rewriteConditionals ((Item.conditional condition branch other).source ++ rest) =
      (Item.conditional condition branch other).rendering ++ rewriteConditionals rest := by
  rw [source_conditional, rendering_conditional]
  exact (conditionalLine condition branch other).rewriteConditionals_source_append
    ⟨next.atLineEnd, fun _ => next.unmarked⟩

end SymbolScript.Program
