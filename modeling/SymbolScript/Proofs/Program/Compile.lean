import SymbolScript.Proofs.Base64Number.Literal
import SymbolScript.Proofs.Construct.NumberLiteral
import SymbolScript.Proofs.Program.Rewriting

/-!
Compilation of programs. The passes that read numbers and literal blocks keep a program, each pass
of a construct rewrites its items line by line, and the JavaScript of the items needs no tidying.
-/

namespace SymbolScript.Program

open Construct Text

/-! ## First characters -/

theorem Line.head (line : Line) :
    ∃ c rest, line.text = c :: rest ∧ isBlank c = false ∧ c ≠ '⊘' := by
  cases shown : line.text with
  | nil => exact absurd shown line.filled
  | cons c rest =>
      refine ⟨c, rest, rfl, line.first c (by simp [shown]), ?_⟩
      apply line.ascii.ne_of_mem _ (by decide)
      rw [shown]
      exact List.mem_cons_self

theorem foreign_head {mark : Char} {marks : List Char} (marked : mark ∈ marks)
    (solid : ∀ c ∈ marks, isBlank c = false ∧ c ≠ '⊘') (rest : Text) :
    ∃ c tail, mark :: rest = c :: tail ∧ isBlank c = false ∧ c ≠ '⊘' :=
  ⟨mark, rest, rfl, solid mark marked⟩

theorem Item.source_head (item : Item) :
    ∃ c rest, item.source = c :: rest ∧ isBlank c = false ∧ c ≠ '⊘' := by
  cases item with
  | text line => exact line.head
  | imports source names filled => cases source <;> exact ⟨_, _, rfl, by decide⟩
  | state mark marked entries filled => exact foreign_head marked (by decide) _
  | function tag tagged name parameters body => exact foreign_head tagged (by decide) _
  | component tag tagged name parameters body => exact foreign_head tagged (by decide) _
  | conditional condition branch other => exact ⟨'∇', _, rfl, by decide⟩

theorem Item.rendering_head (item : Item) :
    ∃ c rest, item.rendering = c :: rest ∧ isBlank c = false ∧ c ≠ '⊘' := by
  cases item with
  | text line => exact line.head
  | imports source names filled => exact ⟨'i', _, rfl, by decide⟩
  | state mark marked entries filled => exact ⟨'c', _, rfl, by decide⟩
  | function tag tagged name parameters body => exact ⟨'f', _, rfl, by decide⟩
  | component tag tagged name parameters body => exact ⟨'f', _, rfl, by decide⟩
  | conditional condition branch other => exact ⟨'i', _, rfl, by decide⟩

theorem Item.shownAfter_head (passes : List Stage) (item : Item) :
    ∃ c rest, item.shownAfter passes = c :: rest ∧ isBlank c = false ∧ c ≠ '⊘' := by
  unfold shownAfter
  split
  · exact item.rendering_head
  · split
    · exact item.rendering_head
    · exact item.source_head

/-! ## Stages -/

theorem Stage.marks_foreign (stage : Stage) : ∀ mark ∈ stage.marks, 128 ≤ mark.toNat := by
  cases stage <;> decide

theorem Stage.marks_unshared (stage : Stage) : ∀ mark ∈ stage.marks, mark ∉ sharedSigns := by
  cases stage <;> decide

theorem Stage.marks_disjoint {left right : Stage} (different : left ≠ right) :
    ∀ mark ∈ left.marks, mark ∉ right.marks := by
  cases left <;> cases right <;> first | exact absurd rfl different | decide

theorem Item.rendering_unmarked (item : Item) (stage : Stage) :
    ∀ c ∈ item.rendering, c ∉ stage.marks :=
  unmarked_of_ascii item.rendering_ascii stage.marks_foreign

theorem Item.source_unmarked {item : Item} {stage : Stage} (foreign : item.stage? ≠ some stage) :
    ∀ c ∈ item.source, c ∉ stage.marks := by
  intro c member isMark
  rcases item.source_uses c member with ascii | known
  · have large := stage.marks_foreign c isMark
    omega
  · rcases List.mem_append.mp known with shared | own
    · exact stage.marks_unshared c isMark shared
    · unfold Item.marks at own
      split at own
      · cases own
      · next other found =>
        have different : stage ≠ other := by
          rintro rfl
          exact foreign found
        exact Stage.marks_disjoint different c isMark own

theorem Item.rewrites_of_other {item : Item} {stage : Stage} (foreign : item.stage? ≠ some stage)
    (passes : List Stage) :
    Rewrites stage.apply (item.shownAfter passes) (item.shownAfter passes) := by
  have unmarked : ∀ c ∈ item.shownAfter passes, c ∉ stage.marks := by
    unfold shownAfter
    split
    · exact item.rendering_unmarked stage
    · split
      · exact item.rendering_unmarked stage
      · exact item.source_unmarked foreign
  exact fun rest done _ rewritten => stage.apply_append_of_unmarked unmarked rewritten

theorem Item.rewrites_of_own {item : Item} {stage : Stage} (own : item.stage? = some stage) :
    Rewrites stage.apply item.source item.rendering := by
  intro rest done next rewritten
  cases item with
  | text line => cases own
  | imports source names filled =>
      cases source with
      | runtime =>
          cases own
          cases rewritten
          exact congrArg Except.ok (imports_rewrites .runtime names filled rest)
      | react =>
          cases own
          cases rewritten
          exact congrArg Except.ok (imports_rewrites .react names filled rest)
  | state mark marked entries filled =>
      cases own
      exact state_rewrites mark marked entries filled rest done next rewritten
  | function tag tagged name parameters body =>
      cases own
      cases rewritten
      exact congrArg Except.ok (function_rewrites name parameters body tagged rest)
  | component tag tagged name parameters body =>
      cases own
      cases rewritten
      exact congrArg Except.ok (component_rewrites name parameters body tagged rest)
  | conditional condition branch other =>
      cases own
      cases rewritten
      exact congrArg Except.ok (conditional_rewrites condition branch other next)

def shownAfter (passes : List Stage) (items : List Item) : Text :=
  join "\n" (items.map (Item.shownAfter passes))

theorem Item.shownAfter_of_own {item : Item} {stage : Stage} (own : item.stage? = some stage)
    {passes : List Stage} (fresh : stage ∉ passes) :
    item.shownAfter passes = item.source ∧ item.shownAfter (stage :: passes) = item.rendering := by
  unfold shownAfter
  rw [own]
  exact ⟨if_neg fresh, if_pos List.mem_cons_self⟩

theorem Item.shownAfter_of_other {item : Item} {stage : Stage} (foreign : item.stage? ≠ some stage)
    (passes : List Stage) : item.shownAfter (stage :: passes) = item.shownAfter passes := by
  unfold shownAfter
  split
  · rfl
  · next other found =>
    have different : other ≠ stage := by
      rintro rfl
      exact foreign found
    simp [different]

theorem apply_shownAfter {stage : Stage} {passes : List Stage} (fresh : stage ∉ passes)
    (items : List Item) :
    stage.apply (shownAfter passes items) = .ok (shownAfter (stage :: passes) items) := by
  apply Rewrites.join stage.apply_nil
  · intro rest done rewritten
    have ascii : IsAscii ['\n'] := by decide
    exact stage.apply_append_of_unmarked (unmarked_of_ascii ascii stage.marks_foreign) rewritten
  · exact Item.shownAfter_head passes
  · intro item
    by_cases own : item.stage? = some stage
    · rw [(Item.shownAfter_of_own own fresh).1, (Item.shownAfter_of_own own fresh).2]
      exact Item.rewrites_of_own own
    · rw [Item.shownAfter_of_other own]
      exact Item.rewrites_of_other own passes

/-! ## Passes that keep programs -/

theorem source_eq_shownAfter (items : List Item) : source items = shownAfter [] items := by
  have each : ∀ item ∈ items, Item.source item = Item.shownAfter [] item := by
    intro item _
    cases item with
    | imports source names filled => cases source <;> rfl
    | _ => rfl
  rw [source, shownAfter, List.map_congr_left each]

def programSigns : List Char :=
  sharedSigns ++ ['導', 'Ψ', '狀', 'Σ', '函', 'λ', '組', '∆', '∇']

theorem Item.source_uses_programSigns (item : Item) : Uses programSigns item.source := by
  have known : ∀ c ∈ item.marks, c ∈ ['導', 'Ψ', '狀', 'Σ', '函', 'λ', '組', '∆', '∇'] := by
    unfold marks
    split
    · simp
    · next stage _ => cases stage <;> decide
  intro c member
  rcases item.source_uses c member with ascii | shared
  · exact .inl ascii
  · right
    rcases List.mem_append.mp shared with isShared | isMark
    · exact List.mem_append_left _ isShared
    · exact List.mem_append_right _ (known c isMark)

theorem shownAfter_uses (passes : List Stage) (items : List Item) :
    Uses programSigns (shownAfter passes items) := by
  intro c member
  rcases mem_join member with inSeparator | ⟨piece, isPiece, inside⟩
  · rw [List.mem_singleton.mp inSeparator]
    decide
  · rcases List.mem_map.mp isPiece with ⟨item, _, rfl⟩
    unfold Item.shownAfter at inside
    split at inside
    · exact .inl (item.rendering_ascii c inside)
    · split at inside
      · exact .inl (item.rendering_ascii c inside)
      · exact item.source_uses_programSigns c inside

theorem shownAfter_unmarked (passes : List Stage) (items : List Item) {marks : List Char}
    (foreign : ∀ mark ∈ marks, 128 ≤ mark.toNat ∧ mark ∉ programSigns) :
    ∀ c ∈ shownAfter passes items, c ∉ marks := by
  intro c member isMark
  rcases shownAfter_uses passes items c member with ascii | known
  · have large := (foreign c isMark).1
    omega
  · exact (foreign c isMark).2 known

theorem uncircled_shownAfter (passes : List Stage) (items : List Item) :
    ∀ c ∈ shownAfter passes items, circledValue? c = none := by
  intro c member
  rcases shownAfter_uses passes items c member with ascii | known
  · exact circledValue?_of_ascii ascii
  · have each : ∀ sign ∈ programSigns, circledValue? sign = none := by decide
    exact each c known

section Base64

variable {rest done : Text}

theorem replaceBase64_of_no_sign {piece : Text} (absent : '#' ∉ piece)
    (read : Base64Number.literals.replaceOr spellBase64 rest = .ok done) :
    Base64Number.literals.replaceOr spellBase64 (piece ++ rest) = .ok (piece ++ done) := by
  have unmarked : ∀ c ∈ piece, c ∉ ['#'] := by
    intro c member isSign
    rw [List.mem_singleton.mp isSign] at member
    exact absent member
  rw [Base64Number.literals_startsWith.replaceOr_append spellBase64 unmarked, read]
  rfl

theorem replaceBase64_of_no_angle {piece : Text} (absent : '⟨' ∉ piece)
    (stop : rest.head? ≠ some '⟨')
    (read : Base64Number.literals.replaceOr spellBase64 rest = .ok done) :
    Base64Number.literals.replaceOr spellBase64 (piece ++ rest) = .ok (piece ++ done) := by
  rw [Base64Number.replaceOr_append_of_no_angle spellBase64 absent stop, read]
  rfl

theorem nameList_no_sign (names : List Name) : '#' ∉ nameList names := by
  intro member
  rcases mem_nameList member with comma | isNameChar
  · exact absurd comma (by decide)
  · exact absurd isNameChar (by decide)

theorem replaceBase64_blockSource {tag : Char} (tagged : tag ∈ functionTags ++ componentTags)
    (name : Name) (parameters : List Name) (body : Line)
    (read : Base64Number.literals.replaceOr spellBase64 rest = .ok done) :
    Base64Number.literals.replaceOr spellBase64 (blockSource tag name parameters body ++ rest) =
      .ok (blockSource tag name parameters body ++ done) := by
  have known : ∀ c ∈ functionTags ++ componentTags,
      128 ≤ c.toNat ∧ c ≠ '⟩' ∧ '#' ∉ ['⟨', '/', c, '⟩'] ∧ '#' ∉ [c, '⟨'] := by
    decide
  rcases known tag tagged with ⟨foreign, noBracket, endUnsigned, startUnsigned⟩
  have noDigit := Base64Number.isDigit_of_foreign foreign
  have ended := replaceBase64_of_no_sign endUnsigned read
  have bodyKept : Base64Number.literals.replaceOr spellBase64
      (body.text ++ '⟨' :: '/' :: tag :: '⟩' :: rest) =
        .ok (body.text ++ (['⟨', '/', tag, '⟩'] ++ done)) := by
    rw [Base64Number.replaceOr_append_of_closingTag spellBase64 (body.ascii.not_mem (by decide))
      noDigit noBracket]
    exact congrArg (Except.map _) ended
  have closed := replaceBase64_of_no_sign (by decide : '#' ∉ ['⟩']) bodyKept
  have named := replaceBase64_of_no_sign (nameList_no_sign (name :: parameters)) closed
  rw [blockSource_append, blockSource_append]
  exact replaceBase64_of_no_sign startUnsigned named

theorem Item.replaceBase64 (item : Item) :
    Rewrites (Base64Number.literals.replaceOr spellBase64) item.source item.source := by
  intro rest done next read
  have stop : rest.head? ≠ some '⟨' := by
    intro isAngle
    exact absurd (next.atLineEnd '⟨' isAngle) (by decide)
  cases item with
  | text line => exact replaceBase64_of_no_angle (line.ascii.not_mem (by decide)) stop read
  | imports source names filled =>
      have unsigned : '#' ∉ [source.mark, '⟨'] := by cases source <;> decide
      have closed := replaceBase64_of_no_sign (by decide : '#' ∉ ['⟩']) read
      have named := replaceBase64_of_no_sign (nameList_no_sign names) closed
      rw [source_imports, source_imports]
      exact replaceBase64_of_no_sign unsigned named
  | state mark marked entries filled =>
      have unsigned : ∀ c ∈ stateMarks, '#' ∉ [c, '⟨'] := by decide
      have absent : '⟨' ∉ join "," (entries.map Entry.declaration) := by
        intro member
        exact absurd (declarations_plain entries '⟨' member).1 (by decide)
      have closed := replaceBase64_of_no_sign (by decide : '#' ∉ ['⟩']) read
      have declared := replaceBase64_of_no_angle absent (by simp) closed
      rw [source_state, source_state]
      exact replaceBase64_of_no_sign (unsigned mark marked) declared
  | function tag tagged name parameters body =>
      exact replaceBase64_blockSource (List.mem_append_left _ tagged) name parameters body read
  | component tag tagged name parameters body =>
      exact replaceBase64_blockSource (List.mem_append_right _ tagged) name parameters body read
  | conditional condition branch other =>
      have angleFree : ∀ line : Line, '⟨' ∉ line.text := fun line => line.ascii.not_mem (by decide)
      apply replaceBase64_of_no_angle ?_ stop read
      intro member
      rcases List.mem_append.mp member with inFirst | inSecond
      · rcases List.mem_append.mp inFirst with inHead | inBranch
        · rcases List.mem_append.mp inHead with inCondition | inArrow
          · rcases List.mem_append.mp inCondition with inStart | inText
            · exact absurd inStart (by decide)
            · exact angleFree condition.toLine inText
          · exact absurd inArrow (by decide)
        · exact angleFree branch inBranch
      · cases other with
        | none => cases inSecond
        | some line =>
            rcases List.mem_append.mp inSecond with inMark | inOther
            · exact absurd inMark (by decide)
            · exact angleFree line inOther

end Base64

theorem decodeNumbers_source (items : List Item) :
    decodeNumbers (source items) = .ok (source items) := by
  have composite : composites.replace spellComposite (source items) = source items := by
    rw [source_eq_shownAfter]
    exact replaceComposites_of_uncircled (uncircled_shownAfter [] items)
  have base64 :
      Base64Number.literals.replaceOr spellBase64 (source items) = .ok (source items) := by
    apply Rewrites.join (Base64Number.literals.replaceOr_nil spellBase64)
    · intro rest done read
      exact replaceBase64_of_no_sign (by decide : '#' ∉ ['\n']) read
    · exact Item.source_head
    · exact Item.replaceBase64
  have vector :
      VectorNumber.literals.replaceOr spellVector (source items) = .ok (source items) := by
    rw [source_eq_shownAfter]
    exact vectorLiterals_startsWith.replaceOr_eq_self spellVector
      (shownAfter_unmarked [] items (by decide))
  simp only [decodeNumbers, composite, base64, bind, Except.bind]
  exact vector

theorem rewriteLiterals_source (items : List Item) :
    rewriteLiterals (source items) = .ok (source items) := by
  rw [source_eq_shownAfter]
  exact rewriteBlocks_of_unmarked literalHandlers_startWith
    (shownAfter_unmarked [] items (by decide))

/-! ## Layout of the JavaScript -/

theorem Name.isReadable (name : Name) : IsReadable name.text :=
  isReadable_of_line fun member => absurd (name.chars '\n' member) (by decide)

theorem shownNames_isReadable (names : List Name) : IsReadable (shownNames names) := by
  apply isReadable_of_line
  intro member
  rcases mem_join member with inSeparator | ⟨piece, isPiece, inside⟩
  · exact absurd inSeparator (by decide)
  · rcases List.mem_map.mp isPiece with ⟨name, _, rfl⟩
    exact absurd (name.chars '\n' inside) (by decide)

theorem Entry.shown_isSolid (entry : Entry) : IsSolid entry.shown := by
  have indent : IsReadable "  ".toList := by decide
  have colon : IsReadable ": ".toList := by decide
  exact ((indent.append entry.name.isReadable).append colon).append_solid entry.value.solid

theorem Item.rendering_isSolid (item : Item) : IsSolid item.rendering := by
  have brace : solidAfter? true "\n\x7d".toList = some true := by decide
  have function : IsReadable "function ".toList := by decide
  have parenthesis : IsReadable "(".toList := by decide
  cases item with
  | text line => exact line.solid
  | imports source names filled =>
      have head : IsReadable "import \x7b ".toList := by decide
      have middle : IsReadable " \x7d from \"".toList := by decide
      have module : IsReadable source.module.toList := by cases source <;> decide
      have tail : IsSolid "\";".toList := by decide
      exact (((head.append (shownNames_isReadable names)).append middle).append
        module).append_solid tail
  | state mark marked entries filled =>
      have head : IsReadable "const state = \x7b\n".toList := by decide
      have tail : solidAfter? true "\n\x7d;".toList = some true := by decide
      have shown : IsSolid (join ",\n" (entries.map Entry.shown)) := by
        apply IsSolid.join (by decide)
        · exact fun empty => filled (List.map_eq_nil_iff.mp empty)
        · exact List.forall_mem_map.mpr fun entry _ => entry.shown_isSolid
      exact (head.append_solid shown).append tail
  | function tag tagged name parameters body =>
      have opening : IsReadable ") \x7b\n  ".toList := by decide
      exact (((((function.append name.isReadable).append parenthesis).append
        (shownNames_isReadable parameters)).append opening).append_solid body.solid).append brace
  | component tag tagged name parameters body =>
      have signature : IsReadable (if parameters = [] then [] else
          "\x7b ".toList ++ shownNames parameters ++ " \x7d".toList) := by
        have left : IsReadable "\x7b ".toList := by decide
        have right : IsReadable " \x7d".toList := by decide
        split
        · exact isReadable_of_line (by simp)
        · exact (left.append (shownNames_isReadable parameters)).append right
      have opening : IsReadable ") \x7b\n  return (\n    ".toList := by decide
      have closing : solidAfter? true "\n  );\n\x7d".toList = some true := by decide
      exact (((((function.append name.isReadable).append parenthesis).append signature).append
        opening).append_solid body.solid).append closing
  | conditional condition branch other =>
      have head : IsReadable "if (".toList := by decide
      have opening : IsReadable ") \x7b\n  ".toList := by decide
      have first := (((head.append (IsSolid.isReadable condition.solid)).append
        opening).append_solid branch.solid).append brace
      cases other with
      | none => exact first.append rfl
      | some line =>
          have second : IsReadable " else \x7b\n  ".toList := by decide
          exact first.isReadable.append_solid ((second.append_solid line.solid).append brace)

theorem rendering_ascii (items : List Item) : IsAscii (rendering items) := by
  apply IsAscii.join (by decide)
  exact List.forall_mem_map.mpr fun item _ => item.rendering_ascii

theorem rendering_isSolid {items : List Item} (filled : items ≠ []) :
    IsSolid (rendering items) := by
  apply IsSolid.join (by decide)
  · exact fun empty => filled (List.map_eq_nil_iff.mp empty)
  · exact List.forall_mem_map.mpr fun item _ => item.rendering_isSolid

theorem tidy_rendering (items : List Item) : tidy (rendering items) = rendering items := by
  cases items with
  | nil => decide +kernel
  | cons first rest =>
      apply tidy_of_solid (rendering_ascii (first :: rest))
      · intro c isHead
        rcases first.rendering_head with ⟨d, tail, shown, solid, _⟩
        rw [rendering, List.map_cons, shown, join_cons_char, List.head?_cons,
          Option.some.injEq] at isHead
        rwa [← isHead]
      · exact rendering_isSolid (List.cons_ne_nil first rest) false

/-! ## Compilation -/

theorem shownAfter_all (items : List Item) :
    shownAfter [.conditionals, .components, .functions, .states, .reactImports, .runtimeImports]
      items = rendering items := by
  rw [shownAfter, rendering]
  congr 1
  apply List.map_congr_left
  intro item _
  unfold Item.shownAfter
  split
  · rfl
  · next stage _ => cases stage <;> exact if_pos (by decide)

theorem rewriteImports_source (items : List Item) :
    rewriteImports (source items) = shownAfter [.reactImports, .runtimeImports] items := by
  have runtime : Stage.runtimeImports.apply (shownAfter [] items) =
      .ok (shownAfter [.runtimeImports] items) :=
    apply_shownAfter (by decide) items
  have react : Stage.reactImports.apply (shownAfter [.runtimeImports] items) =
      .ok (shownAfter [.reactImports, .runtimeImports] items) :=
    apply_shownAfter (by decide) items
  rw [rewriteImports, source_eq_shownAfter]
  exact (congrArg _ (Except.ok.inj runtime)).trans (Except.ok.inj react)

theorem finish_shownAfter (items : List Item) :
    finish (shownAfter [.states, .reactImports, .runtimeImports] items) = rendering items := by
  have functions : rewriteFunctions (shownAfter [.states, .reactImports, .runtimeImports] items) =
      shownAfter [.functions, .states, .reactImports, .runtimeImports] items :=
    Except.ok.inj (apply_shownAfter (by decide) items : Stage.functions.apply _ = _)
  have components : components.replace componentFunction
      (shownAfter [.functions, .states, .reactImports, .runtimeImports] items) =
      shownAfter [.components, .functions, .states, .reactImports, .runtimeImports] items :=
    Except.ok.inj (apply_shownAfter (by decide) items : Stage.components.apply _ = _)
  have conditionals : rewriteConditionals
      (shownAfter [.components, .functions, .states, .reactImports, .runtimeImports] items) =
      rendering items := by
    rw [← shownAfter_all]
    exact Except.ok.inj (apply_shownAfter (by decide) items : Stage.conditionals.apply _ = _)
  have unmarked : ∀ {marks : List Char}, (∀ mark ∈ marks, 128 ≤ mark.toNat ∧ mark ∉ programSigns) →
      ∀ c ∈ shownAfter [.components, .functions, .states, .reactImports, .runtimeImports] items,
        c ∉ marks :=
    shownAfter_unmarked _ items
  rw [finish, functions, rewriteComponents, components,
    roots_startsWith.replace_eq_self (unmarked (by decide)), rewriteStyles,
    styledTexts_startsWith.replace_eq_self (unmarked (by decide)),
    styles_startsWith.replace_eq_self (unmarked (by decide)), conditionals,
    substituteSymbols_of_ascii (rendering_ascii items), tidy_rendering]

end SymbolScript.Program
