import SymbolScript.Proofs.Construct.Balance
import SymbolScript.Proofs.Construct.Mark
import SymbolScript.Proofs.Construct.SelfContained
import SymbolScript.Proofs.Construct.State

/-!
State blocks keep every declaration, in order. A value may hold any colons, and commas inside its
quotes and brackets: the declaration is cut at its first colon, and the block at the commas between
declarations.
-/

namespace SymbolScript.Construct

open Text

def IsStateFree (text : Text) : Prop :=
  ∀ c ∈ text, c ∉ ['⟨', '⟩', '狀', 'Σ']

instance (text : Text) : Decidable (IsStateFree text) :=
  inferInstanceAs (Decidable (∀ c ∈ text, c ∉ ['⟨', '⟩', '狀', 'Σ']))

/-- A name that stands alone in a declaration: nothing in it ends it or opens anything. -/
structure IsStateName (name : Text) : Prop where
  filled : name ≠ []
  trimmed : trim name = name
  plain : IsPlainField isComma name
  noColon : ':' ∉ name
  free : IsStateFree name

/-- A value that is one field of a block, whatever it holds inside quotes and brackets. -/
structure IsStateValue (value : Text) : Prop where
  filled : value ≠ []
  trimmed : trim value = value
  contained : IsSelfContained isComma value
  free : IsStateFree value

/-- A declaration as it is written in a state block: a name, with a value or without one, and blanks
around it. -/
structure StateDeclaration where
  front : Text
  name : Text
  value : Option Text
  back : Text
  frontBlank : ∀ c ∈ front, isBlank c = true
  named : IsStateName name
  valued : ∀ text ∈ value, IsStateValue text
  backBlank : ∀ c ∈ back, isBlank c = true

namespace StateDeclaration

def pair (declaration : StateDeclaration) : Text :=
  match declaration.value with
  | none => declaration.name
  | some value => declaration.name ++ ':' :: value

def text (declaration : StateDeclaration) : Text :=
  declaration.front ++ declaration.pair ++ declaration.back

def line (declaration : StateDeclaration) : Text :=
  "  ".toList ++ declaration.name ++ ": ".toList ++
    declaration.value.getD "undefined".toList

def block (mark : Char) (declarations : List StateDeclaration) : Text :=
  mark :: '⟨' :: (join "," (declarations.map text) ++ ['⟩'])

def object (declarations : List StateDeclaration) : Text :=
  "const state = \x7b\n".toList ++ join ",\n" (declarations.map line) ++ "\n\x7d;".toList

variable (declaration : StateDeclaration)

/-! ## One declaration -/

theorem trim_text : trim declaration.text = trim declaration.pair := by
  rw [text, trim, trimBy_append_class declaration.backBlank,
    trimBy_class_append declaration.frontBlank, trim]

theorem trim_text_ne_nil : trim declaration.text ≠ [] := by
  intro empty
  have blank := trimBy_eq_nil_iff.mp empty
  have nameBlank : ∀ c ∈ declaration.name, isBlank c = true := by
    intro c member
    apply blank
    unfold text pair
    cases declaration.value <;> simp [member]
  exact declaration.named.filled
    (declaration.named.trimmed.symm.trans (trimBy_eq_nil_iff.mpr nameBlank))

theorem stateEntry_text : stateEntry declaration.text = declaration.line := by
  rw [← stateEntry_trim, trim_text, stateEntry_trim]
  have name := declaration.named
  unfold pair line
  cases given : declaration.value with
  | none => exact stateEntry_of_name name.noColon name.trimmed
  | some value =>
      have valued := declaration.valued value given
      exact stateEntry_of_pair name.noColon name.trimmed valued.trimmed valued.filled

theorem after?_pair : ScanState.outside.after? isComma declaration.pair = some .outside := by
  have name := ScanState.after?_of_plain declaration.named.plain
  unfold pair
  cases given : declaration.value with
  | none => exact name
  | some value =>
      have contained := (declaration.valued value given).contained
      rw [ScanState.after?_append, name]
      exact contained.after?

theorem after?_text : ScanState.outside.after? isComma declaration.text = some .outside := by
  rw [text, ScanState.after?_append, ScanState.after?_append,
    ScanState.after?_of_blank declaration.frontBlank]
  simp only [Option.bind_some, declaration.after?_pair]
  exact ScanState.after?_of_blank declaration.backBlank

theorem isStateFree_text : IsStateFree declaration.text := by
  have blanks : ∀ blank : Text, (∀ c ∈ blank, isBlank c = true) → IsStateFree blank :=
    fun blank isBlank c member marked =>
      absurd (isBlank c member)
        ((by decide : ∀ d ∈ ['⟨', '⟩', '狀', 'Σ'], ¬Text.isBlank d = true) c marked)
  have pairFree : IsStateFree declaration.pair := by
    unfold pair
    cases given : declaration.value with
    | none => exact declaration.named.free
    | some value =>
        refine List.forall_mem_append.mpr ⟨declaration.named.free, ?_⟩
        exact List.forall_mem_cons.mpr ⟨by decide, (declaration.valued value given).free⟩
  unfold text
  exact List.forall_mem_append.mpr ⟨List.forall_mem_append.mpr
    ⟨blanks declaration.front declaration.frontBlank, pairFree⟩,
    blanks declaration.back declaration.backBlank⟩

/-! ## Blocks of declarations -/

theorem isStateFree_join (declarations : List StateDeclaration) :
    IsStateFree (join "," (declarations.map text)) := by
  intro c member
  rcases mem_join member with isComma | ⟨piece, isPiece, inside⟩
  · exact (by decide : IsStateFree ",".toList) c isComma
  · rcases List.mem_map.mp isPiece with ⟨declaration, _, rfl⟩
    exact declaration.isStateFree_text c inside

theorem stateObject_texts (declarations : List StateDeclaration) :
    stateObject (join "," (declarations.map text)) = object declarations :=
  stateObject_join (fun declaration _ => declaration.after?_text)
    (fun declaration _ => declaration.trim_text_ne_nil)
    (fun declaration _ => declaration.stateEntry_text)

/-- A state block becomes the state object with one line for each declaration, in order. -/
theorem rewriteStates_in_order {mark : Char} (marked : mark ∈ ['狀', 'Σ'])
    (declarations : List StateDeclaration) :
    rewriteStates (block mark declarations) = .ok (object declarations) := by
  have free := isStateFree_join declarations
  have balanced : IsBalanced '⟨' '⟩' (join "," (declarations.map text)) :=
    isBalanced_of_not_mem (fun opens => free '⟨' opens (by decide))
      fun closes => free '⟩' closes (by decide)
  have unmarked : ∀ c ∈ join "," (declarations.map text), stateHandlers c = none := by
    intro c member
    exact stateHandlers_startWith c fun isMark =>
      free c member (List.mem_cons_of_mem '⟨' (List.mem_cons_of_mem '⟩' isMark))
  have replaced := rewriteBlocks_of_balanced (stateHandlers_of_mem marked) rfl balanced
    (rewriteFrom_of_unmarked unmarked 0) (rewriteFrom_nil 0)
  rwa [stateObject_texts, List.append_nil] at replaced

def items : StateDeclaration where
  front := "\n".toList
  name := "items".toList
  value := some "f(\x7ba:[1,'),']\x7d, 2)".toList
  back := " ".toList
  frontBlank := by decide
  named := ⟨by decide, by decide, by decide, by decide, by decide⟩
  valued := by
    rintro _ ⟨⟩
    exact ⟨by decide, by decide, by decide, by decide⟩
  backBlank := by decide

def total : StateDeclaration where
  front := []
  name := "total".toList
  value := none
  back := []
  frontBlank := by decide
  named := ⟨by decide, by decide, by decide, by decide, by decide⟩
  valued := by
    rintro _ ⟨⟩
  backBlank := by decide

theorem rewriteStates_in_order_items :
    'Σ' ∈ ['狀', 'Σ'] ∧
      rewriteStates "Σ⟨\nitems:f(\x7ba:[1,'),']\x7d, 2) ,total⟩".toList =
        .ok ("const state = \x7b\n  items: f(\x7ba:[1,'),']\x7d, 2),\n".toList ++
          "  total: undefined\n\x7d;".toList) := by
  have read : block 'Σ' [items, total] =
      "Σ⟨\nitems:f(\x7ba:[1,'),']\x7d, 2) ,total⟩".toList := by decide
  have written : object [items, total] =
      "const state = \x7b\n  items: f(\x7ba:[1,'),']\x7d, 2),\n".toList ++
        "  total: undefined\n\x7d;".toList := by decide
  rw [← read, ← written]
  exact ⟨by decide, rewriteStates_in_order (by decide) [items, total]⟩

end StateDeclaration

end SymbolScript.Construct
