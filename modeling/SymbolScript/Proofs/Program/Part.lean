import SymbolScript.Proofs.Construct.ConditionalLine
import SymbolScript.Proofs.Construct.Mark
import SymbolScript.Proofs.Construct.State
import SymbolScript.Proofs.Program.Item

/-!
What the parts of items promise: lines and names in ASCII that trimming keeps, and declarations that
are read back from their names and values.
-/

namespace SymbolScript.Program

open Construct Text

/-! ## Lines -/

namespace Line

variable (line : Line)

theorem trim_text : trim line.text = line.text :=
  trimBy_eq_self line.first line.last

theorem solid (before : Bool) : solidAfter? before line.text = some true :=
  solidAfter?_of_line line.oneLine line.filled line.last before

theorem isBranch {stops : List Char} (foreign : ∀ c ∈ stops, c = '\n' ∨ 128 ≤ c.toNat) :
    IsBranch stops line.text where
  filled := by
    rcases List.exists_cons_of_ne_nil line.filled with ⟨c, rest, parts⟩
    exact ⟨c, by simp [parts], line.first c (by simp [parts])⟩
  inside := by
    intro c member stops
    rcases foreign c stops with rfl | outside
    · exact line.oneLine member
    · exact line.ascii.not_mem outside member

end Line

/-! ## Names -/

theorem nameChars_ascii : ∀ c ∈ nameChars, c.toNat < 128 := by
  decide

theorem nameChars_no_bracket : ∀ c ∈ nameChars, isBlockBracket c = false := by
  decide

namespace Name

variable (name : Name)

theorem all {P : Char → Prop} (each : ∀ c ∈ nameChars, P c) : ∀ c ∈ name.text, P c :=
  fun c member => each c (name.chars c member)

theorem ascii : IsAscii name.text :=
  name.all nameChars_ascii

theorem not_blank : ∀ c ∈ name.text, isBlank c = false :=
  name.all (by decide)

theorem trim_text : trim name.text = name.text :=
  trim_eq_self_of_forall name.not_blank

theorem no_stop : ∀ c ∈ name.text, c ∉ ",:".toList :=
  name.all (by decide)

theorem no_comma : ',' ∉ name.text :=
  fun member => name.no_stop ',' member (by decide)

theorem no_colon : ':' ∉ name.text :=
  fun member => name.no_stop ':' member (by decide)

theorem isPlainField : IsPlainField isComma name.text :=
  name.all (by decide)

end Name

theorem nameList_cons (name : Name) (names : List Name) :
    nameList (name :: names) = join "," (name.text :: names.map Name.text) := by
  rw [nameList, List.map_cons]

theorem mem_nameList {names : List Name} {c : Char} (member : c ∈ nameList names) :
    c = ',' ∨ c ∈ nameChars := by
  rcases mem_join member with inSeparator | ⟨piece, isPiece, inside⟩
  · exact .inl (List.mem_singleton.mp inSeparator)
  · rcases List.mem_map.mp isPiece with ⟨name, _, rfl⟩
    exact .inr (name.chars c inside)

theorem nameList_no_bracket (names : List Name) :
    ∀ c ∈ nameList names, isBlockBracket c = false := by
  intro c member
  rcases mem_nameList member with rfl | isNameChar
  · decide
  · exact nameChars_no_bracket c isNameChar

theorem nameList_ascii (names : List Name) : IsAscii (nameList names) := by
  intro c member
  rcases mem_nameList member with rfl | isNameChar
  · decide
  · exact nameChars_ascii c isNameChar

theorem nameList_ne_nil {names : List Name} (filled : names ≠ []) : nameList names ≠ [] := by
  cases names with
  | nil => exact absurd rfl filled
  | cons name rest => exact join_ne_nil "," name.filled _

theorem parameterList_nameList (names : List Name) :
    parameterList (nameList names) = shownNames names := by
  apply parameterList_join
  · exact List.forall_mem_map.mpr fun name _ => name.no_comma
  · exact List.forall_mem_map.mpr fun name _ => name.trim_text
  · exact List.forall_mem_map.mpr fun name _ => name.filled

/-! ## Entries -/

theorem mem_valueStops {c : Char}
    (stops : (isQuote c || isNestingOpener c || isNestingCloser c || isComma c) = true) :
    c ∈ valueStops := by
  simp only [isQuote, isNestingOpener, isNestingCloser, isComma, Bool.or_eq_true,
    beq_iff_eq] at stops
  rcases stops with ((((rfl | rfl) | rfl) | ((rfl | rfl) | rfl)) | ((rfl | rfl) | rfl)) | rfl <;>
    decide

namespace Entry

variable (entry : Entry)

theorem declaration_eq : entry.declaration = entry.name.text ++ ':' :: entry.value.text := by
  rw [declaration, List.append_assoc]
  rfl

theorem stateEntry_declaration : stateEntry entry.declaration = entry.shown := by
  rw [declaration_eq]
  exact stateEntry_of_pair entry.name.no_colon entry.name.trim_text entry.value.trim_text
    entry.value.filled

theorem declaration_ascii : IsAscii entry.declaration := by
  rw [declaration_eq, isAscii_append, isAscii_cons]
  exact ⟨entry.name.ascii, by decide, entry.value.ascii⟩

theorem declaration_ne_nil : entry.declaration ≠ [] := by
  rw [declaration_eq]
  simp

theorem trim_declaration : trim entry.declaration = entry.declaration := by
  rw [declaration_eq]
  apply trimBy_eq_self
  · intro c isHead
    cases shown : entry.name.text with
    | nil => exact absurd shown entry.name.filled
    | cons d rest =>
        rw [shown, List.cons_append, List.head?_cons, Option.some.injEq] at isHead
        apply entry.name.not_blank
        rw [shown, isHead]
        exact List.mem_cons_self
  · intro c isLast
    rw [List.append_cons, List.getLast?_append_of_ne_nil _ entry.value.filled] at isLast
    exact entry.value.last c isLast

theorem declaration_plain : IsPlainField isComma entry.declaration := by
  intro c member
  rw [declaration_eq, List.mem_append, List.mem_cons] at member
  rcases member with inName | rfl | inValue
  · exact entry.name.isPlainField c inName
  · decide
  · have outside : (isQuote c || isNestingOpener c || isNestingCloser c || isComma c) = false := by
      by_contra stops
      exact entry.value.plain c inValue (mem_valueStops ((Bool.not_eq_false _).mp stops))
    simpa only [Bool.or_eq_false_iff, and_assoc] using outside

end Entry

end SymbolScript.Program
