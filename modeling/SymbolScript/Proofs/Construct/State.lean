import SymbolScript.Construct.State
import SymbolScript.Proofs.Construct.FieldScan

/-! State blocks of plain declarations keep each declaration as an entry, in order. -/

namespace SymbolScript.Construct

open Text

theorem stateEntry_trim (declaration : Text) :
    stateEntry (trim declaration) = stateEntry declaration := by
  rcases exists_trimBy_parts isBlank declaration with ⟨front, back, parts, frontBlank, backBlank⟩
  have noColon : ∀ text : Text, (∀ c ∈ text, isBlank c = true) → ':' ∉ text :=
    fun text blank member => absurd (blank ':' member) (by decide)
  by_cases colon : ':' ∈ trim declaration
  · rcases List.eq_append_cons_of_mem colon with ⟨name, value, inner, absent⟩
    have whole : declaration = (front ++ name) ++ ':' :: (value ++ back) := by
      rw [parts, ← trim, inner]
      simp
    have wholeAbsent : ':' ∉ front ++ name := by
      rw [List.mem_append, not_or]
      exact ⟨noColon front frontBlank, absent⟩
    rw [inner, whole]
    simp only [stateEntry, cutAt_append absent, cutAt_append wholeAbsent, Option.getD_some, trim,
      trimBy_class_append frontBlank, trimBy_append_class backBlank]
  · have wholeAbsent : ':' ∉ declaration := by
      rw [parts, List.mem_append, List.mem_append, not_or, not_or]
      exact ⟨noColon front frontBlank, colon, noColon back backBlank⟩
    have again : trim (trim declaration) = trim declaration :=
      trimBy_eq_self (fun _ => head?_trimBy) fun _ => getLast?_trimBy
    simp only [stateEntry, cutAt_of_not_mem colon, cutAt_of_not_mem wholeAbsent, again]

theorem stateEntry_ne_nil (declaration : Text) : stateEntry declaration ≠ [] :=
  List.cons_ne_nil ' ' _

theorem filter_stateEntry {keep : Char → Bool} (blanks : ∀ c, isBlank c = true → keep c = false)
    (written : ∀ c ∈ ":undefined".toList, keep c = false) (declaration : Text) :
    (stateEntry declaration).filter keep = declaration.filter keep := by
  have trimmed : ∀ text : Text, (trim text).filter keep = text.filter keep :=
    filter_trimBy_of_disjoint blanks
  have colon : keep ':' = false := written ':' (by decide)
  have space : keep ' ' = false := blanks ' ' (by decide)
  have shown : ∀ value : Text, (if (trim value).isEmpty then "undefined".toList else
      trim value).filter keep = value.filter keep := by
    intro value
    split
    · next empty =>
      rw [← trimmed value, List.isEmpty_iff.mp empty]
      exact List.filter_eq_nil_iff.mpr fun c member =>
        Bool.eq_false_iff.mp (written c (List.mem_cons_of_mem ':' member))
    · exact trimmed value
  have indent : "  ".toList.filter keep = [] := by simp [space]
  have mark : ": ".toList.filter keep = [] := by simp [colon, space]
  simp only [stateEntry, List.filter_append, indent, mark, trimmed, shown, List.nil_append,
    List.append_nil]
  exact filter_cutAt colon declaration

theorem mem_of_mem_stateEntry {declaration : Text} {c : Char} (other : c ∉ " :undefined".toList)
    (member : c ∈ stateEntry declaration) : c ∈ declaration := by
  simp only [stateEntry, List.mem_append] at member
  rcases member with ((isIndent | inName) | isColon) | inShown
  · have isBlank : c = ' ' := by simpa using isIndent
    exact absurd (isBlank ▸ by decide) other
  · exact mem_of_mem_cutAt_fst (mem_of_mem_trimBy inName)
  · have isMark : c = ':' ∨ c = ' ' := by simpa using isColon
    rcases isMark with rfl | rfl <;> exact absurd (by decide) other
  · split at inShown
    · exact absurd (List.mem_append_right " :".toList inShown) other
    · exact mem_of_mem_cutAt_snd (mem_of_mem_trimBy inShown)

theorem stateEntry_of_pair {name value : Text} (noColon : ':' ∉ name)
    (nameTrimmed : trim name = name) (valueTrimmed : trim value = value) (filled : value ≠ []) :
    stateEntry (name ++ ':' :: value) = "  ".toList ++ name ++ ": ".toList ++ value := by
  have shown : ¬value.isEmpty = true := by
    rw [List.isEmpty_iff]
    exact filled
  simp only [stateEntry, cutAt_append noColon, Option.getD_some, nameTrimmed, valueTrimmed,
    if_neg shown]

theorem stateEntry_of_name {name : Text} (noColon : ':' ∉ name) (trimmed : trim name = name) :
    stateEntry name = "  ".toList ++ name ++ ": ".toList ++ "undefined".toList := by
  have nothing : (trim []).isEmpty = true := rfl
  simp only [stateEntry, cutAt_of_not_mem noColon, Option.getD_none, trimmed, if_pos nothing]

theorem stateObject_eq_iff_entries {inner : Text} (oneLine : '\n' ∉ inner) {entries : List Text}
    (lines : ∀ entry ∈ entries, entry ≠ [] ∧ '\n' ∉ entry) :
    stateObject inner = "const state = \x7b\n".toList ++ join ",\n" entries ++
        "\n\x7d;".toList ↔ (fields isComma inner).map stateEntry = entries := by
  have joined : stateObject inner = "const state = \x7b\n".toList ++ join ",\n" entries ++
      "\n\x7d;".toList ↔
        join ",\n" ((fields isComma inner).map stateEntry) = join ",\n" entries := by
    unfold stateObject
    exact (List.append_left_inj _).trans (List.append_right_inj _)
  rw [joined]
  constructor
  · intro equal
    have parts : ",\n".toList = [','] ++ ['\n'] := rfl
    refine join_injective parts (by decide) ?_ lines equal
    refine List.forall_mem_map.mpr fun field isField => ⟨stateEntry_ne_nil field, fun isBreak => ?_⟩
    have inField := mem_of_mem_stateEntry (by decide) isBreak
    exact oneLine (mem_of_mem_fields isField inField)
  · intro equal
    rw [equal]

theorem stateObject_join {Item : Type} {items : List Item} {written shown : Item → Text}
    (passed : ∀ item ∈ items, ScanState.outside.after? isComma (written item) = some .outside)
    (filled : ∀ item ∈ items, trim (written item) ≠ [])
    (entry : ∀ item ∈ items, stateEntry (written item) = shown item) :
    stateObject (join "," (items.map written)) = "const state = \x7b\n".toList ++
      join ",\n" (items.map shown) ++ "\n\x7d;".toList := by
  have kept : ((items.map written).map trim).filter (fun piece => !piece.isEmpty) =
      (items.map written).map trim := by
    rw [List.filter_eq_self, List.map_map]
    refine List.forall_mem_map.mpr fun item member => ?_
    simpa using filled item member
  have entries : ((items.map written).map trim).map stateEntry = items.map shown := by
    rw [List.map_map, List.map_map]
    exact List.map_congr_left fun item member =>
      (stateEntry_trim (written item)).trans (entry item member)
  unfold stateObject
  rw [fields_join (List.forall_mem_map.mpr passed), kept, entries]

end SymbolScript.Construct
