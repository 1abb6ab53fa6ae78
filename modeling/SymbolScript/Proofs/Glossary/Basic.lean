import SymbolScript.Glossary.Basic
import SymbolScript.Proofs.Text.Basic

/-!
Laws of expansion. The characters of the glossaries are foreign to ASCII and their words are in
ASCII, so a word that has been put into a text is not expanded again: to replace one entry after
another is to replace every character by itself.
-/

namespace SymbolScript.Glossary

open Text

/-! ## Expansion in general -/

theorem expand_cons (c : Char) (word : String) (rest : Glossary) (text : Text) :
    expand ((c, word) :: rest) text = expand rest (replaceChar c word.toList text) := rfl

theorem expand_append (glossary : Glossary) (left right : Text) :
    glossary.expand (left ++ right) = glossary.expand left ++ glossary.expand right := by
  induction glossary generalizing left right with
  | nil => rfl
  | cons entry rest induction =>
      rcases entry with ⟨c, word⟩
      rw [expand_cons, expand_cons, expand_cons, replaceChar, List.flatMap_append]
      exact induction _ _

theorem expand_expand (first second : Glossary) (text : Text) :
    second.expand (first.expand text) = (first ++ second).expand text :=
  List.foldl_append.symm

theorem expand_of_not_mem {glossary : Glossary} {text : Text}
    (absent : ∀ entry ∈ glossary, entry.1 ∉ text) : glossary.expand text = text := by
  induction glossary with
  | nil => rfl
  | cons entry rest induction =>
      rcases entry with ⟨c, word⟩
      rw [expand_cons, replaceChar_of_not_mem word.toList (absent (c, word) List.mem_cons_self)]
      exact induction fun other member => absent other (List.mem_cons_of_mem (c, word) member)

/-! ## Glossaries with words in ASCII -/

/-- Whether no character of a glossary can stand in a word of it, because the words are in ASCII and
the characters are not. -/
def IsForeign (glossary : Glossary) : Prop :=
  ∀ entry ∈ glossary, 128 ≤ entry.1.toNat ∧ IsAscii entry.2.toList

instance (glossary : Glossary) : Decidable glossary.IsForeign :=
  inferInstanceAs (Decidable (∀ entry ∈ glossary, _))

variable {glossary : Glossary}

theorem IsForeign.expand_of_ascii (foreign : glossary.IsForeign) {text : Text}
    (ascii : IsAscii text) : glossary.expand text = text :=
  expand_of_not_mem fun entry member => ascii.not_mem (foreign entry member).1

def spell (glossary : Glossary) (c : Char) : Text :=
  ((glossary.word? c).map String.toList).getD [c]

theorem spell_cons_self (c : Char) (word : String) (rest : Glossary) :
    spell ((c, word) :: rest) c = word.toList := by
  simp [spell, word?]

theorem spell_cons_of_ne {c other : Char} (different : c ≠ other) (word : String)
    (rest : Glossary) : spell ((c, word) :: rest) other = rest.spell other := by
  simp [spell, word?, different]

theorem IsForeign.expand_eq_flatMap (foreign : glossary.IsForeign) (text : Text) :
    glossary.expand text = text.flatMap glossary.spell := by
  induction glossary generalizing text with
  | nil => exact (List.flatMap_singleton' text).symm
  | cons entry rest induction =>
      rcases entry with ⟨c, word⟩
      have later : IsForeign rest := fun other member =>
        foreign other (List.mem_cons_of_mem (c, word) member)
      have ascii : IsAscii word.toList := (foreign (c, word) List.mem_cons_self).2
      have each : ∀ other, (if other = c then word.toList else [other]).flatMap (spell rest) =
          spell ((c, word) :: rest) other := by
        intro other
        by_cases equal : other = c
        · rw [if_pos equal, equal, spell_cons_self, ← induction later, later.expand_of_ascii ascii]
        · rw [if_neg equal, spell_cons_of_ne (Ne.symm equal), List.flatMap_singleton]
      rw [expand_cons, induction later, replaceChar, List.flatMap_assoc]
      exact List.flatMap_congr fun other _ => each other

theorem spell_of_mem (unique : (glossary.map (·.1)).Nodup) {c : Char} {word : String}
    (member : (c, word) ∈ glossary) : glossary.spell c = word.toList := by
  induction glossary with
  | nil => cases member
  | cons entry rest induction =>
      rcases List.nodup_cons.mp unique with ⟨fresh, later⟩
      rcases List.mem_cons.mp member with rfl | inRest
      · exact spell_cons_self c word rest
      · have different : entry.1 ≠ c := fun equal =>
          fresh (List.mem_map.mpr ⟨(c, word), inRest, equal.symm⟩)
        rw [spell_cons_of_ne different, induction later inRest]

theorem IsForeign.expand_char (foreign : glossary.IsForeign)
    (unique : (glossary.map (·.1)).Nodup) {c : Char} {word : String}
    (member : (c, word) ∈ glossary) :
    glossary.expand [c] = glossary.expand word.toList := by
  rw [foreign.expand_of_ascii (foreign (c, word) member).2, foreign.expand_eq_flatMap,
    List.flatMap_singleton, spell_of_mem unique member]

theorem IsForeign.spell_cases (foreign : glossary.IsForeign) (c : Char) :
    IsAscii (glossary.spell c) ∨ (glossary.spell c = [c] ∧ ∀ entry ∈ glossary, entry.1 ≠ c) := by
  induction glossary with
  | nil => exact .inr ⟨rfl, fun _ member => nomatch member⟩
  | cons entry rest induction =>
      rcases entry with ⟨first, word⟩
      have later : IsForeign rest := fun other member =>
        foreign other (List.mem_cons_of_mem (first, word) member)
      by_cases equal : first = c
      · left
        rw [equal, spell_cons_self]
        exact (foreign (first, word) List.mem_cons_self).2
      · rw [spell_cons_of_ne equal]
        refine (induction later).imp_right fun ⟨kept, absent⟩ => ⟨kept, ?_⟩
        exact List.forall_mem_cons.mpr ⟨equal, absent⟩

theorem IsForeign.not_mem_expand (foreign : glossary.IsForeign) (text : Text)
    {entry : Char × String} (member : entry ∈ glossary) : entry.1 ∉ glossary.expand text := by
  rw [foreign.expand_eq_flatMap]
  intro left
  rcases List.mem_flatMap.mp left with ⟨c, _, spelled⟩
  rcases foreign.spell_cases c with ascii | ⟨kept, absent⟩
  · exact ascii.not_mem (foreign entry member).1 spelled
  · rw [kept, List.mem_singleton] at spelled
    exact absent entry member spelled

end SymbolScript.Glossary
