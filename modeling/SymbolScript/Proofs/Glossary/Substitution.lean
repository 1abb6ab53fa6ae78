import SymbolScript.Glossary.Fallback
import SymbolScript.Proofs.Glossary.Compression
import SymbolScript.Proofs.Pipeline.Stages

/-!
Expansion is substitution. The glossaries of an expansion are worked off one entry after another,
each on what the entries before it have left, and yet the result is the same as if all characters
had been replaced at once, each by its word in the first glossary that has one. It follows that
texts are expanded part by part and once and for all, and that the order of the entries does not
matter.
-/

namespace SymbolScript

open Text

namespace Glossary

/-! ## Substitution -/

/-- The word of a character in the first glossary that has one, or the character itself. -/
def spellIn (glossaries : List Glossary) (c : Char) : Text :=
  match glossaries.findSome? (·.word? c) with
  | some word => word.toList
  | none => [c]

/-- Puts their words in place of all characters at once. -/
def substitute (glossaries : List Glossary) (text : Text) : Text :=
  text.flatMap (spellIn glossaries)

theorem word?_flatten (glossaries : List Glossary) (c : Char) :
    word? glossaries.flatten c = glossaries.findSome? (·.word? c) := by
  simp only [word?, List.find?_flatten, List.map_findSome?]
  rfl

theorem spell_flatten (glossaries : List Glossary) (c : Char) :
    spell glossaries.flatten c = spellIn glossaries c := by
  rw [spell, word?_flatten, spellIn]
  cases glossaries.findSome? (·.word? c) <;> rfl

theorem foldl_expand (glossaries : List Glossary) (text : Text) :
    glossaries.foldl (fun text glossary => glossary.expand text) text =
      expand glossaries.flatten text :=
  List.foldl_flatten.symm

/-! ## The order of the entries -/

variable {glossary entries : Glossary}

theorem spell_of_not_mem {c : Char} (absent : ∀ entry ∈ glossary, entry.1 ≠ c) :
    glossary.spell c = [c] := by
  have unknown : glossary.find? (·.1 == c) = none :=
    List.find?_eq_none.mpr fun entry member => by simpa using absent entry member
  rw [spell, word?, unknown]
  rfl

theorem spell_perm (unique : (glossary.map (·.1)).Nodup) (same : entries.Perm glossary) (c : Char) :
    entries.spell c = glossary.spell c := by
  by_cases known : ∃ word, (c, word) ∈ glossary
  · rcases known with ⟨word, member⟩
    have uniqueToo : (entries.map (·.1)).Nodup := (same.map _).nodup_iff.mpr unique
    rw [spell_of_mem unique member, spell_of_mem uniqueToo (same.mem_iff.mpr member)]
  · have absent : ∀ entry ∈ glossary, entry.1 ≠ c := by
      rintro ⟨_, word⟩ member rfl
      exact known ⟨word, member⟩
    rw [spell_of_not_mem absent,
      spell_of_not_mem fun entry member => absent entry (same.mem_iff.mp member)]

theorem IsForeign.perm (foreign : glossary.IsForeign) (same : entries.Perm glossary) :
    entries.IsForeign :=
  fun entry member => foreign entry (same.mem_iff.mp member)

theorem IsForeign.expand_perm (foreign : glossary.IsForeign)
    (unique : (glossary.map (·.1)).Nodup) (same : entries.Perm glossary) (text : Text) :
    entries.expand text = glossary.expand text := by
  rw [(foreign.perm same).expand_eq_flatMap, foreign.expand_eq_flatMap]
  exact List.flatMap_congr fun c _ => spell_perm unique same c

theorem IsForeign.expand_expand (foreign : glossary.IsForeign) (text : Text) :
    glossary.expand (glossary.expand text) = glossary.expand text :=
  expand_of_not_mem fun _ member => foreign.not_mem_expand text member

end Glossary

/-! ## The expansions -/

inductive Expansion
  | source
  | keywords
  | words
  | fallback (level : FallbackLevel)
deriving DecidableEq, Repr

namespace Expansion

open Glossary

/-- The glossaries of an expansion in the order in which they are worked off. -/
def glossaries : Expansion → List Glossary
  | source => [sourceSymbols]
  | keywords => [Glossary.keywords, symbolNames]
  | words => [coreWords, technicalTerms, digitWords]
  | fallback level => [Fallback.glossary level]

def apply : Expansion → Text → Text
  | source => Construct.substituteSymbols
  | keywords => expandKeywords
  | words => expandWords
  | fallback level => Fallback.apply level

def entries (expansion : Expansion) : Glossary :=
  expansion.glossaries.flatten

theorem apply_eq_expand (expansion : Expansion) (text : Text) :
    expansion.apply text = expansion.entries.expand text := by
  rw [entries, ← foldl_expand]
  cases expansion <;>
    simp only [apply, glossaries, List.foldl_cons, List.foldl_nil, Construct.substituteSymbols,
      expandKeywords, expandWords, Fallback.apply]

theorem entries_foreign (expansion : Expansion) : expansion.entries.IsForeign := by
  cases expansion with
  | source => simpa [entries, glossaries] using sourceSymbols_foreign
  | keywords => simpa [entries, glossaries, keywordEntries] using keywordEntries_foreign
  | words => simpa [entries, glossaries, wordEntries] using wordEntries_foreign
  | fallback level => cases level <;> decide

theorem entries_unique (expansion : Expansion) : (expansion.entries.map (·.1)).Nodup := by
  cases expansion with
  | source => decide
  | keywords => simpa [entries, glossaries, keywordEntries] using keywordEntries_unique
  | words => simpa [entries, glossaries, wordEntries] using wordEntries_unique
  | fallback level => cases level <;> decide

theorem applyNamed_spelling (level : FallbackLevel) (text : Text) :
    Fallback.applyNamed level.spelling.toList text = .ok ((fallback level).apply text) := by
  cases level <;> rfl

/-- Every expansion, at every named level of stand-ins too, substitutes all its characters at once.
So it changes nothing the second time, goes part by part, gives the same for its entries in any
order, and leaves none of their characters. -/
theorem apply_eq_substitute :
    (∀ (level : FallbackLevel) (text : Text),
      Fallback.applyNamed level.spelling.toList text = .ok ((fallback level).apply text)) ∧
    ∀ expansion : Expansion,
      (∀ text, expansion.apply text = substitute expansion.glossaries text) ∧
      (∀ text, expansion.apply (expansion.apply text) = expansion.apply text) ∧
      (∀ left right, expansion.apply (left ++ right) =
        expansion.apply left ++ expansion.apply right) ∧
      (∀ reordered : Glossary, reordered.Perm expansion.glossaries.flatten →
        ∀ text, reordered.expand text = expansion.apply text) ∧
      ∀ text, ∀ glossary ∈ expansion.glossaries, ∀ entry ∈ glossary,
        entry.1 ∉ expansion.apply text := by
  refine ⟨applyNamed_spelling, fun expansion => ?_⟩
  have foreign := expansion.entries_foreign
  simp only [apply_eq_expand]
  refine ⟨?_, foreign.expand_expand, expand_append _, ?_, ?_⟩
  · intro text
    rw [foreign.expand_eq_flatMap]
    exact List.flatMap_congr fun c _ => spell_flatten expansion.glossaries c
  · exact fun reordered same => foreign.expand_perm expansion.entries_unique same
  · intro text glossary isGlossary entry member
    exact foreign.not_mem_expand text (List.mem_flatten.mpr ⟨glossary, isGlossary, member⟩)

theorem apply_eq_substitute_reversed :
    words.glossaries.flatten.reverse.Perm words.glossaries.flatten ∧
      expand words.glossaries.flatten.reverse ['三', '的', '碼'] = words.apply ['三', '的', '碼'] ∧
      technicalTerms ∈ words.glossaries ∧ ('碼', "code") ∈ technicalTerms ∧
      '碼' ∉ words.apply ['三', '的', '碼'] := by
  have reversed := List.reverse_perm words.glossaries.flatten
  have isGlossary : technicalTerms ∈ words.glossaries := by simp [glossaries]
  have member : ('碼', "code") ∈ technicalTerms := by decide
  rcases apply_eq_substitute.2 words with ⟨_, _, _, anyOrder, noneLeft⟩
  exact ⟨reversed, anyOrder _ reversed _, isGlossary, member, noneLeft _ _ isGlossary _ member⟩

end Expansion

end SymbolScript
