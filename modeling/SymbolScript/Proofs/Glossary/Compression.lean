import SymbolScript.Glossary.Expansion
import SymbolScript.Proofs.Glossary.Basic
import SymbolScript.Proofs.Text.Run

/-!
Expansion undoes compression. Compression puts characters of a glossary in place of whole words,
and each of these characters expands to its word again.
-/

namespace SymbolScript.Glossary

open Text

/-! ## Replacing runs -/

variable {glossary : Glossary}

theorem expand_mapRuns {rewrite : Text → Text}
    (same : ∀ run, glossary.expand (rewrite run) = glossary.expand run)
    (inClass : Char → Bool) (text : Text) :
    glossary.expand (mapRuns inClass rewrite text) = glossary.expand text := by
  induction text using runInduction inClass with
  | empty => rw [mapRuns]
  | other c rest outside induction =>
      rw [mapRuns_of_neg rewrite outside, ← List.singleton_append, expand_append, induction,
        ← expand_append, List.singleton_append]
  | run run rest isRun induction =>
      rw [isRun.mapRuns_append rewrite, expand_append, same, induction, ← expand_append]

theorem expand_replaceWord {c : Char} {word : Text}
    (spelled : glossary.expand [c] = glossary.expand word) (text : Text) :
    glossary.expand (replaceWord word [c] text) = glossary.expand text := by
  apply expand_mapRuns
  intro run
  by_cases equal : run = word
  · rw [if_pos equal, spelled, equal]
  · rw [if_neg equal]

/-! ## Compression -/

theorem expand_compress_of_spelled {words : Glossary}
    (spelled : ∀ entry ∈ words, glossary.expand [entry.1] = glossary.expand entry.2.toList)
    (text : Text) : glossary.expand (words.compress text) = glossary.expand text := by
  induction words generalizing text with
  | nil => rfl
  | cons entry rest induction =>
      rcases entry with ⟨c, word⟩
      have later := fun other member => spelled other (List.mem_cons_of_mem (c, word) member)
      rw [compress, List.foldl_cons]
      exact (induction later _).trans
        (expand_replaceWord (spelled (c, word) List.mem_cons_self) text)

theorem IsForeign.expand_compress (foreign : glossary.IsForeign)
    (unique : (glossary.map (·.1)).Nodup) {words : Glossary} (part : words ⊆ glossary)
    (text : Text) : glossary.expand (words.compress text) = glossary.expand text :=
  expand_compress_of_spelled (fun _ member => foreign.expand_char unique (part member)) text

/-! ## The two notations -/

def keywordEntries : Glossary :=
  keywords ++ symbolNames

def wordEntries : Glossary :=
  coreWords ++ technicalTerms ++ digitWords

theorem keywordEntries_foreign : keywordEntries.IsForeign := by
  decide

theorem wordEntries_foreign : wordEntries.IsForeign := by
  decide

theorem keywordEntries_unique : (keywordEntries.map (·.1)).Nodup := by
  decide

theorem wordEntries_unique : (wordEntries.map (·.1)).Nodup := by
  decide

theorem expandKeywords_eq (text : Text) : expandKeywords text = keywordEntries.expand text :=
  expand_expand keywords symbolNames text

theorem expandWords_eq (text : Text) : expandWords text = wordEntries.expand text := by
  rw [expandWords, expand_expand, expand_expand, ← List.append_assoc]
  rfl

theorem compressWords_eq (text : Text) : compressWords text = wordEntries.compress text := by
  rw [wordEntries, compress, List.foldl_append, List.foldl_append]
  rfl

theorem expandKeywords_compressKeywords (text : Text) :
    expandKeywords (compressKeywords text) = expandKeywords text := by
  rw [expandKeywords_eq, expandKeywords_eq]
  exact keywordEntries_foreign.expand_compress keywordEntries_unique
    (List.subset_append_left keywords symbolNames) text

theorem expandWords_compressWords (text : Text) :
    expandWords (compressWords text) = expandWords text := by
  rw [expandWords_eq, expandWords_eq, compressWords_eq]
  exact wordEntries_foreign.expand_compress wordEntries_unique (List.Subset.refl wordEntries) text

/-- Expanding a compressed text gives what expanding the text itself gives, so a text without the
characters of the glossaries is given back. -/
theorem expand_undoes_compress :
    (∀ text, expandKeywords (compressKeywords text) = expandKeywords text) ∧
    (∀ text, expandWords (compressWords text) = expandWords text) ∧
    (∀ text, (∀ entry ∈ keywords ++ symbolNames, entry.1 ∉ text) →
      expandKeywords (compressKeywords text) = text) ∧
    ∀ text, (∀ entry ∈ coreWords ++ technicalTerms ++ digitWords, entry.1 ∉ text) →
      expandWords (compressWords text) = text := by
  refine ⟨expandKeywords_compressKeywords, expandWords_compressWords, ?_, ?_⟩
  · intro text absent
    rw [expandKeywords_compressKeywords, expandKeywords_eq]
    exact expand_of_not_mem absent
  · intro text absent
    rw [expandWords_compressWords, expandWords_eq]
    exact expand_of_not_mem absent

theorem expand_undoes_compress_phrases :
    (∀ entry ∈ keywords ++ symbolNames, entry.1 ∉ "type of a_type".toList) ∧
      compressKeywords "type of a_type".toList = "型 of a_type".toList ∧
      expandKeywords (compressKeywords "type of a_type".toList) = "type of a_type".toList ∧
      (∀ entry ∈ coreWords ++ technicalTerms ++ digitWords, entry.1 ∉ "the code 5, 55".toList) ∧
      compressWords "the code 5, 55".toList = "的 碼 五, 55".toList ∧
      expandWords (compressWords "the code 5, 55".toList) = "the code 5, 55".toList := by
  have noKeyword : ∀ entry ∈ keywords ++ symbolNames, entry.1 ∉ "type of a_type".toList := by
    decide
  have noWord : ∀ entry ∈ coreWords ++ technicalTerms ++ digitWords,
      entry.1 ∉ "the code 5, 55".toList := by
    decide
  rcases expand_undoes_compress with ⟨_, _, keywordsBack, wordsBack⟩
  exact ⟨noKeyword, by decide +kernel, keywordsBack _ noKeyword, noWord, by decide +kernel,
    wordsBack _ noWord⟩

end SymbolScript.Glossary
