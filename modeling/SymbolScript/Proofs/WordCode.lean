import SymbolScript.Proofs.Positional
import SymbolScript.Proofs.Text.Run
import SymbolScript.WordCode

/-!
Word codes in texts. A text without subscripts is encoded run by run, and each code ends where its
run did, because nothing that follows can be part of its index. So decoding finds the codes that
were written and no others.
-/

namespace SymbolScript.WordCode

open Text

/-! ## The subscripts of a code -/

def subscripts (index : Nat) : Text :=
  (Decimal.ofNat index).map subscript

theorem code_eq (index : Nat) : code index = 'w' :: subscripts index := rfl

theorem subscript_digitChar : ∀ digit < 10,
    isSubscript (subscript (Decimal.digitChar digit)) = true ∧
      (subscript (Decimal.digitChar digit)).isAlpha = false ∧
      (subscript (Decimal.digitChar digit)).toNat - 0x2080 = digit := by
  decide

theorem exists_digit_of_mem {index : Nat} {c : Char} (member : c ∈ subscripts index) :
    ∃ digit < 10, c = subscript (Decimal.digitChar digit) := by
  rw [subscripts, Decimal.ofNat, List.map_map] at member
  rcases List.mem_map.mp member with ⟨digit, isDigit, rfl⟩
  exact ⟨digit, Positional.lt_of_mem_digits (by decide) isDigit, rfl⟩

theorem subscripts_ne_nil (index : Nat) : subscripts index ≠ [] := by
  simpa [subscripts, Decimal.ofNat] using Positional.digits_ne_nil 10 index

theorem isSubscript_of_mem {index : Nat} {c : Char} (member : c ∈ subscripts index) :
    isSubscript c = true := by
  rcases exists_digit_of_mem member with ⟨digit, small, rfl⟩
  exact (subscript_digitChar digit small).1

theorem isAlpha_of_mem {index : Nat} {c : Char} (member : c ∈ subscripts index) :
    c.isAlpha = false := by
  rcases exists_digit_of_mem member with ⟨digit, small, rfl⟩
  exact (subscript_digitChar digit small).2.1

theorem values_subscripts (index : Nat) :
    (subscripts index).map (fun c => c.toNat - 0x2080) = Positional.digits 10 index := by
  have each : ∀ digit ∈ Positional.digits 10 index,
      (subscript (Decimal.digitChar digit)).toNat - 0x2080 = digit := by
    intro digit isDigit
    exact (subscript_digitChar digit (Positional.lt_of_mem_digits (by decide) isDigit)).2.2
  calc (subscripts index).map (fun c => c.toNat - 0x2080)
    _ = (Positional.digits 10 index).map fun digit =>
          (subscript (Decimal.digitChar digit)).toNat - 0x2080 := by
        simp only [subscripts, Decimal.ofNat, List.map_map, Function.comp_def]
    _ = (Positional.digits 10 index).map id := List.map_congr_left each
    _ = Positional.digits 10 index := List.map_id _

theorem readIndex_subscripts {index : Nat}
    (short : (subscripts index).length ≤ Decimal.digitLimit) :
    readIndex (subscripts index) = .ok index := by
  rw [readIndex, if_neg (Nat.not_lt.mpr short), values_subscripts, Positional.read_digits]

/-! ## The indexed words -/

theorem indices_small : ∀ entry ∈ indices, entry.2 < 10 ^ 3 := by
  decide

theorem wordAt?_index : ∀ entry ∈ indices, wordAt? entry.2 = some entry.1.toList := by
  decide

theorem spellCode_index {entry : String × Nat} (member : entry ∈ indices) :
    spellCode (subscripts entry.2) = .ok entry.1.toList := by
  have short : (subscripts entry.2).length ≤ Decimal.digitLimit := by
    have few := Positional.length_digitsOnto_le (by decide) (indices_small entry member) []
    rw [subscripts, Decimal.ofNat, List.length_map, List.length_map, Positional.digits]
    exact few.trans (by decide)
  rw [spellCode, readIndex_subscripts short]
  simp only [bind, Except.bind, pure, Except.pure, wordAt?_index entry member, Option.getD_some]

/-- Whether a word has an index. -/
def IsIndexed (word : Text) : Prop :=
  ∃ entry ∈ indices, entry.1.toList = word

instance (word : Text) : Decidable (IsIndexed word) :=
  inferInstanceAs (Decidable (∃ entry ∈ indices, entry.1.toList = word))

theorem encodeWord_cases (run : Text) :
    (∃ entry ∈ indices, entry.1.toList = lowercase run ∧ encodeWord run = code entry.2) ∨
      ¬IsIndexed (lowercase run) ∧ encodeWord run = run := by
  rw [encodeWord, indexOf?]
  cases found : indices.find? (fun entry => entry.1.toList == lowercase run) with
  | none =>
      refine .inr ⟨?_, rfl⟩
      rintro ⟨entry, member, equal⟩
      simpa [equal] using List.find?_eq_none.mp found entry member
  | some entry =>
      have equal : entry.1.toList = lowercase run := by simpa using List.find?_some found
      exact .inl ⟨entry, List.mem_of_find?_eq_some found, equal, rfl⟩

/-! ## Codes in a text -/

theorem takeCode?_subscripts (index : Nat) {rest : Text}
    (stop : ∀ c, rest.head? = some c → isSubscript c = false) :
    takeCode? (code index ++ rest) = some (subscripts index, rest) := by
  have inside : ∀ c ∈ subscripts index, isSubscript c = true := fun _ => isSubscript_of_mem
  have taken := takeRun_append inside stop
  cases shown : subscripts index with
  | nil => exact absurd shown (subscripts_ne_nil index)
  | cons c others =>
      rw [shown] at taken
      rw [code_eq, shown, List.cons_append, takeCode?, taken]

theorem takeCode?_of_stop (c : Char) {rest : Text}
    (stop : ∀ d, rest.head? = some d → isSubscript d = false) : takeCode? (c :: rest) = none := by
  have empty : ∀ d ∈ ([] : Text), isSubscript d = true := fun _ member => nomatch member
  have taken := takeRun_append empty stop
  unfold takeCode?
  split
  · next equal =>
    cases equal
    rw [List.nil_append] at taken
    rw [taken]
  · rfl

theorem codes_startsWith : codes.StartsWith ['w'] := by
  intro c rest other
  change takeCode? (c :: rest) = none
  unfold takeCode?
  split
  · next equal =>
    cases equal
    simp at other
  · rfl

theorem decodeWords_code {entry : String × Nat} (member : entry ∈ indices) {rest : Text}
    (stop : ∀ c, rest.head? = some c → isSubscript c = false) :
    decodeWords (code entry.2 ++ rest) = (decodeWords rest).map (entry.1.toList ++ ·) := by
  have taken : codes.take (code entry.2 ++ rest) = some (subscripts entry.2, rest) :=
    takeCode?_subscripts entry.2 stop
  rw [decodeWords, codes.replaceOr_of_found spellCode taken, spellCode_index member, decodeWords]
  cases codes.replaceOr spellCode rest <;> rfl

theorem decodeWords_append {before : Text} (plain : ∀ c ∈ before, isSubscript c = false)
    {rest : Text} (stop : ∀ c, rest.head? = some c → isSubscript c = false) :
    decodeWords (before ++ rest) = (decodeWords rest).map (before ++ ·) := by
  apply codes.replaceOr_append_of_plain
  rintro left c right rfl
  apply takeCode?_of_stop
  intro d first
  cases right with
  | nil => exact stop d first
  | cons e right =>
      cases first
      exact plain d (by simp)

/-! ## Decoding what was encoded -/

/-- What a run of letters comes back as: an indexed word in lower case, and any other run as
itself. -/
inductive Restores : Text → Text → Prop
  | indexed {run : Text} (indexed : IsIndexed (lowercase run)) : Restores run (lowercase run)
  | other {run : Text} (unindexed : ¬IsIndexed (lowercase run)) : Restores run run

def restored (run : Text) : Text :=
  if IsIndexed (lowercase run) then lowercase run else run

theorem restores_iff (run shown : Text) : Restores run shown ↔ restored run = shown := by
  rw [restored]
  constructor
  · intro restores
    cases restores with
    | indexed indexed => rw [if_pos indexed]
    | other unindexed => rw [if_neg unindexed]
  · rintro rfl
    split
    · next indexed => exact .indexed indexed
    · next unindexed => exact .other unindexed

theorem decodeWords_encodeWord {run rest : Text} (plain : ∀ c ∈ run, isSubscript c = false)
    (stop : ∀ c, rest.head? = some c → isSubscript c = false) :
    decodeWords (encodeWord run ++ rest) = (decodeWords rest).map (restored run ++ ·) := by
  rcases encodeWord_cases run with ⟨entry, member, equal, encoded⟩ | ⟨unindexed, encoded⟩
  · have indexed : IsIndexed (lowercase run) := ⟨entry, member, equal⟩
    rw [encoded, decodeWords_code member stop, restored, if_pos indexed, equal]
  · rw [encoded, decodeWords_append plain stop, restored, if_neg unindexed]

theorem decodeWords_encodeWords_eq {text : Text} (plain : ∀ c ∈ text, isSubscript c = false) :
    decodeWords (encodeWords text) = .ok (mapRuns Char.isAlpha restored text) := by
  rw [encodeWords]
  induction text using runInduction Char.isAlpha with
  | empty => simp [mapRuns, decodeWords]
  | other c rest outside induction =>
      rcases List.forall_mem_cons.mp plain with ⟨_, later⟩
      have noMark : c ∉ ['w'] := by
        rw [List.mem_singleton]
        rintro rfl
        cases outside
      rw [mapRuns_of_neg encodeWord outside, decodeWords,
        codes.replaceOr_of_plain spellCode (codes_startsWith c _ noMark), ← decodeWords,
        induction later, mapRuns_of_neg restored outside]
      rfl
  | run run rest isRun induction =>
      rcases List.forall_mem_append.mp plain with ⟨inRun, later⟩
      have stop : ∀ c, (mapRuns Char.isAlpha encodeWord rest).head? = some c →
          isSubscript c = false := by
        rw [head?_mapRuns encodeWord isRun.stop]
        exact fun c first => later c (List.mem_of_head? first)
      rw [isRun.mapRuns_append encodeWord, decodeWords_encodeWord inRun stop, induction later,
        isRun.mapRuns_append restored]
      rfl

/-! ## Encoding twice -/

theorem encodeWord_mark : encodeWord ['w'] = ['w'] := by
  decide

theorem encodeWords_encodeWords (text : Text) :
    encodeWords (encodeWords text) = encodeWords text := by
  refine mapRuns_mapRuns ?_ text
  intro run rest isRun
  rcases encodeWord_cases run with ⟨entry, _, _, encoded⟩ | ⟨_, encoded⟩
  · have noLetter : ∀ c ∈ subscripts entry.2, c.isAlpha = false := fun _ => isAlpha_of_mem
    have mark : IsRun Char.isAlpha ['w'] (subscripts entry.2 ++ rest) :=
      { filled := List.cons_ne_nil _ _
        inside := by decide
        stop := by
          intro c first
          rw [List.head?_append_of_ne_nil _ (subscripts_ne_nil entry.2)] at first
          exact noLetter c (List.mem_of_head? first) }
    have parts : code entry.2 ++ rest = ['w'] ++ (subscripts entry.2 ++ rest) := rfl
    rw [encoded, parts, mark.mapRuns_append, encodeWord_mark, mapRuns_append_of_outside _ noLetter]
    rfl
  · rw [encoded, isRun.mapRuns_append, encoded]

/-! ## Round trip -/

/-- Encoding a text without subscripts and decoding it again gives the text with its indexed words
in lower case, and so the text itself if they were in lower case. Encoding twice is encoding
once. -/
theorem decodeWords_encodeWords :
    (∀ text, (∀ c ∈ text, isSubscript c = false) →
      ∃ result, decodeWords (encodeWords text) = .ok result ∧
        (∀ other, RunsShown Char.isAlpha Restores text other ↔ other = result) ∧
        ((∀ run ∈ runs Char.isAlpha text, IsIndexed (lowercase run) → lowercase run = run) →
          result = text)) ∧
    ∀ text, encodeWords (encodeWords text) = encodeWords text := by
  refine ⟨fun text plain => ⟨_, decodeWords_encodeWords_eq plain, ?_, ?_⟩, encodeWords_encodeWords⟩
  · intro other
    rw [runsShown_iff restored restores_iff, eq_comm]
  · intro lower
    apply mapRuns_eq_self
    intro run isRun
    rw [restored]
    split
    · next indexed => exact lower run isRun indexed
    · rfl

theorem decodeWords_encodeWords_mixed :
    (∀ c ∈ "Wow2the".toList, isSubscript c = false) ∧
      (∀ run ∈ runs Char.isAlpha "Wow2the".toList,
        IsIndexed (lowercase run) → lowercase run = run) ∧
      encodeWords "Wow2the".toList = "Wow2w₀".toList ∧
      decodeWords (encodeWords "Wow2the".toList) = .ok "Wow2the".toList := by
  have plain : ∀ c ∈ "Wow2the".toList, isSubscript c = false := by decide
  have lower : ∀ run ∈ runs Char.isAlpha "Wow2the".toList,
      IsIndexed (lowercase run) → lowercase run = run := by
    decide +kernel
  rcases decodeWords_encodeWords.1 _ plain with ⟨result, decoded, _, same⟩
  exact ⟨plain, lower, by decide +kernel, by rw [decoded, same lower]⟩

end SymbolScript.WordCode
