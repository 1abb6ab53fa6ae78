import SymbolScript.Construct.Bracket
import SymbolScript.Text.Recogniser

/-!
Tagged blocks: a tag with a header in brackets, a body, and the tag again after a slash in
brackets. The body ends at the first closing tag, so a block may hold blocks of other tags only.
-/

namespace SymbolScript.Construct

def startsClosingTag (tag : Char) : Text → Bool
  | opener :: '/' :: c :: closer :: _ => isOpener opener && c == tag && isCloser closer
  | _ => false

/-- Splits a text at the first closing tag: the text before it and the text after it. -/
def splitClosingTag? (tag : Char) : Text → Option (Text × Text)
  | [] => none
  | c :: rest =>
    if startsClosingTag tag (c :: rest) then some ([], rest.drop 3)
    else (splitClosingTag? tag rest).map fun (before, after) => (c :: before, after)

theorem length_of_splitClosingTag? {tag : Char} {text before after : Text}
    (split : splitClosingTag? tag text = some (before, after)) :
    after.length < text.length := by
  induction text generalizing before after with
  | nil => simp [splitClosingTag?] at split
  | cons c rest induction =>
    unfold splitClosingTag? at split
    split at split
    · simp only [Option.some.injEq, Prod.mk.injEq] at split
      rw [← split.2, List.length_drop, List.length_cons]
      omega
    · obtain ⟨⟨inner, outer⟩, found, equal⟩ := Option.map_eq_some_iff.mp split
      simp only [Prod.mk.injEq] at equal
      have shorter := induction found
      rw [← equal.2, List.length_cons]
      omega

/-! ## Headers -/

/-- Takes a header with a name and an optional parameter list off the front of a text. The name is
not empty and holds no comma, no block bracket and no excluded character; a header without
parameters counts as one with an empty list. -/
def takeHeader? (isExcluded : Char → Bool) : Text → Option ((Text × Text) × Text)
  | opener :: body =>
    if isOpener opener then
      let isNameChar := fun c => !isBlockBracket c && c != ',' && !isExcluded c
      match Text.takeRun isNameChar body with
      | ([], _) => none
      | (name, ',' :: list) =>
        match Text.takeRun (fun c => !isBlockBracket c) list with
        | (parameters, closer :: rest) =>
          if isCloser closer then some ((name, parameters), rest) else none
        | (_, []) => none
      | (name, closer :: rest) => if isCloser closer then some ((name, []), rest) else none
      | (_, []) => none
    else none
  | [] => none

theorem length_of_takeHeader? {isExcluded : Char → Bool} {text rest : Text}
    {header : Text × Text} (taken : takeHeader? isExcluded text = some (header, rest)) :
    rest.length < text.length := by
  unfold takeHeader? at taken
  split at taken
  · next opener body =>
    have fits := Text.length_takeRun_le
      (fun c => !isBlockBracket c && c != ',' && !isExcluded c) body
    split at taken
    · simp only at taken
      split at taken
      · simp at taken
      · next list _ run =>
        have listFits := Text.length_takeRun_le (fun c => !isBlockBracket c) list
        rw [run] at fits
        split at taken
        · next listRun =>
          rw [listRun] at listFits
          split at taken
          · simp only [Option.some.injEq, Prod.mk.injEq] at taken
            rw [← taken.2]
            simp only [List.length_cons] at fits listFits ⊢
            omega
          · simp at taken
        · simp at taken
      · next run =>
        rw [run] at fits
        split at taken
        · simp only [Option.some.injEq, Prod.mk.injEq] at taken
          rw [← taken.2]
          simp only [List.length_cons] at fits ⊢
          omega
        · simp at taken
      · simp at taken
    · simp at taken
  · simp at taken

/-! ## Blocks -/

structure TaggedBlock where
  name : Text
  parameters : Text
  body : Text
deriving DecidableEq, Repr

def takeBlock? (isTag isExcluded : Char → Bool) : Text → Option (TaggedBlock × Text)
  | tag :: rest =>
    if isTag tag then
      match takeHeader? isExcluded rest with
      | none => none
      | some ((name, parameters), afterHeader) =>
        (splitClosingTag? tag afterHeader).map fun (body, after) =>
          (⟨name, parameters, body⟩, after)
    else none
  | [] => none

def taggedBlocks (isTag isExcluded : Char → Bool) : Text.Recogniser TaggedBlock where
  take := takeBlock? isTag isExcluded
  shorter := by
    intro text found rest taken
    unfold takeBlock? at taken
    split at taken
    · split at taken
      · split at taken
        · simp at taken
        · next header =>
          obtain ⟨⟨body, after⟩, split, equal⟩ := Option.map_eq_some_iff.mp taken
          simp only [Prod.mk.injEq] at equal
          have headerShorter := length_of_takeHeader? header
          have bodyShorter := length_of_splitClosingTag? split
          rw [← equal.2, List.length_cons]
          omega
      · simp at taken
    · simp at taken

end SymbolScript.Construct
