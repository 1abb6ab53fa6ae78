import SymbolScript.Failure

/-!
Brackets of blocks. A block may be written with angle brackets or with braces; only brackets of
the kind that opened a block are counted when its end is looked for.
-/

namespace SymbolScript.Construct

def isOpener (c : Char) : Bool :=
  c == '⟨' || c == '{'

def isCloser (c : Char) : Bool :=
  c == '⟩' || c == '}'

def isBlockBracket (c : Char) : Bool :=
  isOpener c || isCloser c

def blockCloser? (opener : Char) : Option Char :=
  if opener = '⟨' then some '⟩' else if opener = '{' then some '}' else none

/-- Splits a text at the bracket that closes `depth + 1` brackets which are open in front of it:
the text before that bracket and the text after it. -/
def splitClose? (opener closer : Char) : Nat → Text → Option (Text × Text)
  | _, [] => none
  | depth, c :: rest =>
    let inner (next : Nat) :=
      (splitClose? opener closer next rest).map fun (before, after) => (c :: before, after)
    if c = opener then inner (depth + 1)
    else if c = closer then
      match depth with
      | 0 => some ([], rest)
      | depth + 1 => inner depth
    else inner depth

theorem splitClose?_append {opener closer : Char} {depth : Nat} {text before after : Text}
    (split : splitClose? opener closer depth text = some (before, after)) :
    before ++ closer :: after = text := by
  induction text generalizing depth before after with
  | nil => simp [splitClose?] at split
  | cons c rest induction =>
    have step : ∀ next,
        (splitClose? opener closer next rest).map (fun (inner, outer) => (c :: inner, outer)) =
          some (before, after) → before ++ closer :: after = c :: rest := by
      intro next mapped
      obtain ⟨⟨inner, outer⟩, found, equal⟩ := Option.map_eq_some_iff.mp mapped
      simp only [Prod.mk.injEq] at equal
      rw [← equal.1, ← equal.2, List.cons_append, induction found]
    unfold splitClose? at split
    split at split
    · exact step _ split
    · split at split
      · next closed =>
        split at split
        · simp only [Option.some.injEq, Prod.mk.injEq] at split
          simp [← split.1, ← split.2, closed]
        · exact step _ split
      · exact step _ split

theorem length_of_splitClose? {opener closer : Char} {depth : Nat} {text before after : Text}
    (split : splitClose? opener closer depth text = some (before, after)) :
    before.length < text.length ∧ after.length < text.length := by
  rw [← splitClose?_append split]
  simp only [List.length_append, List.length_cons]
  omega

/-! ## Rewriting blocks -/

/-- How the blocks of each mark are rewritten; a mark without an entry starts no block. -/
abbrev Handlers := Char → Option (Text → Text)

/-- Rewrites the blocks of a text that starts at the given offset. A block is its mark, an opening
bracket, an inner text and the closing bracket; its inner text is rewritten first. -/
def rewriteFrom (handlers : Handlers) (offset : Nat) (text : Text) : Except Failure Text :=
  match text with
  | [] => .ok []
  | [c] => .ok [c]
  | mark :: opener :: rest =>
    match handlers mark, blockCloser? opener with
    | some handler, some closer =>
      match _ : splitClose? opener closer 0 rest with
      | none => .error (.source (.unbalanced mark offset))
      | some (inner, after) => do
        let innerDone ← rewriteFrom handlers 0 inner
        let afterDone ← rewriteFrom handlers (offset + inner.length + 3) after
        return handler innerDone ++ afterDone
    | _, _ => (rewriteFrom handlers (offset + 1) (opener :: rest)).map (mark :: ·)
termination_by text.length
decreasing_by
  all_goals
    simp only [List.length_cons]
  · have shorter := length_of_splitClose? (by assumption)
    omega
  · have shorter := length_of_splitClose? (by assumption)
    omega
  · omega

def rewriteBlocks (handlers : Handlers) (text : Text) : Except Failure Text :=
  rewriteFrom handlers 0 text

end SymbolScript.Construct
