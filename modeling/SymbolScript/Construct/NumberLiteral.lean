import SymbolScript.Base64Number.Literal
import SymbolScript.VectorNumber.Literal

/-!
Number literals in a source text: decimal digits continued by one circled digit, base-64 literals,
and vector literals. Each is replaced by the number it stands for, as JavaScript spells it.
-/

namespace SymbolScript.Construct

def circledValue? (c : Char) : Option Nat :=
  if c = '⑩' then some 10 else (VectorNumber.circledGlyphs.idxOf? c).map (· + 1)

/-- Takes a run of decimal digits, a cross and one circled glyph off the front of a text. -/
def takeComposite? (text : Text) : Option ((Text × Nat) × Text) :=
  match Text.takeRun Text.isDigit text with
  | (d :: digits, '⊗' :: c :: rest) =>
    (circledValue? c).map fun value => ((d :: digits, value), rest)
  | _ => none

def composites : Text.Recogniser (Text × Nat) where
  take := takeComposite?
  shorter := by
    intro text found rest taken
    have fits := Text.length_takeRun_le Text.isDigit text
    unfold takeComposite? at taken
    split at taken
    · next run =>
      rw [run] at fits
      simp only [Option.map_eq_some_iff, Prod.mk.injEq] at taken
      obtain ⟨_, _, _, rfl⟩ := taken
      simp only [List.length_cons] at fits
      omega
    · simp at taken

def spellComposite (literal : Text × Nat) : Text :=
  literal.1 ++ Decimal.ofNat literal.2

def spellBase64 (digits : Text) : Except Failure Text := do
  Decimal.write (← Base64Number.decode digits)

def spellVector (literal : Text) : Except Failure Text := do
  (← VectorNumber.decode literal).spelled

def decodeNumbers (source : Text) : Except Failure Text := do
  let joined := composites.replace spellComposite source
  let decoded ← Base64Number.literals.replaceOr spellBase64 joined
  VectorNumber.literals.replaceOr spellVector decoded

end SymbolScript.Construct
