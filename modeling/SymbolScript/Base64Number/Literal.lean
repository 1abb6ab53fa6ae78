import SymbolScript.Base64Number.Basic
import SymbolScript.Text.Recogniser

/-! Base-64 literals: a run of base-64 digits between angle brackets after a number sign. -/

namespace SymbolScript.Base64Number

def literal (digits : Text) : Text :=
  '#' :: '⟨' :: digits ++ ['⟩']

def takeLiteral? : Text → Option (Text × Text)
  | '#' :: '⟨' :: body =>
    match Text.takeRun isDigit body with
    | (c :: digits, '⟩' :: rest) => some (c :: digits, rest)
    | _ => none
  | _ => none

def literals : Text.Recogniser Text where
  take := takeLiteral?
  shorter := by
    intro text found rest taken
    unfold takeLiteral? at taken
    split at taken
    · next body =>
      split at taken
      · next c digits after run =>
        have fits := Text.length_takeRun_le isDigit body
        rw [run] at fits
        simp only [Option.some.injEq, Prod.mk.injEq] at taken
        simp only [List.length_cons] at fits ⊢
        rw [← taken.2]
        omega
      · simp at taken
    · simp at taken

def encodeLiteral (number : Int) : Except Failure Text :=
  (encode number).map literal

def decodeLiteral (text : Text) : Except Failure Nat :=
  match literals.first? text with
  | none => .error (.number (.noBase64Literal text))
  | some digits => decode digits

example : literals.all "a#⟨BA⟩#⟨⟩#⟨K⟩".toList = ["BA".toList, "K".toList] := by decide +kernel

end SymbolScript.Base64Number
