import SymbolScript.Text.Recogniser
import SymbolScript.VectorNumber.Basic

/-! Vector literals in a longer text: how far a vector number reaches from its cross. -/

namespace SymbolScript.VectorNumber

/-- The constants that may be followed by anything. -/
def isFreeConstant (c : Char) : Bool :=
  "π∞⊤⊥½¼¾⅓⅔⑩".toList.contains c

/-- Takes digit glyphs, with a cross between two of them allowed. -/
def takeDigits : Text → Text × Text
  | [] => ([], [])
  | c :: rest =>
    if isGlyph c || (c == cross && rest.head?.any isGlyph) then
      let (digits, after) := takeDigits rest
      (c :: digits, after)
    else ([], c :: rest)

/-- Takes the glyphs of a constant or of a whole number. The constant `e` may not be followed by
an ASCII letter. -/
def takeWhole? : Text → Option (Text × Text)
  | [] => none
  | c :: rest =>
    if isFreeConstant c || c == hundred then some ([c], rest)
    else if c = 'e' then
      if rest.head?.any Char.isAlpha then none else some ([c], rest)
    else if c = ten then
      match rest with
      | unit :: after =>
        if isPlainGlyph unit then some ([c, unit], after) else some ([c], rest)
      | [] => some ([c], rest)
    else if isGlyph c then
      let (digits, after) := takeDigits rest
      some (c :: digits, after)
    else none

def takeFraction (text : Text) : Text × Text :=
  match text with
  | '.' :: '⊗' :: rest =>
    match Text.takeRun isPlainGlyph rest with
    | ([], _) => ([], text)
    | (digits, after) => ('.' :: '⊗' :: digits, after)
  | '.' :: rest =>
    match Text.takeRun isPlainGlyph rest with
    | ([], _) => ([], text)
    | (digits, after) => ('.' :: digits, after)
  | _ => ([], text)

def takeMinus : Text → Text × Text
  | '⁻' :: rest => (['⁻'], rest)
  | text => ([], text)

def takeLiteral? : Text → Option (Text × Text)
  | '⊗' :: rest =>
    let (sign, afterSign) := takeMinus rest
    match takeWhole? afterSign with
    | none => none
    | some (whole, afterWhole) =>
      let (fraction, after) := takeFraction afterWhole
      some ('⊗' :: sign ++ whole ++ fraction, after)
  | _ => none

/-! ## What is taken and what is left make up the text -/

theorem takeDigits_append (text : Text) :
    (takeDigits text).1 ++ (takeDigits text).2 = text := by
  induction text with
  | nil => rfl
  | cons c rest induction =>
    unfold takeDigits
    split
    · simpa using induction
    · rfl

theorem takeWhole?_append {text whole after : Text}
    (taken : takeWhole? text = some (whole, after)) : whole ++ after = text := by
  unfold takeWhole? at taken
  split at taken
  · simp at taken
  · next c rest =>
    have digits := takeDigits_append rest
    grind

theorem takeFraction_append (text : Text) :
    (takeFraction text).1 ++ (takeFraction text).2 = text := by
  unfold takeFraction
  split
  · next rest =>
    split
    · rfl
    · next digits after _ run =>
      have parts := List.takeWhile_append_dropWhile (p := isPlainGlyph) (l := rest)
      simp only [Text.takeRun, Prod.mk.injEq] at run
      rw [run.1, run.2] at parts
      simp [parts]
  · next rest _ =>
    split
    · rfl
    · next digits after _ run =>
      have parts := List.takeWhile_append_dropWhile (p := isPlainGlyph) (l := rest)
      simp only [Text.takeRun, Prod.mk.injEq] at run
      rw [run.1, run.2] at parts
      simp [parts]
  · rfl

theorem takeMinus_append (text : Text) : (takeMinus text).1 ++ (takeMinus text).2 = text := by
  unfold takeMinus
  split <;> rfl

theorem takeLiteral?_append {text found after : Text}
    (taken : takeLiteral? text = some (found, after)) :
    found ++ after = text ∧ found ≠ [] := by
  unfold takeLiteral? at taken
  split at taken
  · next rest =>
    simp only at taken
    split at taken
    · simp at taken
    · next whole afterWhole run =>
      simp only [Option.some.injEq, Prod.mk.injEq] at taken
      obtain ⟨rfl, rfl⟩ := taken
      refine ⟨?_, by simp⟩
      have signParts := takeMinus_append rest
      have wholeParts := takeWhole?_append run
      have fractionParts := takeFraction_append afterWhole
      simp only [List.cons_append, List.append_assoc, fractionParts, wholeParts, signParts]
  · simp at taken

def literals : Text.Recogniser Text where
  take := takeLiteral?
  shorter := by
    intro text found rest taken
    obtain ⟨parts, nonempty⟩ := takeLiteral?_append taken
    have positive := List.length_pos_iff.mpr nonempty
    rw [← parts, List.length_append]
    omega

example : literals.all "a⊗αβ.γ⊗⁻χε⊗ex".toList = ["⊗αβ.γ".toList, "⊗⁻χε".toList] := by
  decide +kernel

end SymbolScript.VectorNumber
