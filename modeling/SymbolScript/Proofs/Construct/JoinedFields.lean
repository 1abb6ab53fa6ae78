import SymbolScript.Proofs.Construct.SelfContained

/-!
Reading fields undoes joining them. Self-contained pieces are found again, in order, whichever
separators stand between them and however they are spaced, and places between separators that hold
no piece are passed over.
-/

namespace SymbolScript.Construct

open Text

/-! ## Separators -/

/-- The sets of characters that separate the fields of a block. -/
inductive Separators
  | comma
  | semicolonOrComma
deriving DecidableEq, Repr

namespace Separators

def holds : Separators → Char → Bool
  | comma => isComma
  | semicolonOrComma => isSemicolonOrComma

variable {separators : Separators} {c : Char}

theorem eq_of_holds (held : separators.holds c = true) : c = ',' ∨ c = ';' := by
  cases separators with
  | comma => exact .inl (beq_iff_eq.mp held)
  | semicolonOrComma =>
      rcases Bool.or_eq_true_iff.mp held with semicolon | comma
      · exact .inr (beq_iff_eq.mp semicolon)
      · exact .inl (beq_iff_eq.mp comma)

theorem isBlank_of_holds (held : separators.holds c = true) : isBlank c = false := by
  rcases eq_of_holds held with rfl | rfl <;> rfl

theorem next?_of_holds (held : separators.holds c = true) :
    ScanState.outside.next? separators.holds c = none := by
  have plain : isQuote c = false ∧ isNestingOpener c = false ∧ isNestingCloser c = false := by
    rcases eq_of_holds held with rfl | rfl <;> exact ⟨rfl, rfl, rfl⟩
  simp [ScanState.next?, ScanState.outside, plain, held]

end Separators

/-! ## Joined fields -/

/-- A piece that can be told from the blanks around it and from the separators beside it. -/
structure IsPiece (separators : Separators) (text : Text) : Prop where
  filled : text ≠ []
  trimmed : trim text = text
  contained : IsSelfContained separators.holds text

/-- A place between separators: blanks, with a piece among them or without one. -/
structure FieldPlace (separators : Separators) where
  front : Text
  piece : Option Text
  back : Text
  frontBlank : ∀ c ∈ front, isBlank c = true
  isPiece : ∀ text ∈ piece, IsPiece separators text
  backBlank : ∀ c ∈ back, isBlank c = true

/-- Places with a separator between each two of them. -/
inductive FieldPlaces (separators : Separators)
  | last (place : FieldPlace separators)
  | cons (place : FieldPlace separators) (separator : Char)
      (held : separators.holds separator = true) (rest : FieldPlaces separators)

namespace FieldPlace

variable {separators : Separators} (place : FieldPlace separators)

def text : Text :=
  place.front ++ place.piece.getD [] ++ place.back

theorem trim_text : trim place.text = place.piece.getD [] := by
  rw [text, trim, trimBy_append_class place.backBlank, trimBy_class_append place.frontBlank]
  cases given : place.piece with
  | none => rfl
  | some piece => exact (place.isPiece piece given).trimmed

theorem after?_text :
    ScanState.outside.after? separators.holds place.text = some .outside := by
  have blank : ∀ blanks : Text, (∀ c ∈ blanks, isBlank c = true) →
      ScanState.outside.after? separators.holds blanks = some .outside :=
    fun _ => ScanState.after?_of_blank_of_solid fun _ => Separators.isBlank_of_holds
  have inside : ScanState.outside.after? separators.holds (place.piece.getD []) =
      some .outside := by
    cases given : place.piece with
    | none => rfl
    | some piece => exact (place.isPiece piece given).contained.after?
  rw [text, ScanState.after?_append, ScanState.after?_append, blank _ place.frontBlank]
  simp only [Option.bind_some, inside]
  exact blank _ place.backBlank

theorem filter_trim_text :
    [trim place.text].filter (fun piece => !piece.isEmpty) = place.piece.toList := by
  rw [trim_text]
  cases given : place.piece with
  | none => rfl
  | some piece => simp [(place.isPiece piece given).filled]

end FieldPlace

namespace FieldPlaces

variable {separators : Separators}

def text : FieldPlaces separators → Text
  | last place => place.text
  | cons place separator _ rest => place.text ++ separator :: rest.text

def pieces : FieldPlaces separators → List Text
  | last place => place.piece.toList
  | cons place _ _ rest => place.piece.toList ++ rest.pieces

/-- The fields of places joined by separators are the pieces in them. -/
theorem fields_eq_pieces (places : FieldPlaces separators) :
    fields separators.holds places.text = places.pieces := by
  induction places with
  | last place =>
      have scanned := ScanState.scan_of_after place.after?_text
      have read : scanFields separators.holds none 0 place.text = (place.text, []) := scanned
      rw [text, fields, read]
      exact place.filter_trim_text
  | cons place separator held rest induction =>
      rw [text, fields_append place.after?_text (Separators.next?_of_holds held),
        place.filter_trim_text, induction, pieces]

-- A piece with separators inside its brackets, a place without a piece, and a piece with a separator
-- and a bracket inside its quotes.
example :
    let places : FieldPlaces .semicolonOrComma :=
      .cons ⟨" ".toList, some "f(a,[b;c])".toList, "\n".toList, by decide,
          by rintro _ ⟨⟩; exact ⟨by decide, by decide, by decide⟩, by decide⟩ ';' rfl
        (.cons ⟨" ".toList, none, [], by decide, by rintro _ ⟨⟩, by decide⟩ ',' rfl
          (.last ⟨[], some "'(,'".toList, " ".toList, by decide,
            by rintro _ ⟨⟩; exact ⟨by decide, by decide, by decide⟩, by decide⟩))
    places.text = " f(a,[b;c])\n; ,'(,' ".toList ∧
      places.pieces = ["f(a,[b;c])".toList, "'(,'".toList] := by decide

end FieldPlaces

end SymbolScript.Construct
