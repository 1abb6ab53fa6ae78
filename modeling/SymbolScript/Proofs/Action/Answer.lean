import SymbolScript.Action.Dispatch
import SymbolScript.Proofs.Value

/-!
Answers to requests: how each becomes a response, and what holds of the fields of all of them.
-/

namespace SymbolScript.Action

/-! ## Responses -/

section Responses

variable {request : Request}

theorem dispatch_of_fields {entries : Dictionary Text Value}
    (answered : answerWith none request = .ok (.fields entries)) :
    dispatch request = .success entries := by
  rw [dispatch, dispatchWith, answered]

theorem dispatch_of_refusal {message : Text}
    (answered : answerWith none request = .ok (.refusal message)) :
    dispatch request = .refusal message := by
  rw [dispatch, dispatchWith, answered]

theorem dispatch_of_error {cause : Failure} (answered : answerWith none request = .error cause) :
    dispatch request = .failure cause := by
  rw [dispatch, dispatchWith, answered]

end Responses

/-! ## Fields -/

/-- Whether the fields of an answer, if there is one, have a property. -/
def AnswersWith (holds : Dictionary Text Value → Prop) (answered : Except Failure Reply) : Prop :=
  ∀ entries, answered = .ok (.fields entries) → holds entries

namespace AnswersWith

variable {holds : Dictionary Text Value → Prop}

theorem fields_iff (entries : Dictionary Text Value) :
    AnswersWith holds (.ok (.fields entries)) ↔ holds entries := by
  constructor
  · intro answers
    exact answers entries rfl
  · intro held other same
    cases same
    exact held

theorem refusal (message : Text) : AnswersWith holds (.ok (.refusal message)) := by
  intro entries answered
  cases answered

theorem error (cause : Failure) : AnswersWith holds (.error cause) := by
  intro entries answered
  cases answered

theorem bind {α : Type} {result : Except Failure α} {next : α → Except Failure Reply}
    (answers : ∀ value, result = .ok value → AnswersWith holds (next value)) :
    AnswersWith holds (result >>= next) := by
  cases result with
  | error cause => exact error cause
  | ok value => exact answers value rfl

theorem unknown (what : String) (value : Value) :
    AnswersWith holds (Action.unknown what value) :=
  bind fun _ _ => refusal _

end AnswersWith

/-! ## Actions -/

section Actions

variable {holds : Dictionary Text Value → Prop} {request : Request}

theorem answersWith_compile
    (answers : ∀ target outcome, holds (outcomeFields target outcome)) :
    AnswersWith holds (compile request) := by
  unfold compile
  split
  · exact .refusal _
  · dsimp only
    split
    · exact .unknown _ _
    · exact (AnswersWith.fields_iff _).mpr (answers _ _)

theorem answersWith_rewriteWith {modes : List Mode}
    (answers : ∀ mode text, holds [entry "mode" (textOf mode), entry "text" (.text text)]) :
    AnswersWith holds (rewriteWith modes request) := by
  unfold rewriteWith
  split
  · exact .refusal _
  · dsimp only
    split
    · exact .error _
    · split
      · exact .bind fun _ _ => .refusal _
      · next mode found =>
        rw [Mode.find?] at found
        have named := List.find?_some found
        rw [Value.isText_iff] at named
        rw [named]
        split
        · exact .bind fun text _ => (AnswersWith.fields_iff _).mpr (answers _ _)
        · exact .error _

theorem answersWith_listSymbols
    (all : ∀ names : List String, holds [entry "symbols" (glossaryObject Glossary.sourceSymbols),
      entry "categories" (.list (names.map textOf))])
    (one : ∀ category entries, holds [entry "category" (.text category),
      entry "symbols" (correspondenceObject entries)]) :
    AnswersWith holds (listSymbols request) := by
  unfold listSymbols
  split
  · exact (AnswersWith.fields_iff _).mpr (all _)
  · next category given =>
    dsimp only
    split
    · exact .error _
    · cases found : correspondence? category with
      | none => exact .unknown _ _
      | some entries =>
          have named : ∃ name, category = .text name := by
            cases category with
            | text name => exact ⟨name, rfl⟩
            | _ => cases found
          rcases named with ⟨name, rfl⟩
          exact (AnswersWith.fields_iff _).mpr (one _ _)

theorem answersWith_encodeNumber
    (answers : ∀ format value literal, holds [entry "format" format, entry "value" value,
      entry "literal" (.text literal)]) :
    AnswersWith holds (encodeNumber request) := by
  unfold encodeNumber
  split
  · exact .refusal _
  · dsimp only
    split
    · exact .unknown _ _
    · exact .bind fun _ _ => (AnswersWith.fields_iff _).mpr (answers _ _ _)
    · exact .bind fun _ _ => (AnswersWith.fields_iff _).mpr (answers _ _ _)

theorem answersWith_decodeNumber
    (answers : ∀ format literal number value, answerNumber number = .ok value →
      holds [entry "format" (textOf format), entry "literal" (.text literal),
        entry "value" value]) :
    AnswersWith holds (decodeNumber request) := by
  have decoded : ∀ (text : Text) (format : NumberFormat), AnswersWith holds (do
      let number ← decodeIn format text
      return .fields [entry "format" (textOf format.spelling), entry "literal" (.text text),
        entry "value" (← answerNumber number)]) := by
    intro text format
    refine .bind fun number _ => .bind fun value answered => (AnswersWith.fields_iff _).mpr ?_
    exact answers _ _ _ _ answered
  unfold decodeNumber
  generalize request.fieldOr "literal" .null = literal
  dsimp only
  split
  · exact .refusal _
  · split
    · split
      · cases literal with
        | text text => exact decoded text _
        | _ => exact .error _
      · exact .bind fun _ _ => .error _
    · cases literal with
      | text text => exact decoded text (.detect text)
      | _ => exact .error _

end Actions

/-! ## Numbers -/

theorem answerNumber_cases {number : Number} {value : Value}
    (answered : answerNumber number = .ok value) :
    (∃ text, value = .text text) ∨ value = .number number ∧ number.isFinite = true := by
  unfold answerNumber at answered
  split at answered
  · next x =>
    split at answered
    · cases spelled : (Number.real x).spelled with
      | error cause => simp [spelled, bind, Except.bind] at answered
      | ok text =>
          rw [spelled] at answered
          exact .inl ⟨text, (Except.ok.inj answered).symm⟩
    · next finite =>
      cases answered
      exact .inr ⟨rfl, by simpa [Number.isFinite, and_comm] using finite⟩
  · cases answered
    exact .inr ⟨rfl, rfl⟩

end SymbolScript.Action
