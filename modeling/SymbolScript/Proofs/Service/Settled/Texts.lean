import SymbolScript.Proofs.Service.Settled
import SymbolScript.Proofs.Text.Recogniser

/-!
Answers with texts: expansions, compressions and lists of symbols. Only a word code can be too long.
-/

namespace SymbolScript.Service

open SymbolScript.Action
open Operation (Breaks)

variable {tokenizer? : Option Tokenizer}

/-! ## Rewriting -/

section Rewriting

variable {request : Action.Request} {text mode : Text}

theorem rewriteWith_request (modes : List Mode)
    (given : request.field? "text" = some (.text text))
    (wanted : request.field? "mode" = some (.text mode)) :
    rewriteWith modes request = match Mode.find? modes (.text mode) with
      | none => .ok (.refusal ("Unknown mode: ".toList ++ Text.quoted mode ++
        " (expected one of [".toList ++
        Text.join ", " ((Mode.names modes).map Text.quoted) ++ "])".toList))
      | some found => do
        return .fields [entry "mode" (.text mode), entry "text" (.text (← found.rewrite text))] := by
  rw [rewriteWith, Request.given?, given, Request.fieldOr, wanted]
  rfl

theorem isSettled_rewriteWith_iff (modes : List Mode)
    (given : request.field? "text" = some (.text text))
    (wanted : request.field? "mode" = some (.text mode)) :
    IsSettled (rewriteWith modes request) ↔ ∀ found cause,
      Mode.find? modes (.text mode) = some found → found.rewrite text = .error cause →
        cause.isOwn = true := by
  rw [rewriteWith_request modes given wanted]
  cases Mode.find? modes (.text mode) with
  | none => exact iff_of_true trivial fun found cause same => nomatch same
  | some found =>
      dsimp only
      constructor
      · rintro settled _ cause ⟨⟩ failed
        rwa [failed] at settled
      · intro own
        cases rewritten : found.rewrite text with
        | error cause => exact own found cause rfl rewritten
        | ok result =>
            simp [IsSettled, bind, Except.bind, pure, Except.pure, entry]

end Rewriting

section WordCode

open WordCode

variable {text : Text}

theorem exists_of_decodeWords_error {cause : Failure} (failed : decodeWords text = .error cause) :
    cause.isOwn = false ∧ ∃ subscripts ∈ codes.all text, Decimal.digitLimit < subscripts.length := by
  rcases codes.exists_mem_all_of_replaceOr_error spellCode failed with
    ⟨subscripts, member, unspelled⟩
  by_cases long : Decimal.digitLimit < subscripts.length
  · rw [spellCode, readIndex, if_pos long] at unspelled
    cases unspelled
    exact ⟨rfl, subscripts, member, long⟩
  · rw [spellCode, readIndex, if_neg long] at unspelled
    cases unspelled

theorem exists_decodeWords_error {subscripts : Text} (member : subscripts ∈ codes.all text)
    (long : Decimal.digitLimit < subscripts.length) :
    ∃ cause, decodeWords text = .error cause := by
  cases decoded : decodeWords text with
  | error cause => exact ⟨cause, rfl⟩
  | ok result =>
      rcases codes.exists_spelling_of_mem_all spellCode decoded member with ⟨shown, spelled⟩
      rw [spellCode, readIndex, if_pos long] at spelled
      cases spelled

end WordCode

theorem find?_expanding_words : Mode.find? Mode.expanding (.text "words".toList) =
    some ⟨"words", WordCode.decodeWords, Mode.cannotSearch⟩ :=
  rfl

theorem isSettled_expand_iff (text mode : Text) :
    IsSettled (Action.expand (Operation.expand text mode).request) ↔
      ¬Breaks tokenizer? (.expand text mode) := by
  rw [Action.expand, isSettled_rewriteWith_iff Mode.expanding rfl rfl]
  constructor
  · rintro settled ⟨member, long⟩
    rcases exists_decodeWords_error member long with ⟨cause, failed⟩
    have own := settled _ cause find?_expanding_words failed
    rw [(exists_of_decodeWords_error failed).1] at own
    cases own
  · intro ready found cause isFound failed
    have named := List.find?_some isFound
    have member := List.mem_of_find?_eq_some isFound
    rw [Value.isText_iff] at named
    simp only [Mode.expanding, List.mem_cons, List.not_mem_nil, or_false] at member
    rcases member with rfl | rfl | rfl | rfl
    · cases failed
    · cases failed
    · cases named
      rcases (exists_of_decodeWords_error failed).2 with ⟨subscripts, inText, long⟩
      exact absurd (.longCode inText long) ready
    · cases failed

theorem exists_expand_error {text subscripts : Text}
    (member : subscripts ∈ WordCode.codes.all text)
    (long : Decimal.digitLimit < subscripts.length) :
    ∃ cause, Action.expand (Operation.expand text "words".toList).request = .error cause := by
  rcases exists_decodeWords_error member long with ⟨cause, failed⟩
  rw [Action.expand, rewriteWith_request Mode.expanding rfl rfl, find?_expanding_words]
  simp only [failed]
  exact ⟨cause, rfl⟩

theorem isSettled_compress (text mode : Text) :
    IsSettled (Action.compress (Operation.compress text mode).request) := by
  rw [Action.compress, isSettled_rewriteWith_iff Mode.compressing rfl rfl]
  intro found cause isFound failed
  have member := List.mem_of_find?_eq_some isFound
  simp only [Mode.compressing, List.mem_cons, List.not_mem_nil, or_false] at member
  rcases member with rfl | rfl | rfl <;> cases failed

/-! ## Listing symbols -/

theorem isSendable_glossaryObject (glossary : Glossary) :
    (glossaryObject glossary).IsSendable := by
  rw [glossaryObject, Value.isSendable_object_iff]
  intro entry member
  rcases List.mem_map.mp member with ⟨symbol, -, rfl⟩
  exact Value.isSendable_textOf symbol.2

theorem isSendable_correspondenceObject (entries : Correspondence) :
    (correspondenceObject entries).IsSendable := by
  rw [correspondenceObject, Value.isSendable_object_iff]
  intro entry member
  rcases List.mem_map.mp member with ⟨symbol, -, rfl⟩
  exact Value.isSendable_textOf symbol.2

theorem isSettled_listSymbols (category : Option Text) :
    IsSettled (Action.listSymbols (Operation.listSymbols category).request) := by
  cases category with
  | none =>
      have names :
          (Value.list ((Dictionary.keys Correspondence.categories).map textOf)).IsSendable := by
        rw [Value.isSendable_list_iff]
        intro item member
        rcases List.mem_map.mp member with ⟨name, -, rfl⟩
        exact Value.isSendable_textOf name
      exact List.forall_mem_cons.mpr
        ⟨isSendable_glossaryObject _, List.forall_mem_singleton.mpr names⟩
  | some category =>
      have given : (Operation.listSymbols (some category)).request.given? "category" =
          some (.text category) := rfl
      rw [Action.listSymbols, given]
      cases found : correspondence? (.text category) with
      | none => simp only [found]; exact trivial
      | some entries =>
          simp only [found]
          exact List.forall_mem_cons.mpr ⟨Value.isSendable_text category,
            List.forall_mem_singleton.mpr (isSendable_correspondenceObject entries)⟩

end SymbolScript.Service
