import SymbolScript.Construct.Import
import SymbolScript.Proofs.Construct.Field
import SymbolScript.Proofs.Text.Recogniser

/-! Import blocks are cut out at the first bracket that closes them. -/

namespace SymbolScript.Construct

open Text

theorem takeEnclosed?_parts {text inner rest : Text}
    (taken : takeEnclosed? text = some (inner, rest)) :
    ∃ opener closer, text = opener :: (inner ++ closer :: rest) ∧ isOpener opener = true ∧
      isCloser closer = true ∧ ∀ c ∈ inner, isBlockBracket c = false := by
  unfold takeEnclosed? at taken
  split at taken
  · next opener body =>
    split at taken
    · next opens =>
      split at taken
      · next closer rest run =>
        split at taken
        · next closes =>
          cases taken
          rcases takeRun_parts run with ⟨whole, inside⟩
          refine ⟨opener, closer, by rw [whole], opens, closes, ?_⟩
          intro c member
          simpa using inside c member
        · cases taken
      · cases taken
    · cases taken
  · cases taken

theorem takeEnclosed?_of_plain {opener closer : Char} {inner : Text}
    (opens : isOpener opener = true) (closes : isCloser closer = true) (filled : inner ≠ [])
    (plain : ∀ c ∈ inner, isBlockBracket c = false) (rest : Text) :
    takeEnclosed? (opener :: (inner ++ closer :: rest)) = some (inner, rest) := by
  have run : takeRun (fun c => !isBlockBracket c) (inner ++ closer :: rest) =
      (inner, closer :: rest) := by
    apply takeRun_append
    · intro c member
      simp [plain c member]
    · intro c first
      cases first
      simp [isBlockBracket, closes]
  rw [takeEnclosed?, if_pos opens, run]
  cases inner with
  | nil => exact absurd rfl filled
  | cons c inner => exact if_pos closes

theorem takeImport?_of_plain (source : ImportSource) {opener closer : Char} {names : Text}
    (opens : isOpener opener = true) (closes : isCloser closer = true) (filled : names ≠ [])
    (plain : ∀ c ∈ names, isBlockBracket c = false) (rest : Text) :
    takeImport? source (source.mark :: opener :: (names ++ closer :: rest)) =
      some (names, rest) := by
  rw [takeImport?, if_pos rfl]
  exact takeEnclosed?_of_plain opens closes filled plain rest

end SymbolScript.Construct
