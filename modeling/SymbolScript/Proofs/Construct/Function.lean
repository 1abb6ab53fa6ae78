import SymbolScript.Construct.Function
import SymbolScript.Proofs.Construct.BlockSource

/-! Function blocks are rewritten one by one, each up to its own closing tag. -/

namespace SymbolScript.Construct

open Text

/-- A function block as it is written. Its name holds no comma and no bracket of blocks. -/
abbrev FunctionSource := BlockSource isFunctionTag fun _ => false

namespace FunctionSource

def declaration (block : FunctionSource) : Text :=
  "function ".toList ++ trim block.name ++ "(".toList ++ join ", " block.names ++
    ") \x7b\n  ".toList ++ trim block.body ++ "\n\x7d".toList

theorem functionDeclaration_parts (block : FunctionSource) :
    functionDeclaration block.parts = declaration block := by
  unfold functionDeclaration declaration parameterList
  rw [block.parameters_parts]
  rfl

/-- In a text of plain parts and function blocks, the plain parts are kept and every block becomes
its declaration. -/
theorem rewriteFunctions_segments
    (segments : List (BlockSegment isFunctionTag fun _ => false)) :
    rewriteFunctions (segments.flatMap BlockSegment.text) =
      segments.flatMap (BlockSegment.shown declaration) := by
  have written : (fun block : FunctionSource => functionDeclaration block.parts) = declaration :=
    funext functionDeclaration_parts
  rw [← written]
  exact BlockSegment.replace_flatMap_text functionDeclaration segments

def aroundOther : FunctionSource where
  tag := '函'
  tagged := rfl
  headerOpener := .brace
  name := " f ".toList
  named := ⟨by decide, by decide⟩
  parameters := some ["a ".toList, " ".toList, "b".toList]
  plain := by
    rintro _ ⟨⟩
    decide
  headerCloser := .angle
  body := "λ⟨g⟩1⟨/λ⟩ ⟨/函".toList
  noClosing := by decide
  endOpener := .angle
  endCloser := .brace

example : rewriteFunctions (aroundOther.text ++ "; ".toList) =
    "function f(a, b) \x7b\n  λ⟨g⟩1⟨/λ⟩ ⟨/函\n\x7d; ".toList := by decide +kernel

end FunctionSource

end SymbolScript.Construct
