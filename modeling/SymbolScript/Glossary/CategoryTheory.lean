import SymbolScript.Dictionary

/-! The symbols of category theory with their meanings, in groups. -/

namespace SymbolScript.CategoryTheory

def groups : List (String × List (String × String)) := [
  ("Basic", [
    ("↦", "morphism"), ("∘", "compose"), ("⊕", "coproduct"), ("×", "product"), ("⊗", "tensor"),
    ("⟶", "natural"), ("⇒", "implies"), ("⟸", "implied"), ("⇔", "equivalent")]),
  ("Functors", [
    ("𝔽", "functor"), ("𝕄", "monad"), ("𝔸", "applicative"), ("𝔼", "endofunctor"),
    ("𝔸𝕕", "adjunction")]),
  ("Objects", [
    ("◯", "point"), ("⊥", "initial"), ("⊤", "terminal"), ("∅", "empty"), ("𝟙", "unit"),
    ("𝟘", "void")]),
  ("Limits", [
    ("∐", "colimit"), ("∏", "limit"), ("∑", "sum"), ("⋈", "pullback"), ("⋉", "pushout")]),
  ("Transformations", [
    ("⟹", "transform"), ("⇝", "evolve"), ("↪", "embed"), ("↠", "surject"), ("⤴", "lift"),
    ("⤵", "lower")]),
  ("Adjunctions", [
    ("⊣", "adjoint"), ("⊢", "right_adjoint"), ("≅", "isomorphic"), ("≃", "equivalent"),
    ("∼", "homotopic")])]

def symbols : Dictionary String String :=
  Dictionary.ofPairs (groups.flatMap (·.2))

end SymbolScript.CategoryTheory
