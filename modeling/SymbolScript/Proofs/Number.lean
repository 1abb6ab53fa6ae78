import SymbolScript.Proofs.Decimal.Nearest
import SymbolScript.Proofs.Decimal.Numeral

/-!
Numbers that have been rounded: whole numbers at and above doubles, and quotients of whole numbers.
-/

namespace SymbolScript

open Decimal Binary

theorem Number.isFinite_real_iff (x : Float) :
    (Number.real x).isFinite = true ↔ ∃ value, ofFloat? x = some value := by
  rw [← Option.ne_none_iff_exists', Ne, ofFloat?_eq_none_iff, isFinite]
  cases x.isNaN <;> cases x.isInf <;> simp

theorem exists_of_ceiling {x : Float} {number : Int} (rounded : ceiling x = .ok number) :
    ∃ value, ofFloat? x = some value ∧ number.natAbs ≤ value.ceil ∧
      value.floor ≤ number.natAbs := by
  unfold ceiling at rounded
  split at rounded
  · split at rounded <;> cases rounded
  · next value read =>
    have order := value.floor_le_ceil
    simp only [Except.ok.injEq] at rounded
    refine ⟨value, read, ?_⟩
    split at rounded <;> omega

theorem ceiling_cases (x : Float) :
    (∃ number, ceiling x = .ok number) ∧ (Number.real x).isFinite = true ∨
      (∃ cause, ceiling x = .error cause ∧ cause.isOwn = false) ∧
        (Number.real x).isFinite = false := by
  rw [ceiling, ← Bool.not_eq_true, Number.isFinite_real_iff]
  cases ofFloat? x with
  | none =>
      refine .inr ⟨?_, by simp⟩
      dsimp only
      split <;> exact ⟨_, rfl, rfl⟩
  | some value => exact .inl ⟨⟨_, rfl⟩, value, rfl⟩

theorem log2_natAbs_le_of_ceiling {x : Float} {number : Int} (rounded : ceiling x = .ok number) :
    number.natAbs.log2 ≤ 1024 := by
  rcases exists_of_ceiling rounded with ⟨value, read, above, _⟩
  exact log2_le_of_le (Nat.le_trans above (ceil_le (place_le_of_ofFloat? read)))

theorem isWritable_of_wholeOf? {x : Float} {number : Int} (whole : wholeOf? x = some number) :
    isWritable number = true := by
  unfold wholeOf? at whole
  split at whole
  · cases whole
  · next value read =>
    split at whole
    · have same : number.natAbs = value.floor := by
        rw [← Option.some.inj whole]
        split <;> omega
      apply isWritable_of_log2_le
      rw [same]
      exact log2_le_of_le (Nat.le_trans value.floor_le_ceil
        (ceil_le (place_le_of_ofFloat? read)))
    · cases whole

theorem Number.exists_of_divide {above below : Int} {quotient : Float} {width : Nat}
    (small : above.natAbs < 2 ^ width * below.natAbs) (bounded : width ≤ 1022)
    (divided : (whole above).divide (whole below) = .ok quotient) :
    ∃ value, ofFloat? quotient = some value ∧ value.place ≤ width + 2 := by
  rw [divide] at divided
  split at divided
  · cases divided
  · next filled =>
    have positive : 0 < below.natAbs := by simpa [isZero, Nat.pos_iff_ne_zero] using filled
    dsimp only at divided
    split at divided
    · cases divided
    · cases divided
      exact exists_ofFloat?_nearest _ positive small bounded

theorem Number.exists_divide {above below : Int} {width : Nat} (filled : below ≠ 0)
    (small : above.natAbs < 2 ^ width * below.natAbs) (bounded : width ≤ 1022) :
    ∃ quotient, (whole above).divide (whole below) = .ok quotient := by
  have notZero : (whole below).isZero = false := by simpa [isZero] using filled
  have positive : 0 < below.natAbs := by omega
  rcases exists_ofFloat?_nearest (decide (above < 0) != decide (below < 0)) positive small
    bounded with ⟨value, read, -⟩
  have finite : ¬(nearest (decide (above < 0) != decide (below < 0)) above.natAbs
      below.natAbs).isInf = true := fun infinite =>
    nomatch read.symm.trans ((ofFloat?_eq_none_iff _).mpr (.inr infinite))
  refine ⟨nearest (decide (above < 0) != decide (below < 0)) above.natAbs below.natAbs, ?_⟩
  rw [divide, notZero]
  exact if_neg finite

end SymbolScript
