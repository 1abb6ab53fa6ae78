import SymbolScript.Instances
import SymbolScript.Positional

/-!
Laws of the digits of a number: there is at least one, each is below the base, and the digits of
the number that a list of digits stands for are that list without the zeros in front.
-/

namespace SymbolScript.Positional

theorem digitsOnto_ne_nil (base number : Nat) (lower : List Nat) :
    digitsOnto base number lower ≠ [] := by
  fun_induction digitsOnto base number lower with
  | case1 number lower small => simp
  | case2 number lower large induction => exact induction

theorem digits_ne_nil (base number : Nat) : digits base number ≠ [] :=
  digitsOnto_ne_nil base number []

theorem length_digitsOnto_le {base : Nat} (large : 1 < base) {width number : Nat}
    (small : number < base ^ (width + 1)) (lower : List Nat) :
    (digitsOnto base number lower).length ≤ width + 1 + lower.length := by
  induction width generalizing number lower with
  | zero =>
      rw [Nat.zero_add, Nat.pow_one] at small
      rw [digitsOnto, if_pos (.inr small), List.length_cons]
      omega
  | succ width induction =>
      rw [digitsOnto]
      split
      · rw [List.length_cons]
        omega
      · have quotient : number / base < base ^ (width + 1) := by
          rw [Nat.div_lt_iff_lt_mul (by omega), ← Nat.pow_succ]
          exact small
        have shorter := induction quotient (number % base :: lower)
        rw [List.length_cons] at shorter
        omega

theorem lt_of_mem_digitsOnto {base number : Nat} {lower : List Nat} (large : 1 < base)
    (lowerFit : ∀ digit ∈ lower, digit < base) :
    ∀ digit ∈ digitsOnto base number lower, digit < base := by
  fun_induction digitsOnto base number lower with
  | case1 number lower small =>
      intro digit member
      rcases List.mem_cons.mp member with rfl | inLower
      · omega
      · exact lowerFit digit inLower
  | case2 number lower _ induction =>
      apply induction
      intro digit member
      rcases List.mem_cons.mp member with rfl | inLower
      · exact Nat.mod_lt number (by omega)
      · exact lowerFit digit inLower

theorem lt_of_mem_digits {base number digit : Nat} (large : 1 < base)
    (member : digit ∈ digits base number) : digit < base :=
  lt_of_mem_digitsOnto large (by simp) digit member

/-! ## Zeros in front -/

/-- The digits of a list without the zeros in front; a list of zeros keeps one of them. -/
def withoutLeadingZeros {Digit : Type} [DecidableEq Digit] (zero : Digit) (digits : List Digit) :
    List Digit :=
  match digits.dropWhile (· == zero) with
  | [] => [zero]
  | first :: rest => first :: rest

example : withoutLeadingZeros 0 [0, 0, 7, 0] = [7, 0] := by decide
example : withoutLeadingZeros 0 [0, 0] = [0] := by decide

section WithoutLeadingZeros

variable {Digit : Type} [DecidableEq Digit]

theorem withoutLeadingZeros_cases (zero : Digit) (digits : List Digit) :
    (∀ digit ∈ digits, digit = zero) ∧ withoutLeadingZeros zero digits = [zero] ∨
      ∃ zeros first rest, digits = zeros ++ first :: rest ∧ (∀ digit ∈ zeros, digit = zero) ∧
        first ≠ zero ∧ withoutLeadingZeros zero digits = first :: rest := by
  induction digits with
  | nil => exact .inl ⟨by simp, rfl⟩
  | cons digit digits induction =>
      by_cases isZero : digit = zero
      · have same : withoutLeadingZeros zero (digit :: digits) =
            withoutLeadingZeros zero digits := by
          rw [withoutLeadingZeros, List.dropWhile_cons_of_pos (by simpa using isZero),
            withoutLeadingZeros]
        rw [same]
        rcases induction with ⟨all, shown⟩ | ⟨zeros, first, rest, rfl, all, nonzero, shown⟩
        · exact .inl ⟨List.forall_mem_cons.mpr ⟨isZero, all⟩, shown⟩
        · exact .inr ⟨digit :: zeros, first, rest, rfl, List.forall_mem_cons.mpr ⟨isZero, all⟩,
            nonzero, shown⟩
      · refine .inr ⟨[], digit, digits, rfl, by simp, isZero, ?_⟩
        rw [withoutLeadingZeros, List.dropWhile_cons_of_neg (by simpa using isZero)]

theorem withoutLeadingZeros_eq_self_iff {zero first : Digit} {rest : List Digit} :
    withoutLeadingZeros zero (first :: rest) = first :: rest ↔ rest = [] ∨ first ≠ zero := by
  rcases withoutLeadingZeros_cases zero (first :: rest) with
    ⟨all, shown⟩ | ⟨zeros, other, more, equal, all, nonzero, shown⟩
  · have isZero := all first List.mem_cons_self
    rw [shown, isZero]
    simp
  · rw [shown, equal]
    cases zeros with
    | nil =>
        cases equal
        simp [nonzero]
    | cons leading zeros =>
        cases equal
        have isZero := all first List.mem_cons_self
        simp [isZero, nonzero]

theorem map_withoutLeadingZeros {Spelled : Type} [DecidableEq Spelled] (spell : Digit → Spelled)
    {zero : Digit} {digits : List Digit}
    (only : ∀ digit ∈ digits, spell digit = spell zero → digit = zero) :
    (withoutLeadingZeros zero digits).map spell =
      withoutLeadingZeros (spell zero) (digits.map spell) := by
  induction digits with
  | nil => rfl
  | cons digit digits induction =>
      have later := induction fun other member => only other (List.mem_cons_of_mem digit member)
      by_cases isZero : digit = zero
      · simpa [withoutLeadingZeros, isZero] using later
      · have nonzero : spell digit ≠ spell zero :=
          fun equal => isZero (only digit List.mem_cons_self equal)
        simp [withoutLeadingZeros, isZero, nonzero]

end WithoutLeadingZeros

/-! ## Digits of a number that is read -/

variable {base : Nat}

theorem digitsOnto_mul_add {high digit : Nat} (large : 1 < base) (positive : 0 < high)
    (small : digit < base) (lower : List Nat) :
    digitsOnto base (high * base + digit) lower = digitsOnto base high (digit :: lower) := by
  have atLeastBase : base ≤ high * base + digit :=
    Nat.le_trans (Nat.le_mul_of_pos_left base positive) (Nat.le_add_right _ _)
  have quotient : (high * base + digit) / base = high := by
    rw [Nat.mul_comm, Nat.mul_add_div (by omega), Nat.div_eq_of_lt small, Nat.add_zero]
  have remainder : (high * base + digit) % base = digit := by
    rw [Nat.mul_comm, Nat.mul_add_mod, Nat.mod_eq_of_lt small]
  rw [digitsOnto, if_neg (by omega), quotient, remainder]

theorem digitsOnto_readFrom {high : Nat} {middle : List Nat} (large : 1 < base)
    (positive : 0 < high) (small : ∀ digit ∈ middle, digit < base) (lower : List Nat) :
    digitsOnto base (readFrom base high middle) lower =
      digitsOnto base high (middle ++ lower) := by
  induction middle generalizing high with
  | nil => rfl
  | cons digit middle induction =>
      rcases List.forall_mem_cons.mp small with ⟨digitSmall, middleSmall⟩
      have nextPositive : 0 < high * base + digit :=
        Nat.lt_of_lt_of_le (Nat.mul_pos positive (by omega)) (Nat.le_add_right _ _)
      rw [readFrom_cons, induction nextPositive middleSmall,
        digitsOnto_mul_add large positive digitSmall, List.cons_append]

theorem readFrom_zeros {zeros : List Nat} (all : ∀ digit ∈ zeros, digit = 0) (lower : List Nat) :
    readFrom base 0 (zeros ++ lower) = readFrom base 0 lower := by
  induction zeros with
  | nil => rfl
  | cons digit zeros induction =>
      rcases List.forall_mem_cons.mp all with ⟨rfl, later⟩
      rw [List.cons_append, readFrom_cons, Nat.zero_mul, Nat.add_zero, induction later]

theorem readFrom_append (high : Nat) (digits lower : List Nat) :
    readFrom base high (digits ++ lower) = readFrom base (readFrom base high digits) lower :=
  List.foldl_append

theorem readFrom_replicate_zero (high count : Nat) :
    readFrom base high (List.replicate count 0) = high * base ^ count := by
  induction count generalizing high with
  | zero => simp
  | succ count induction =>
      rw [List.replicate_succ, readFrom_cons, induction, Nat.pow_succ', Nat.add_zero, Nat.mul_assoc]

theorem readFrom_lt {digits : List Nat} (small : ∀ digit ∈ digits, digit < base) (high : Nat) :
    readFrom base high digits < (high + 1) * base ^ digits.length := by
  induction digits generalizing high with
  | nil => simp
  | cons digit rest induction =>
      rcases List.forall_mem_cons.mp small with ⟨digitSmall, restSmall⟩
      rw [readFrom_cons, List.length_cons]
      calc
        readFrom base (high * base + digit) rest <
            (high * base + digit + 1) * base ^ rest.length := induction restSmall _
        _ ≤ ((high + 1) * base) * base ^ rest.length := by
            apply Nat.mul_le_mul_right
            rw [Nat.add_mul]
            omega
        _ = (high + 1) * base ^ (rest.length + 1) := by rw [Nat.pow_succ', Nat.mul_assoc]

theorem read_lt {digits : List Nat} (small : ∀ digit ∈ digits, digit < base) :
    read base digits < base ^ digits.length := by
  have bound := readFrom_lt small 0
  rwa [Nat.zero_add, Nat.one_mul] at bound

theorem readFrom_le_readFrom {low high : Nat} (le : low ≤ high) (digits : List Nat) :
    readFrom base low digits ≤ readFrom base high digits := by
  induction digits generalizing low high with
  | nil => exact le
  | cons digit rest induction =>
      exact induction (Nat.add_le_add_right (Nat.mul_le_mul_right base le) digit)

theorem digits_read {values : List Nat} (large : 1 < base)
    (small : ∀ value ∈ values, value < base) :
    digits base (read base values) = withoutLeadingZeros 0 values := by
  rcases withoutLeadingZeros_cases 0 values with
    ⟨all, shown⟩ | ⟨zeros, first, rest, rfl, all, nonzero, shown⟩
  · have isZero : readFrom base 0 (values ++ []) = 0 := readFrom_zeros all []
    rw [List.append_nil] at isZero
    rw [shown, read, isZero, digits, digitsOnto, if_pos (by omega)]
  · rcases List.forall_mem_cons.mp (List.forall_mem_append.mp small).2 with ⟨firstSmall, restSmall⟩
    rw [shown, digits, read, readFrom_zeros all, readFrom_cons, Nat.zero_mul, Nat.zero_add,
      digitsOnto_readFrom large (by omega) restSmall, digitsOnto, if_pos (by omega),
      List.append_nil]

theorem digits_cases (large : 1 < base) (number : Nat) :
    digits base number = [0] ∨
      ∃ first rest, digits base number = first :: rest ∧ first ≠ 0 := by
  have small : ∀ digit ∈ digits base number, digit < base :=
    fun digit member => lt_of_mem_digits large member
  have kept := digits_read large small
  rw [read_digits] at kept
  rcases withoutLeadingZeros_cases 0 (digits base number) with
    ⟨_, shown⟩ | ⟨_, first, rest, _, _, nonzero, shown⟩
  · exact .inl (kept.trans shown)
  · exact .inr ⟨first, rest, kept.trans shown, nonzero⟩

end SymbolScript.Positional
