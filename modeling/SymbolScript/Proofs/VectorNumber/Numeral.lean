import SymbolScript.Proofs.Decimal.Reading
import SymbolScript.Proofs.Text.Run
import SymbolScript.VectorNumber.Numeral

/-!
Numerals without a fraction. A maximal run of digits is a numeral unless a point and another digit
follow it, and within the digit limit it stands for the number of its digits.
-/

namespace SymbolScript.VectorNumber

open Text

/-- Whether all numerals of a text are integers within the digit limit, without needless zeros. -/
structure HasWholeNumerals (text : Text) : Prop where
  short : ∀ run ∈ runs isDigit text, run.length ≤ Decimal.digitLimit
  noZeros : ∀ run ∈ runs isDigit text, run.head? = some '0' → run = ['0']
  noFraction : ∀ c d, isDigit c = true → isDigit d = true → ¬[c, '.', d] <:+: text

namespace HasWholeNumerals

theorem of_other {c : Char} {rest : Text} (whole : HasWholeNumerals (c :: rest))
    (outside : isDigit c = false) : HasWholeNumerals rest where
  short := fun run member => whole.short run (by rwa [runs_of_neg outside])
  noZeros := fun run member => whole.noZeros run (by rwa [runs_of_neg outside])
  noFraction := fun first second isFirst isSecond inside =>
    whole.noFraction first second isFirst isSecond (List.infix_cons inside)

theorem of_run {run rest : Text} (whole : HasWholeNumerals (run ++ rest))
    (isRun : IsRun isDigit run rest) : HasWholeNumerals rest where
  short := fun other member => whole.short other (by
    rw [isRun.runs_append]
    exact List.mem_cons_of_mem run member)
  noZeros := fun other member => whole.noZeros other (by
    rw [isRun.runs_append]
    exact List.mem_cons_of_mem run member)
  noFraction := fun first second isFirst isSecond inside =>
    whole.noFraction first second isFirst isSecond
      (inside.trans (List.suffix_append run rest).isInfix)

end HasWholeNumerals

theorem isPlainDigit_of_isDigit {text : Text} (ascii : IsAscii text)
    (digits : ∀ c ∈ text, isDigit c = true) : ∀ c ∈ text, Decimal.isPlainDigit c = true := by
  intro c member
  rw [← Decimal.isDigit_of_ascii (ascii c member)]
  exact digits c member

theorem take_numerals_of_other {c : Char} (outside : isDigit c = false) (rest : Text) :
    numerals.take (c :: rest) = none := by
  have run : takeRun isDigit (c :: rest) = ([], c :: rest) := by simp [takeRun, outside]
  change takeNumeral? (c :: rest) = none
  rw [takeNumeral?, run]

theorem isDigit_behind_point {run rest : Text} (isRun : IsRun isDigit run rest)
    (noFraction : ∀ c d, isDigit c = true → isDigit d = true → ¬[c, '.', d] <:+: run ++ rest)
    {d : Char} {more : Text} (point : rest = '.' :: d :: more) : isDigit d = false := by
  rcases List.eq_nil_or_concat' run with empty | ⟨front, c, rfl⟩
  · exact absurd empty isRun.filled
  · have last := isRun.inside c (List.mem_append_right front List.mem_cons_self)
    refine Bool.eq_false_iff.mpr fun inside => noFraction c d last inside ⟨front, more, ?_⟩
    rw [point]
    simp

theorem take_numerals_of_run {run rest : Text} (isRun : IsRun isDigit run rest)
    (noFraction : ∀ c more, rest = '.' :: c :: more → isDigit c = false) :
    numerals.take (run ++ rest) = some (run, rest) := by
  have taken := takeRun_append isRun.inside isRun.stop
  change takeNumeral? (run ++ rest) = some (run, rest)
  rw [takeNumeral?, taken]
  split
  · next equal => exact absurd (Prod.mk.inj equal).1 isRun.filled
  · next whole more _ equal =>
    rcases Prod.mk.inj equal with ⟨rfl, rfl⟩
    have nothing : takeRun isDigit more = ([], more) :=
      takeRun_append (List.forall_mem_nil _) fun c isHead => by
        rcases List.head?_eq_some_iff.mp isHead with ⟨later, rfl⟩
        exact noFraction c later rfl
    simp only [nothing]
  · next equal =>
    rcases Prod.mk.inj equal with ⟨rfl, rfl⟩
    rfl

theorem samples_whole : ∀ sample ∈ samples,
    (∀ c ∈ sample.1.toList, Decimal.isPlainDigit c = true) →
      sample.2 = .whole (Decimal.readDigits sample.1.toList) := by
  have pointed : ∀ {text : Text} {result : Prop}, '.' ∈ text →
      (∀ c ∈ text, Decimal.isPlainDigit c = true) → result :=
    fun point plain => absurd (plain '.' point) (by decide)
  simp only [samples, List.forall_mem_cons]
  exact ⟨fun _ => rfl, fun _ => rfl, fun _ => rfl, fun _ => rfl, fun _ => rfl, fun _ => rfl,
    fun _ => rfl, fun _ => rfl, fun _ => rfl, fun _ => rfl, fun _ => rfl, pointed (by decide),
    pointed (by decide), pointed (by decide), pointed (by decide), List.forall_mem_nil _⟩

theorem numeralValue_of_digits {run : Text} (filled : run ≠ [])
    (plain : ∀ c ∈ run, Decimal.isPlainDigit c = true) (short : run.length ≤ Decimal.digitLimit) :
    numeralValue run = .ok (.whole (Decimal.readDigits run)) := by
  unfold numeralValue
  split
  · next sample value found =>
    have spelled : sample.toList = run := by simpa using List.find?_some found
    subst spelled
    exact congrArg Except.ok (samples_whole _ (List.mem_of_find?_eq_some found) plain)
  · have noPoint : ¬holds run '.' = true := by
      rw [holds, List.contains_iff_mem]
      exact fun point => absurd (plain '.' point) (by decide)
    have read : Decimal.readInt run = _ := Decimal.readInt_of_digits plain filled false
    rw [if_neg noPoint, read, if_neg (Nat.not_lt.mpr short)]
    rfl

/-! ## Vectorising -/

theorem vectorize_of_other {c : Char} (outside : isDigit c = false) (rest : Text) :
    vectorize (c :: rest) = (vectorize rest).map (c :: ·) :=
  numerals.replaceOr_of_plain _ (take_numerals_of_other outside rest)

theorem vectorize_of_run {run rest literal : Text} (isRun : IsRun isDigit run rest)
    (noFraction : ∀ c more, rest = '.' :: c :: more → isDigit c = false)
    (plain : ∀ c ∈ run, Decimal.isPlainDigit c = true) (short : run.length ≤ Decimal.digitLimit)
    (encoded : encode (.whole (Decimal.readDigits run)) = .ok literal) :
    vectorize (run ++ rest) = (vectorize rest).map (literal ++ ·) := by
  rw [vectorize, numerals.replaceOr_of_found _ (take_numerals_of_run isRun noFraction), vectorize,
    numeralValue_of_digits isRun.filled plain short]
  simp only [bind, Except.bind, encoded]
  rfl

end SymbolScript.VectorNumber
