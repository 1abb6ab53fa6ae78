import SymbolScript.Proofs.Decimal.Numeral
import SymbolScript.VectorNumber.Basic

/-!
Vector numbers of integers. What is written for a natural number has one of four forms, and none of
them reads as another, so that reading gives the integer back with or without the cross in front.
-/

namespace SymbolScript.VectorNumber

/-! ## Glyphs -/

def wholeGlyphs : Text :=
  ten :: hundred :: digitGlyphs

theorem digitGlyph_mem : ∀ digit < 10, digitGlyph digit ∈ wholeGlyphs := by
  decide

theorem plainValue?_digitGlyph : ∀ digit < 10, plainValue? (digitGlyph digit) = some digit := by
  decide

theorem value?_digitGlyph {digit : Nat} (small : digit < 10) :
    value? (digitGlyph digit) = some digit := by
  rw [value?, plainValue?_digitGlyph digit small]

theorem digitGlyph_ne_form : ∀ digit < 10, digitGlyph digit ≠ ten ∧ digitGlyph digit ≠ hundred := by
  decide

theorem wholeGlyphs_solid :
    ∀ c ∈ wholeGlyphs, Text.isBlank c = false ∧ c ≠ cross ∧ c ≠ minus ∧ c ≠ '.' := by
  decide

theorem constant_not_mem : ∀ entry ∈ constants, entry.1 ∉ wholeGlyphs := by
  decide

/-! ## The forms of a natural number -/

/-- The forms in which a natural number may be written: ten, eleven to nineteen and one hundred
have a form of their own beside their digits. -/
inductive WholeForm : Nat → Text → Prop
  | ten : WholeForm 10 [ten]
  | teen (unit : Nat) (small : unit < 10) :
      WholeForm (10 + unit) [VectorNumber.ten, digitGlyph unit]
  | hundred : WholeForm 100 [hundred]
  | digits (number : Nat) : WholeForm number ((Positional.digits 10 number).map digitGlyph)

theorem wholeForm_of_encodeWhole {number : Nat} {glyphs : Text}
    (written : encodeWhole number = .ok glyphs) : WholeForm number glyphs := by
  unfold encodeWhole at written
  split at written
  · next isTen =>
    cases written
    exact isTen ▸ .ten
  · split at written
    · next teen =>
      cases written
      have form := WholeForm.teen (number - 10) (by omega)
      rwa [Nat.add_sub_cancel' (by omega)] at form
    · split at written
      · next isHundred =>
        cases written
        exact isHundred ▸ .hundred
      · split at written
        · cases written
          exact .digits number
        · cases written

theorem exists_encodeWhole {number : Nat} (bounded : number < 10 ^ Decimal.digitLimit) :
    ∃ glyphs, encodeWhole number = .ok glyphs := by
  have writable := (Decimal.isWritable_natCast_iff number).mpr bounded
  unfold encodeWhole
  split
  · exact ⟨_, rfl⟩
  · split
    · exact ⟨_, rfl⟩
    · split
      · exact ⟨_, rfl⟩
      · exact ⟨_, rfl⟩

theorem encodeWhole_of_unbounded {number : Nat} (large : 10 ^ Decimal.digitLimit ≤ number) :
    encodeWhole number = .error (.value .tooManyDigitsToWrite) := by
  have beyond : 100 < number := Nat.lt_of_lt_of_le (by decide +kernel) large
  have unwritable : ¬ Decimal.isWritable number = true := by
    rw [Decimal.isWritable_natCast_iff]
    exact Nat.not_lt.mpr large
  rw [encodeWhole, if_neg (by omega), if_neg (by omega), if_neg (by omega), if_neg unwritable]

namespace WholeForm

variable {number : Nat} {glyphs : Text}

theorem mem_wholeGlyphs (form : WholeForm number glyphs) : ∀ c ∈ glyphs, c ∈ wholeGlyphs := by
  intro c member
  cases form with
  | ten =>
      rw [List.mem_singleton.mp member]
      exact List.mem_cons_self
  | teen unit small =>
      rcases List.mem_cons.mp member with rfl | isUnit
      · exact List.mem_cons_self
      · rw [List.mem_singleton.mp isUnit]
        exact digitGlyph_mem unit small
  | hundred =>
      rw [List.mem_singleton.mp member]
      exact List.mem_cons_of_mem VectorNumber.ten List.mem_cons_self
  | digits =>
      rcases List.mem_map.mp member with ⟨digit, isDigit, rfl⟩
      exact digitGlyph_mem digit (Positional.lt_of_mem_digits (by decide) isDigit)

theorem ne_nil (form : WholeForm number glyphs) : glyphs ≠ [] := by
  cases form with
  | ten => simp
  | teen unit small => simp
  | hundred => simp
  | digits => simpa using Positional.digits_ne_nil 10 number

end WholeForm

/-! ## Reading a form -/

theorem readGlyphs_map_digitGlyph {digits : List Nat} (small : ∀ digit ∈ digits, digit < 10)
    (high : Nat) :
    readGlyphs value? high (digits.map digitGlyph) = .ok (Positional.readFrom 10 high digits) := by
  induction digits generalizing high with
  | nil => rfl
  | cons digit rest induction =>
      have first := value?_digitGlyph (small digit List.mem_cons_self)
      have later := induction fun other member => small other (List.mem_cons_of_mem digit member)
      rw [List.map_cons, readGlyphs, first, Positional.readFrom_cons]
      exact later (high * 10 + digit)

theorem decodeWhole_of_digit {c : Char} (notTen : c ≠ ten) (notHundred : c ≠ hundred)
    (rest : Text) : decodeWhole (c :: rest) = readGlyphs value? 0 (c :: rest) := by
  unfold decodeWhole
  split
  · next equal => exact absurd (List.cons.inj equal).1 notTen
  · next equal => exact absurd (List.cons.inj equal).1 notHundred
  · next equal => exact absurd (List.cons.inj equal).1 notTen
  · rfl

theorem decodeWhole_of_teen {c : Char} {unit : Nat} (plain : plainValue? c = some unit) :
    decodeWhole [ten, c] = .ok (10 + unit) := by
  simp only [decodeWhole, ten, plain]

theorem WholeForm.decodeWhole_eq {number : Nat} {glyphs : Text} (form : WholeForm number glyphs) :
    decodeWhole glyphs = .ok number := by
  cases form with
  | ten => rfl
  | teen unit small => exact decodeWhole_of_teen (plainValue?_digitGlyph unit small)
  | hundred => rfl
  | digits =>
      have small : ∀ digit ∈ Positional.digits 10 number, digit < 10 :=
        fun digit member => Positional.lt_of_mem_digits (by decide) member
      have read := readGlyphs_map_digitGlyph small 0
      rw [← Positional.read, Positional.read_digits] at read
      cases shown : Positional.digits 10 number with
      | nil => exact absurd shown (Positional.digits_ne_nil 10 number)
      | cons digit rest =>
          rw [shown] at read small
          have apart := digitGlyph_ne_form digit (small digit List.mem_cons_self)
          rw [List.map_cons, decodeWhole_of_digit apart.1 apart.2]
          exact read

theorem decodeBody_of_whole {glyphs : Text} (noConstant : ∀ entry ∈ constants, glyphs ≠ [entry.1])
    (noPoint : '.' ∉ glyphs) (encoded : Text) :
    decodeBody encoded glyphs = (decodeWhole glyphs).map fun number => .whole number := by
  have unknown : constants.find? (fun entry => glyphs == [entry.1]) = none := by
    rw [List.find?_eq_none]
    intro entry isConstant
    simpa using noConstant entry isConstant
  rw [decodeBody, unknown, Text.cutAt_of_not_mem noPoint]
  simp only
  cases decodeWhole glyphs <;> rfl

theorem WholeForm.decodeBody_eq {number : Nat} {glyphs : Text} (form : WholeForm number glyphs)
    (encoded : Text) : decodeBody encoded glyphs = .ok (.whole number) := by
  have noConstant : ∀ entry ∈ constants, glyphs ≠ [entry.1] := by
    intro entry isConstant equal
    apply constant_not_mem entry isConstant
    apply form.mem_wholeGlyphs
    rw [equal]
    exact List.mem_singleton_self entry.1
  have noPoint : '.' ∉ glyphs := fun member =>
    (wholeGlyphs_solid '.' (form.mem_wholeGlyphs '.' member)).2.2.2 rfl
  rw [decodeBody_of_whole noConstant noPoint, form.decodeWhole_eq]
  rfl

/-! ## Without crosses -/

def withoutCrosses (text : Text) : Text :=
  text.filter (· != cross)

@[simp] theorem withoutCrosses_nil : withoutCrosses [] = [] := rfl

theorem mem_withoutCrosses {text : Text} {c : Char} :
    c ∈ withoutCrosses text ↔ c ∈ text ∧ c ≠ cross := by
  rw [withoutCrosses, List.mem_filter, bne_iff_ne]

theorem withoutCrosses_append (left right : Text) :
    withoutCrosses (left ++ right) = withoutCrosses left ++ withoutCrosses right :=
  List.filter_append left right

theorem withoutCrosses_eq_self {text : Text} (absent : ∀ c ∈ text, c ≠ cross) :
    withoutCrosses text = text := by
  rw [withoutCrosses, List.filter_eq_self]
  intro c member
  exact bne_iff_ne.mpr (absent c member)

theorem withoutCrosses_eq_nil {text : Text} (crosses : ∀ c ∈ text, c = cross) :
    withoutCrosses text = [] := by
  rw [withoutCrosses, List.filter_eq_nil_iff]
  intro c member
  simp [crosses c member]

theorem decode_of_signed {encoded sign body : Text}
    (noBlank : ∀ c ∈ encoded, Text.isBlank c = false) (signed : sign = [] ∨ sign = [minus])
    (stripped : withoutCrosses encoded = sign ++ body) (filled : body ≠ [])
    (unsigned : ∀ c, body.head? = some c → c ≠ minus) :
    decode encoded = (decodeBody encoded body).map (if sign = [] then id else Number.negate) := by
  rw [withoutCrosses] at stripped
  rw [decode, Text.trim_eq_self_of_forall noBlank, stripped]
  cases body with
  | nil => exact absurd rfl filled
  | cons c rest =>
      rcases signed with rfl | rfl
      · simp only [List.nil_append, if_neg (unsigned c rfl), if_true]
        cases decodeBody encoded (c :: rest) <;> rfl
      · rfl

/-! ## Reading an integer -/

theorem WholeForm.decode_eq {number : Nat} {glyphs front sign : Text}
    (form : WholeForm number glyphs) (crosses : ∀ c ∈ front, c = cross)
    (signed : sign = [] ∨ sign = [minus]) :
    decode (front ++ (sign ++ glyphs)) =
      .ok ((if sign = [] then id else Number.negate) (.whole number)) := by
  have signSolid : ∀ c ∈ sign, Text.isBlank c = false ∧ c ≠ cross := by
    rcases signed with rfl | rfl <;> decide
  have solid : ∀ c ∈ sign ++ glyphs, Text.isBlank c = false ∧ c ≠ cross := by
    intro c member
    rcases List.mem_append.mp member with inSign | inGlyphs
    · exact signSolid c inSign
    · have glyph := wholeGlyphs_solid c (form.mem_wholeGlyphs c inGlyphs)
      exact ⟨glyph.1, glyph.2.1⟩
  have noBlank : ∀ c ∈ front ++ (sign ++ glyphs), Text.isBlank c = false := by
    intro c member
    rcases List.mem_append.mp member with inFront | inBody
    · rw [crosses c inFront]
      decide
    · exact (solid c inBody).1
  have stripped : withoutCrosses (front ++ (sign ++ glyphs)) = sign ++ glyphs := by
    rw [withoutCrosses_append, withoutCrosses_eq_nil crosses,
      withoutCrosses_eq_self fun c member => (solid c member).2, List.nil_append]
  have unsigned : ∀ c, glyphs.head? = some c → c ≠ minus := fun c isHead =>
    (wholeGlyphs_solid c (form.mem_wholeGlyphs c (List.mem_of_head? isHead))).2.2.1
  rw [decode_of_signed noBlank signed stripped form.ne_nil unsigned, form.decodeBody_eq]
  rfl

theorem encode_whole_eq {number : Int} {literal : Text}
    (written : encode (.whole number) = .ok literal) :
    ∃ glyphs, WholeForm number.natAbs glyphs ∧
      literal = cross :: (if number < 0 then [minus] else []) ++ glyphs := by
  cases whole : encodeWhole number.natAbs with
  | error failure => simp [encode, whole, Except.map] at written
  | ok glyphs =>
      refine ⟨glyphs, wholeForm_of_encodeWhole whole, ?_⟩
      simpa [encode, whole, Except.map] using written.symm

theorem exists_encode_whole {number : Int} (bounded : number.natAbs < 10 ^ Decimal.digitLimit) :
    ∃ literal, encode (.whole number) = .ok literal := by
  rcases exists_encodeWhole bounded with ⟨glyphs, whole⟩
  rw [encode, whole]
  exact ⟨_, rfl⟩

theorem decode_of_form {number : Int} {glyphs front : Text}
    (form : WholeForm number.natAbs glyphs) (crosses : ∀ c ∈ front, c = cross) :
    decode (front ++ ((if number < 0 then [minus] else []) ++ glyphs)) = .ok (.whole number) := by
  by_cases negative : number < 0
  · rw [if_pos negative, form.decode_eq crosses (.inr rfl)]
    simp only [List.cons_ne_nil, if_false, Number.negate]
    congr 2
    omega
  · rw [if_neg negative, form.decode_eq crosses (.inl rfl)]
    simp only [if_true, id_eq]
    congr 2
    omega

theorem decode_of_encode {number : Int} {literal : Text}
    (written : encode (.whole number) = .ok literal) : decode literal = .ok (.whole number) := by
  rcases encode_whole_eq written with ⟨glyphs, form, rfl⟩
  have oneCross : ∀ c ∈ [cross], c = cross := fun c member => List.mem_singleton.mp member
  exact decode_of_form form oneCross

/-- An integer within the digit limit is written after a cross, and is read back from what is
written with the cross and without it. An integer beyond the limit is not written. -/
theorem decode_encode_whole (number : Int) :
    (number.natAbs < 10 ^ Decimal.digitLimit →
      ∃ body, encode (.whole number) = .ok (cross :: body) ∧
        decode (cross :: body) = .ok (.whole number) ∧ decode body = .ok (.whole number)) ∧
    (10 ^ Decimal.digitLimit ≤ number.natAbs →
      encode (.whole number) = .error (.value .tooManyDigitsToWrite)) := by
  constructor
  · intro bounded
    rcases exists_encode_whole bounded with ⟨literal, written⟩
    rcases encode_whole_eq written with ⟨glyphs, form, rfl⟩
    have noCross : ∀ c ∈ ([] : Text), c = cross := fun c member => nomatch member
    exact ⟨_, written, decode_of_encode written, decode_of_form form noCross⟩
  · intro large
    rw [encode, encodeWhole_of_unbounded large]
    rfl

theorem decode_encode_negative_teen :
    (-15 : Int).natAbs < 10 ^ Decimal.digitLimit ∧ ∃ body,
      encode (.whole (-15)) = .ok (cross :: body) ∧
        decode (cross :: body) = .ok (.whole (-15)) ∧ decode body = .ok (.whole (-15)) := by
  have bounded : (-15 : Int).natAbs < 10 ^ Decimal.digitLimit := by decide +kernel
  exact ⟨bounded, (decode_encode_whole (-15)).1 bounded⟩

end SymbolScript.VectorNumber
