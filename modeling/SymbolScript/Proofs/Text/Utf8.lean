import SymbolScript.Text.Utf8

/-!
Strict reading of UTF-8. Bytes that are read as a text are the bytes of that text, and the bytes of
every text are read as it; so bytes are refused exactly if they are those of no text.
-/

namespace SymbolScript.Text.Utf8

/-! ## First and following bytes -/

def Leads (first count : Nat) : Prop :=
  count = 1 ∧ 0xc2 ≤ first ∧ first < 0xe0 ∨ count = 2 ∧ 0xe0 ≤ first ∧ first < 0xf0 ∨
    count = 3 ∧ 0xf0 ≤ first ∧ first < 0xf5

/-- The least byte behind a first byte: smaller ones would spell a code point that has a shorter
spelling. -/
def lowest (first : Nat) : Nat :=
  if first = 0xe0 then 0xa0 else if first = 0xf0 then 0x90 else 0x80

/-- The greatest byte behind a first byte: greater ones would spell a surrogate, or a code point
beyond the last. -/
def highest (first : Nat) : Nat :=
  if first = 0xed then 0x9f else if first = 0xf4 then 0x8f else 0xbf

theorem lowest_cases (first : Nat) :
    first = 0xe0 ∧ lowest first = 0xa0 ∨ first = 0xf0 ∧ lowest first = 0x90 ∨
      first ≠ 0xe0 ∧ first ≠ 0xf0 ∧ lowest first = 0x80 := by
  unfold lowest
  repeat' split
  all_goals omega

theorem highest_cases (first : Nat) :
    first = 0xed ∧ highest first = 0x9f ∨ first = 0xf4 ∧ highest first = 0x8f ∨
      first ≠ 0xed ∧ first ≠ 0xf4 ∧ highest first = 0xbf := by
  unfold highest
  repeat' split
  all_goals omega

theorem following?_eq_some_iff {first low high : UInt8} {count : Nat} :
    following? first = some (count, low, high) ↔ Leads first.toNat count ∧
      low.toNat = lowest first.toNat ∧ high.toNat = highest first.toNat := by
  have isLow := lowest_cases first.toNat
  have isHigh := highest_cases first.toNat
  simp only [following?, Leads, UInt8.lt_iff_toNat_lt, ← UInt8.toNat_inj, UInt8.reduceToNat]
  repeat' split
  all_goals
    simp only [Option.some.injEq, Prod.mk.injEq, ← UInt8.toNat_inj, UInt8.reduceToNat,
      reduceCtorEq, false_iff]
    omega

def Follows : Nat → Nat → Nat → Bytes → Prop
  | 0, _, _, taken => taken = []
  | _ + 1, _, _, [] => False
  | count + 1, low, high, byte :: rest =>
    low ≤ byte.toNat ∧ byte.toNat ≤ high ∧ Follows count 0x80 0xbf rest

theorem length_of_follows {count low high : Nat} {taken : Bytes}
    (follows : Follows count low high taken) : taken.length = count := by
  induction count generalizing low high taken with
  | zero =>
      cases follows
      rfl
  | succ count induction =>
      cases taken with
      | nil => cases follows
      | cons byte rest => rw [List.length_cons, induction follows.2.2]

theorem takeFollowing_append {count : Nat} {low high : UInt8} {taken : Bytes}
    (follows : Follows count low.toNat high.toNat taken) (after : Bytes) :
    takeFollowing count low high (taken ++ after) = (taken, after) := by
  induction count generalizing low high taken with
  | zero =>
      cases follows
      cases after <;> rfl
  | succ count induction =>
      cases taken with
      | nil => cases follows
      | cons byte rest =>
          rcases follows with ⟨above, below, later⟩
          have inside : low ≤ byte ∧ byte ≤ high :=
            ⟨UInt8.le_iff_toNat_le.mpr above, UInt8.le_iff_toNat_le.mpr below⟩
          have takenLater : takeFollowing count 0x80 0xbf (rest ++ after) = (rest, after) :=
            induction later
          rw [List.cons_append, takeFollowing, if_pos (by simp [inside]), takenLater]

theorem follows_takeFollowing {count : Nat} {low high : UInt8} {bytes : Bytes}
    (enough : (takeFollowing count low high bytes).1.length = count) :
    Follows count low.toNat high.toNat (takeFollowing count low high bytes).1 ∧
      bytes = (takeFollowing count low high bytes).1 ++ (takeFollowing count low high bytes).2 := by
  induction count generalizing low high bytes with
  | zero => cases bytes <;> simp [takeFollowing, Follows]
  | succ count induction =>
      cases bytes with
      | nil => simp [takeFollowing] at enough
      | cons byte rest =>
          rw [takeFollowing] at enough ⊢
          split at enough
          · next inside =>
            rw [if_pos inside]
            simp only [List.length_cons, Nat.add_right_cancel_iff] at enough
            simp only [Bool.and_eq_true, decide_eq_true_eq] at inside
            rcases induction enough with ⟨follows, whole⟩
            refine ⟨⟨UInt8.le_iff_toNat_le.mp inside.1, UInt8.le_iff_toNat_le.mp inside.2,
              follows⟩, ?_⟩
            rw [List.cons_append, ← whole]
          · simp at enough

/-! ## Characters -/

def IsSequence (first : UInt8) (taken : Bytes) : Prop :=
  ∃ count, Leads first.toNat count ∧
    Follows count (lowest first.toNat) (highest first.toNat) taken

theorem encodeChar_one {c : Char} (high : c.toNat < 0x80) : encodeChar c = [.ofNat c.toNat] := by
  rw [encodeChar, if_pos high]

theorem encodeChar_two {c : Char} (low : 0x80 ≤ c.toNat) (high : c.toNat < 0x800) :
    encodeChar c = [.ofNat (0xc0 + c.toNat / 64), .ofNat (0x80 + c.toNat % 64)] := by
  rw [encodeChar, if_neg (by omega), if_pos high]

theorem encodeChar_three {c : Char} (low : 0x800 ≤ c.toNat) (high : c.toNat < 0x10000) :
    encodeChar c = [.ofNat (0xe0 + c.toNat / 4096), .ofNat (0x80 + c.toNat / 64 % 64),
      .ofNat (0x80 + c.toNat % 64)] := by
  rw [encodeChar, if_neg (by omega), if_neg (by omega), if_pos high]

theorem encodeChar_four {c : Char} (low : 0x10000 ≤ c.toNat) :
    encodeChar c = [.ofNat (0xf0 + c.toNat / 262144), .ofNat (0x80 + c.toNat / 4096 % 64),
      .ofNat (0x80 + c.toNat / 64 % 64), .ofNat (0x80 + c.toNat % 64)] := by
  rw [encodeChar, if_neg (by omega), if_neg (by omega), if_neg (by omega)]

theorem toNat_charOfNat (point : Nat) (valid : point.isValidChar) :
    (Char.ofNat point).toNat = point := by
  rw [Char.ofNat, dif_pos valid]
  rfl

theorem ofNat_eq (byte : UInt8) {number : Nat} (equal : byte.toNat = number) :
    UInt8.ofNat number = byte := by
  rw [← equal, UInt8.ofNat_toNat]

theorem exists_byte (number : Nat) (small : number < 256) : ∃ byte : UInt8, byte.toNat = number :=
  ⟨.ofNat number, by rw [UInt8.toNat_ofNat', Nat.mod_eq_of_lt small]⟩

theorem IsSequence.encodeChar_codePoint {first : UInt8} {taken : Bytes}
    (sequence : IsSequence first taken) :
    encodeChar (Char.ofNat (codePoint first taken)) = first :: taken := by
  rcases sequence with ⟨count, leads, follows⟩
  have isLow := lowest_cases first.toNat
  have isHigh := highest_cases first.toNat
  -- The ranges of the second byte keep the code point within those of its number of bytes.
  rcases leads with ⟨rfl, _, _⟩ | ⟨rfl, _, _⟩ | ⟨rfl, _, _⟩
  · match taken, follows with
    | [second], ⟨above, below, _⟩ =>
      have point : codePoint first [second] =
        (first.toNat - 0xc0) * 64 + (second.toNat - 0x80) := rfl
      have shown := toNat_charOfNat (codePoint first [second]) (.inl (by omega))
      rw [encodeChar_two (by omega) (by omega), ofNat_eq first (by omega),
        ofNat_eq second (by omega)]
  · match taken, follows with
    | [second, third], ⟨above, below, thirdAbove, thirdBelow, _⟩ =>
      have point : codePoint first [second, third] =
        ((first.toNat - 0xe0) * 64 + (second.toNat - 0x80)) * 64 + (third.toNat - 0x80) := rfl
      have valid : (codePoint first [second, third]).isValidChar := by
        rw [Nat.isValidChar]
        omega
      have shown := toNat_charOfNat _ valid
      rw [encodeChar_three (by omega) (by omega), ofNat_eq first (by omega),
        ofNat_eq second (by omega), ofNat_eq third (by omega)]
  · match taken, follows with
    | [second, third, fourth],
        ⟨above, below, thirdAbove, thirdBelow, fourthAbove, fourthBelow, _⟩ =>
      have point : codePoint first [second, third, fourth] =
        (((first.toNat - 0xf0) * 64 + (second.toNat - 0x80)) * 64 + (third.toNat - 0x80)) * 64 +
          (fourth.toNat - 0x80) := rfl
      have valid : (codePoint first [second, third, fourth]).isValidChar := by
        rw [Nat.isValidChar]
        omega
      have shown := toNat_charOfNat _ valid
      rw [encodeChar_four (by omega), ofNat_eq first (by omega),
        ofNat_eq second (by omega), ofNat_eq third (by omega),
        ofNat_eq fourth (by omega)]

theorem exists_sequence {c : Char} (beyond : 0x80 ≤ c.toNat) :
    ∃ first taken, encodeChar c = first :: taken ∧ IsSequence first taken ∧
      codePoint first taken = c.toNat := by
  have valid : c.toNat.isValidChar := c.valid
  rw [Nat.isValidChar] at valid
  -- A character beyond ASCII takes two, three or four bytes.
  rcases (by omega : c.toNat < 0x800 ∨ 0x800 ≤ c.toNat ∧ c.toNat < 0x10000 ∨ 0x10000 ≤ c.toNat)
    with two | ⟨low, three⟩ | four
  · rcases exists_byte (0xc0 + c.toNat / 64) (by omega) with ⟨first, isFirst⟩
    rcases exists_byte (0x80 + c.toNat % 64) (by omega) with ⟨second, isSecond⟩
    have isLow := lowest_cases first.toNat
    have isHigh := highest_cases first.toNat
    refine ⟨first, [second], ?_, ⟨1, ?_, ?_⟩, ?_⟩
    · rw [encodeChar_two beyond two, ofNat_eq first isFirst, ofNat_eq second isSecond]
    · unfold Leads
      omega
    · exact ⟨by omega, by omega, rfl⟩
    · change (first.toNat - 0xc0) * 64 + (second.toNat - 0x80) = c.toNat
      omega
  · rcases exists_byte (0xe0 + c.toNat / 4096) (by omega) with ⟨first, isFirst⟩
    rcases exists_byte (0x80 + c.toNat / 64 % 64) (by omega) with ⟨second, isSecond⟩
    rcases exists_byte (0x80 + c.toNat % 64) (by omega) with ⟨third, isThird⟩
    have isLow := lowest_cases first.toNat
    have isHigh := highest_cases first.toNat
    refine ⟨first, [second, third], ?_, ⟨2, ?_, ?_⟩, ?_⟩
    · rw [encodeChar_three low three, ofNat_eq first isFirst, ofNat_eq second isSecond,
        ofNat_eq third isThird]
    · unfold Leads
      omega
    · exact ⟨by omega, by omega, by omega, by omega, rfl⟩
    · change ((first.toNat - 0xe0) * 64 + (second.toNat - 0x80)) * 64 + (third.toNat - 0x80) =
        c.toNat
      omega
  · rcases exists_byte (0xf0 + c.toNat / 262144) (by omega) with ⟨first, isFirst⟩
    rcases exists_byte (0x80 + c.toNat / 4096 % 64) (by omega) with ⟨second, isSecond⟩
    rcases exists_byte (0x80 + c.toNat / 64 % 64) (by omega) with ⟨third, isThird⟩
    rcases exists_byte (0x80 + c.toNat % 64) (by omega) with ⟨fourth, isFourth⟩
    have isLow := lowest_cases first.toNat
    have isHigh := highest_cases first.toNat
    refine ⟨first, [second, third, fourth], ?_, ⟨3, ?_, ?_⟩, ?_⟩
    · rw [encodeChar_four four, ofNat_eq first isFirst, ofNat_eq second isSecond,
        ofNat_eq third isThird, ofNat_eq fourth isFourth]
    · unfold Leads
      omega
    · exact ⟨by omega, by omega, by omega, by omega, by omega, by omega, rfl⟩
    · change (((first.toNat - 0xf0) * 64 + (second.toNat - 0x80)) * 64 + (third.toNat - 0x80)) *
        64 + (fourth.toNat - 0x80) = c.toNat
      omega

/-! ## Reading -/

theorem read_of_ascii {first : UInt8} (ascii : first < 0x80) (rest : Bytes) :
    read (first :: rest) = .char (Char.ofNat first.toNat) :: read rest := by
  rw [read, if_pos ascii]

theorem read_of_unknown {first : UInt8} (beyond : ¬first < 0x80) (unknown : following? first = none)
    (rest : Bytes) : read (first :: rest) = .illFormed :: read rest := by
  rw [read, if_neg beyond, unknown]

theorem read_of_following {first low high : UInt8} {count : Nat} (beyond : ¬first < 0x80)
    (starts : following? first = some (count, low, high)) (rest : Bytes) :
    read (first :: rest) =
      (if (takeFollowing count low high rest).1.length = count then
        .char (Char.ofNat (codePoint first (takeFollowing count low high rest).1))
      else .illFormed) :: read (takeFollowing count low high rest).2 := by
  rw [read, if_neg beyond, starts]

theorem encodeChar_of_ascii {first : UInt8} (ascii : first < 0x80) :
    encodeChar (Char.ofNat first.toNat) = [first] := by
  have small : first.toNat < 0x80 := UInt8.lt_iff_toNat_lt.mp ascii
  have shown := toNat_charOfNat first.toNat (.inl (by omega))
  rw [encodeChar_one (by omega), ofNat_eq first shown.symm]

theorem read_encodeChar_append (c : Char) (after : Bytes) :
    read (encodeChar c ++ after) = .char c :: read after := by
  by_cases ascii : c.toNat < 0x80
  · rcases exists_byte c.toNat (by omega) with ⟨first, isFirst⟩
    have firstAscii : first < 0x80 := UInt8.lt_iff_toNat_lt.mpr (by simpa [isFirst] using ascii)
    rw [encodeChar_one ascii, ofNat_eq first isFirst, List.singleton_append,
      read_of_ascii firstAscii, isFirst, Char.ofNat_toNat]
  · rcases exists_sequence (Nat.not_lt.mp ascii) with
      ⟨first, taken, spelled, ⟨count, leads, follows⟩, point⟩
    have isLow := lowest_cases first.toNat
    have isHigh := highest_cases first.toNat
    rcases exists_byte (lowest first.toNat) (by omega) with ⟨low, lowEqual⟩
    rcases exists_byte (highest first.toNat) (by omega) with ⟨high, highEqual⟩
    have starts := following?_eq_some_iff.mpr ⟨leads, lowEqual, highEqual⟩
    have beyond : ¬first < 0x80 := by
      rw [UInt8.lt_iff_toNat_lt]
      simp only [Leads, UInt8.reduceToNat] at leads ⊢
      omega
    rw [← lowEqual, ← highEqual] at follows
    rw [spelled, List.cons_append, read_of_following beyond starts, takeFollowing_append follows,
      if_pos (length_of_follows follows), point, Char.ofNat_toNat]

theorem read_cons_cases (first : UInt8) (rest : Bytes) :
    (∃ c after, first :: rest = encodeChar c ++ after ∧
      read (first :: rest) = .char c :: read after) ∨
    ∃ readings, read (first :: rest) = .illFormed :: readings := by
  by_cases ascii : first < 0x80
  · refine .inl ⟨_, rest, ?_, read_of_ascii ascii rest⟩
    rw [encodeChar_of_ascii ascii, List.singleton_append]
  · cases starts : following? first with
    | none => exact .inr ⟨_, read_of_unknown ascii starts rest⟩
    | some found =>
        rcases found with ⟨count, low, high⟩
        have reading := read_of_following ascii starts rest
        by_cases enough : (takeFollowing count low high rest).1.length = count
        · rw [if_pos enough] at reading
          rcases following?_eq_some_iff.mp starts with ⟨leads, lowEqual, highEqual⟩
          rcases follows_takeFollowing enough with ⟨follows, whole⟩
          rw [lowEqual, highEqual] at follows
          refine .inl ⟨_, _, ?_, reading⟩
          rw [IsSequence.encodeChar_codePoint ⟨count, leads, follows⟩, List.cons_append, ← whole]
        · rw [if_neg enough] at reading
          exact .inr ⟨_, reading⟩

theorem decode?_of_char {bytes after : Bytes} {c : Char}
    (reading : read bytes = .char c :: read after) :
    decode? bytes = (decode? after).map (c :: ·) := by
  rw [decode?, reading, List.mapM_cons]
  cases decoded : decode? after <;>
    · rw [decode?] at decoded
      rw [decoded]
      rfl

theorem decode?_of_illFormed {bytes : Bytes} {readings : List Reading}
    (reading : read bytes = .illFormed :: readings) : decode? bytes = none := by
  rw [decode?, reading, List.mapM_cons]
  rfl

theorem decode?_nil : decode? [] = some [] := by
  rw [decode?, read]
  rfl

theorem encode_cons (c : Char) (text : Text) : encode (c :: text) = encodeChar c ++ encode text :=
  rfl

theorem decode?_encode (text : Text) : decode? (encode text) = some text := by
  induction text with
  | nil => exact decode?_nil
  | cons c rest induction =>
      rw [encode_cons, decode?_of_char (read_encodeChar_append c _), induction]
      rfl

theorem exists_of_decode?_cons {first : UInt8} {rest : Bytes} {text : Text}
    (decoded : decode? (first :: rest) = some text) :
    ∃ c after later, text = c :: later ∧ first :: rest = encodeChar c ++ after ∧
      decode? after = some later := by
  rcases read_cons_cases first rest with ⟨c, after, parts, reading⟩ | ⟨_, reading⟩
  · rw [decode?_of_char reading] at decoded
    rcases Option.map_eq_some_iff.mp decoded with ⟨later, decodedLater, equal⟩
    exact ⟨c, after, later, equal.symm, parts, decodedLater⟩
  · rw [decode?_of_illFormed reading] at decoded
    cases decoded

theorem encode_of_decode? {bytes : Bytes} {text : Text} (decoded : decode? bytes = some text) :
    encode text = bytes := by
  induction text generalizing bytes with
  | nil =>
      cases bytes with
      | nil => rfl
      | cons first rest =>
          rcases exists_of_decode?_cons decoded with ⟨_, _, _, filled, _⟩
          cases filled
  | cons c text induction =>
      cases bytes with
      | nil => simp [decode?_nil] at decoded
      | cons first rest =>
          rcases exists_of_decode?_cons decoded with ⟨_, _, _, equal, parts, decodedLater⟩
          cases equal
          rw [encode_cons, induction decodedLater, parts]

theorem decode?_eq_some_iff {bytes : Bytes} {text : Text} :
    decode? bytes = some text ↔ encode text = bytes := by
  constructor
  · exact encode_of_decode?
  · rintro rfl
    exact decode?_encode text

theorem decode?_eq_none_iff {bytes : Bytes} :
    decode? bytes = none ↔ ¬∃ text, encode text = bytes := by
  rw [Option.eq_none_iff_forall_ne_some, not_exists]
  exact forall_congr' fun text => not_congr decode?_eq_some_iff

end SymbolScript.Text.Utf8
