import SymbolScript.Text.Basic

/-!
UTF-8: the bytes of a text, strict reading, which refuses anything that is not the bytes of a text,
and lenient reading, which puts a replacement character in place of each ill-formed part.
-/

namespace SymbolScript

abbrev Bytes := List UInt8

namespace Text.Utf8

/-! ## Writing -/

def encodeChar (c : Char) : Bytes :=
  let point := c.toNat
  if point < 0x80 then [.ofNat point]
  else if point < 0x800 then [.ofNat (0xc0 + point / 64), .ofNat (0x80 + point % 64)]
  else if point < 0x10000 then
    [.ofNat (0xe0 + point / 4096), .ofNat (0x80 + point / 64 % 64), .ofNat (0x80 + point % 64)]
  else
    [.ofNat (0xf0 + point / 262144), .ofNat (0x80 + point / 4096 % 64),
      .ofNat (0x80 + point / 64 % 64), .ofNat (0x80 + point % 64)]

def encode (text : Text) : Bytes :=
  text.flatMap encodeChar

/-! ## Reading -/

inductive Reading
  | char (c : Char)
  | illFormed
deriving DecidableEq, Repr

/-- How many bytes follow a first byte, and the range of the first of them; a byte that starts no
character has none. -/
def following? (first : UInt8) : Option (Nat × UInt8 × UInt8) :=
  if first < 0xc2 then none
  else if first < 0xe0 then some (1, 0x80, 0xbf)
  else if first = 0xe0 then some (2, 0xa0, 0xbf)
  else if first = 0xed then some (2, 0x80, 0x9f)
  else if first < 0xf0 then some (2, 0x80, 0xbf)
  else if first = 0xf0 then some (3, 0x90, 0xbf)
  else if first < 0xf4 then some (3, 0x80, 0xbf)
  else if first = 0xf4 then some (3, 0x80, 0x8f)
  else none

def takeFollowing : Nat → UInt8 → UInt8 → Bytes → Bytes × Bytes
  | 0, _, _, bytes => ([], bytes)
  | _ + 1, _, _, [] => ([], [])
  | count + 1, low, high, byte :: rest =>
    if low ≤ byte && byte ≤ high then
      let (taken, after) := takeFollowing count 0x80 0xbf rest
      (byte :: taken, after)
    else ([], byte :: rest)

theorem length_takeFollowing_le (count : Nat) (low high : UInt8) (bytes : Bytes) :
    (takeFollowing count low high bytes).2.length ≤ bytes.length := by
  induction count generalizing low high bytes with
  | zero => cases bytes <;> simp [takeFollowing]
  | succ count induction =>
    cases bytes with
    | nil => simp [takeFollowing]
    | cons byte rest =>
      unfold takeFollowing
      split
      · exact Nat.le_succ_of_le (induction 0x80 0xbf rest)
      · exact Nat.le_refl _

def codePoint (first : UInt8) (taken : Bytes) : Nat :=
  let lead :=
    match taken.length with
    | 1 => first.toNat - 0xc0
    | 2 => first.toNat - 0xe0
    | _ => first.toNat - 0xf0
  taken.foldl (fun point byte => point * 64 + (byte.toNat - 0x80)) lead

/-- Reads bytes as characters and ill-formed parts. An ill-formed part is as long as the bytes can
still be the start of a character, and at least one byte. -/
def read (bytes : Bytes) : List Reading :=
  match bytes with
  | [] => []
  | first :: rest =>
    if first < 0x80 then .char (Char.ofNat first.toNat) :: read rest
    else
      match following? first with
      | none => .illFormed :: read rest
      | some (count, low, high) =>
        let (taken, _) := takeFollowing count low high rest
        (if taken.length = count then .char (Char.ofNat (codePoint first taken))
          else .illFormed) :: read (takeFollowing count low high rest).2
termination_by bytes.length
decreasing_by
  · simp
  · simp
  · exact Nat.lt_succ_of_le (length_takeFollowing_le count low high rest)

def decode? (bytes : Bytes) : Option Text :=
  (read bytes).mapM fun
    | .char c => some c
    | .illFormed => none

def decodeLenient (bytes : Bytes) : Text :=
  (read bytes).map fun
    | .char c => c
    | .illFormed => '\ufffd'

example : encode "é𝔸".toList = [0xc3, 0xa9, 0xf0, 0x9d, 0x94, 0xb8] := by decide +kernel
example : decode? [0xc3, 0xa9, 0xf0, 0x9d, 0x94, 0xb8] = some "é𝔸".toList := by decide +kernel
example : decodeLenient [0xff, 0xe2, 0x82, 0x41] = "\ufffd\ufffdA".toList := by decide +kernel

end Text.Utf8

end SymbolScript
