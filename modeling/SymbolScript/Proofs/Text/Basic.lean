import Mathlib.Data.List.Chain
import Mathlib.Data.List.TakeWhile
import SymbolScript.Text.Blank

/-!
Laws of texts: what trimming, cutting, splitting and joining do to texts that hold no blank at
their ends or no separator, and what they leave of the characters of a text.
-/

namespace SymbolScript.Text

instance (priority := 2000) decidableForallMem (text : List Char) (P : Char → Prop)
    [DecidablePred P] : Decidable (∀ c ∈ text, P c) :=
  List.decidableBAll P text

def charsFrom (first : Char) (count : Nat) : Text :=
  (List.range' first.toNat count).map Char.ofNat

/-! ## ASCII -/

/-- Whether a text holds ASCII characters only. No mark of the notation is one of them. -/
def IsAscii (text : Text) : Prop :=
  ∀ c ∈ text, c.toNat < 128

instance (text : Text) : Decidable (IsAscii text) :=
  inferInstanceAs (Decidable (∀ c ∈ text, c.toNat < 128))

@[simp] theorem isAscii_nil : IsAscii [] := by
  simp [IsAscii]

@[simp] theorem isAscii_cons (c : Char) (text : Text) :
    IsAscii (c :: text) ↔ c.toNat < 128 ∧ IsAscii text := by
  simp [IsAscii]

@[simp] theorem isAscii_append (left right : Text) :
    IsAscii (left ++ right) ↔ IsAscii left ∧ IsAscii right := by
  simp only [IsAscii, List.mem_append, or_imp, forall_and]

theorem IsAscii.append {left right : Text} (leftAscii : IsAscii left) (rightAscii : IsAscii right) :
    IsAscii (left ++ right) :=
  (isAscii_append left right).mpr ⟨leftAscii, rightAscii⟩

theorem IsAscii.ne_of_mem {text : Text} (ascii : IsAscii text) {c mark : Char}
    (member : c ∈ text) (foreign : 128 ≤ mark.toNat) : c ≠ mark := by
  rintro rfl
  have small := ascii c member
  omega

theorem IsAscii.not_mem {text : Text} (ascii : IsAscii text) {mark : Char}
    (foreign : 128 ≤ mark.toNat) : mark ∉ text :=
  fun member => ascii.ne_of_mem member foreign rfl

/-! ## Trimming -/

theorem dropWhile_eq_self {inClass : Char → Bool} {text : Text}
    (first : ∀ c, text.head? = some c → inClass c = false) : text.dropWhile inClass = text := by
  cases text with
  | nil => rfl
  | cons c rest => simp [first c rfl]

theorem trimBy_append {inClass : Char → Bool} {text tail : Text} (filled : text ≠ [])
    (first : ∀ c, text.head? = some c → inClass c = false)
    (last : ∀ c, text.getLast? = some c → inClass c = false)
    (inside : ∀ c ∈ tail, inClass c = true) : trimBy inClass (text ++ tail) = text := by
  have front : (text ++ tail).dropWhile inClass = text ++ tail := by
    apply dropWhile_eq_self
    intro c isHead
    rw [List.head?_append_of_ne_nil text filled] at isHead
    exact first c isHead
  have back : text.reverse.dropWhile inClass = text.reverse := by
    apply dropWhile_eq_self
    intro c isHead
    rw [List.head?_reverse] at isHead
    exact last c isHead
  rw [trimBy, front, List.reverse_append,
    List.dropWhile_append_of_pos fun c member => inside c (List.mem_reverse.mp member), back,
    List.reverse_reverse]

theorem trimBy_eq_self {inClass : Char → Bool} {text : Text}
    (first : ∀ c, text.head? = some c → inClass c = false)
    (last : ∀ c, text.getLast? = some c → inClass c = false) : trimBy inClass text = text := by
  by_cases empty : text = []
  · rw [empty]
    rfl
  · have kept := trimBy_append empty first last (fun c member => nomatch member : ∀ c ∈ [], _)
    rwa [List.append_nil] at kept

theorem trim_eq_self_of_forall {text : Text} (solid : ∀ c ∈ text, isBlank c = false) :
    trim text = text :=
  trimBy_eq_self (fun c first => solid c (List.mem_of_head? first))
    (fun c last => solid c (List.mem_of_getLast? last))

theorem filter_dropWhile_of_disjoint {inClass keep : Char → Bool}
    (disjoint : ∀ c, inClass c = true → keep c = false) (text : Text) :
    (text.dropWhile inClass).filter keep = text.filter keep := by
  induction text with
  | nil => rfl
  | cons c rest induction =>
      cases inside : inClass c with
      | false => simp [inside]
      | true => simp [inside, disjoint c inside, induction]

theorem filter_trimBy_of_disjoint {inClass keep : Char → Bool}
    (disjoint : ∀ c, inClass c = true → keep c = false) (text : Text) :
    (trimBy inClass text).filter keep = text.filter keep := by
  rw [trimBy, List.filter_reverse, filter_dropWhile_of_disjoint disjoint, List.filter_reverse,
    filter_dropWhile_of_disjoint disjoint, List.reverse_reverse]

theorem trimBy_isPrefix (inClass : Char → Bool) (text : Text) :
    trimBy inClass text <+: text.dropWhile inClass := by
  have back := List.reverse_prefix.mpr
    (List.dropWhile_suffix inClass (l := (text.dropWhile inClass).reverse))
  rwa [List.reverse_reverse] at back

theorem trimBy_isInfix (inClass : Char → Bool) (text : Text) : trimBy inClass text <:+: text :=
  (trimBy_isPrefix inClass text).isInfix.trans (List.dropWhile_suffix inClass).isInfix

theorem head?_dropWhile {inClass : Char → Bool} {text : Text} {c : Char}
    (first : (text.dropWhile inClass).head? = some c) : inClass c = false := by
  have outside := List.head?_dropWhile_not inClass text
  rwa [first] at outside

theorem head?_trimBy {inClass : Char → Bool} {text : Text} {c : Char}
    (first : (trimBy inClass text).head? = some c) : inClass c = false := by
  rcases trimBy_isPrefix inClass text with ⟨rest, equal⟩
  have firstLeft : (text.dropWhile inClass).head? = some c := by
    rw [← equal, List.head?_append, first, Option.some_or]
  exact head?_dropWhile firstLeft

theorem getLast?_trimBy {inClass : Char → Bool} {text : Text} {c : Char}
    (last : (trimBy inClass text).getLast? = some c) : inClass c = false := by
  rw [trimBy, List.getLast?_reverse] at last
  exact head?_dropWhile last

theorem mem_of_mem_trimBy {inClass : Char → Bool} {text : Text} {c : Char}
    (member : c ∈ trimBy inClass text) : c ∈ text := by
  rw [trimBy, List.mem_reverse] at member
  have inner := (List.dropWhile_sublist inClass).mem member
  exact (List.dropWhile_sublist inClass).mem (List.mem_reverse.mp inner)

theorem exists_trimBy_parts (inClass : Char → Bool) (text : Text) :
    ∃ front back, text = front ++ (trimBy inClass text ++ back) ∧
      (∀ c ∈ front, inClass c = true) ∧ ∀ c ∈ back, inClass c = true := by
  refine ⟨text.takeWhile inClass,
    ((text.dropWhile inClass).reverse.takeWhile inClass).reverse, ?_, ?_, ?_⟩
  · rw [trimBy, ← List.reverse_append, List.takeWhile_append_dropWhile, List.reverse_reverse,
      List.takeWhile_append_dropWhile]
  · exact fun c member => List.mem_takeWhile_imp member
  · exact fun c member => List.mem_takeWhile_imp (List.mem_reverse.mp member)

theorem trimBy_class_append {inClass : Char → Bool} {front : Text}
    (inside : ∀ c ∈ front, inClass c = true) (text : Text) :
    trimBy inClass (front ++ text) = trimBy inClass text := by
  rw [trimBy, List.dropWhile_append_of_pos inside, trimBy]

theorem trimBy_append_class {inClass : Char → Bool} {back : Text}
    (inside : ∀ c ∈ back, inClass c = true) (text : Text) :
    trimBy inClass (text ++ back) = trimBy inClass text := by
  have nothing : back.dropWhile inClass = [] := List.dropWhile_eq_nil_iff.mpr inside
  rw [trimBy, trimBy, List.dropWhile_append]
  split
  · next empty => rw [nothing, List.isEmpty_iff.mp empty]
  · rw [List.reverse_append,
      List.dropWhile_append_of_pos fun c member => inside c (List.mem_reverse.mp member)]

theorem trimBy_eq_nil_iff {inClass : Char → Bool} {text : Text} :
    trimBy inClass text = [] ↔ ∀ c ∈ text, inClass c = true := by
  constructor
  · intro empty
    rcases exists_trimBy_parts inClass text with ⟨front, back, parts, inFront, inBack⟩
    rw [empty, List.nil_append] at parts
    rw [parts]
    exact List.forall_mem_append.mpr ⟨inFront, inBack⟩
  · intro inside
    rw [← List.append_nil text, trimBy_class_append inside]
    rfl

/-! ## Cutting and splitting -/

theorem cutAt_append {separator : Char} {before : Text} (absent : separator ∉ before)
    (after : Text) : cutAt separator (before ++ separator :: after) = (before, some after) := by
  induction before with
  | nil => simp [cutAt]
  | cons c rest induction =>
      rcases List.ne_and_not_mem_of_not_mem_cons absent with ⟨different, later⟩
      simp [cutAt, different.symm, induction later]

theorem cutAt_of_not_mem {separator : Char} {text : Text} (absent : separator ∉ text) :
    cutAt separator text = (text, none) := by
  induction text with
  | nil => rfl
  | cons c rest induction =>
      rcases List.ne_and_not_mem_of_not_mem_cons absent with ⟨different, later⟩
      simp [cutAt, different.symm, induction later]

theorem mem_of_mem_cutAt_fst {separator c : Char} {text : Text}
    (member : c ∈ (cutAt separator text).1) : c ∈ text := by
  by_cases found : separator ∈ text
  · rcases List.eq_append_cons_of_mem found with ⟨before, after, parts, absent⟩
    rw [parts, cutAt_append absent] at member
    rw [parts]
    exact List.mem_append_left _ member
  · rwa [cutAt_of_not_mem found] at member

theorem mem_of_mem_cutAt_snd {separator c : Char} {text : Text}
    (member : c ∈ (cutAt separator text).2.getD []) : c ∈ text := by
  by_cases found : separator ∈ text
  · rcases List.eq_append_cons_of_mem found with ⟨before, after, parts, absent⟩
    rw [parts, cutAt_append absent] at member
    rw [parts]
    exact List.mem_append_right _ (List.mem_cons_of_mem separator member)
  · rw [cutAt_of_not_mem found] at member
    cases member

theorem filter_cutAt {separator : Char} {keep : Char → Bool} (dropped : keep separator = false)
    (text : Text) :
    (cutAt separator text).1.filter keep ++ ((cutAt separator text).2.getD []).filter keep =
      text.filter keep := by
  induction text with
  | nil => rfl
  | cons c rest induction =>
      by_cases equal : c = separator
      · simp [cutAt, equal, dropped]
      · rw [List.filter_cons, ← induction]
        cases kept : keep c <;> simp [cutAt, equal, kept]

theorem splitOn_ne_nil (separator : Char) (text : Text) : splitOn separator text ≠ [] := by
  cases text with
  | nil => simp [splitOn]
  | cons c rest =>
      unfold splitOn
      split
      · simp
      · split <;> simp

theorem splitOn_of_not_mem {separator : Char} {text : Text} (absent : separator ∉ text) :
    splitOn separator text = [text] := by
  induction text with
  | nil => rfl
  | cons c rest induction =>
      rcases List.ne_and_not_mem_of_not_mem_cons absent with ⟨different, later⟩
      simp [splitOn, different.symm, induction later]

theorem splitOn_append {separator : Char} {before : Text} (absent : separator ∉ before)
    (after : Text) :
    splitOn separator (before ++ separator :: after) = before :: splitOn separator after := by
  induction before with
  | nil => simp [splitOn]
  | cons c rest induction =>
      rcases List.ne_and_not_mem_of_not_mem_cons absent with ⟨different, later⟩
      simp [splitOn, different.symm, induction later]

theorem mem_of_mem_splitOn {separator : Char} {text piece : Text}
    (member : piece ∈ splitOn separator text) {c : Char} (inside : c ∈ piece) : c ∈ text := by
  induction text generalizing piece with
  | nil => simp_all [splitOn]
  | cons head rest induction =>
      unfold splitOn at member
      split at member
      · rcases List.mem_cons.mp member with equal | later
        · simp [equal] at inside
        · exact List.mem_cons_of_mem head (induction later inside)
      · split at member
        · next empty => exact absurd empty (splitOn_ne_nil separator rest)
        · next first others split =>
          rw [split] at induction
          rcases List.mem_cons.mp member with rfl | later
          · rcases List.mem_cons.mp inside with rfl | deeper
            · exact List.mem_cons_self
            · exact List.mem_cons_of_mem head (induction List.mem_cons_self deeper)
          · exact List.mem_cons_of_mem head
              (induction (List.mem_cons_of_mem first later) inside)

theorem exists_mem_splitOn {separator c : Char} (noSeparator : c ≠ separator) {text : Text}
    (member : c ∈ text) : ∃ piece ∈ splitOn separator text, c ∈ piece := by
  induction text with
  | nil => cases member
  | cons head rest induction =>
      by_cases equal : head = separator
      · rcases List.mem_cons.mp member with rfl | later
        · exact absurd equal noSeparator
        · rcases induction later with ⟨piece, isPiece, inside⟩
          rw [splitOn, if_pos equal]
          exact ⟨piece, List.mem_cons_of_mem [] isPiece, inside⟩
      · cases split : splitOn separator rest with
        | nil => exact absurd split (splitOn_ne_nil separator rest)
        | cons first others =>
            rw [splitOn, if_neg equal, split]
            rw [split] at induction
            rcases List.mem_cons.mp member with rfl | later
            · exact ⟨c :: first, List.mem_cons_self, List.mem_cons_self⟩
            · rcases induction later with ⟨piece, isPiece, inside⟩
              rcases List.mem_cons.mp isPiece with rfl | deeper
              · exact ⟨head :: piece, List.mem_cons_self, List.mem_cons_of_mem head inside⟩
              · exact ⟨piece, List.mem_cons_of_mem _ deeper, inside⟩

theorem not_mem_of_mem_splitOn {separator : Char} {text piece : Text}
    (member : piece ∈ splitOn separator text) : separator ∉ piece := by
  induction text generalizing piece with
  | nil => simp_all [splitOn]
  | cons c rest induction =>
      by_cases equal : c = separator
      · rw [splitOn, if_pos equal] at member
        rcases List.mem_cons.mp member with rfl | later
        · exact List.not_mem_nil
        · exact induction later
      · cases split : splitOn separator rest with
        | nil => exact absurd split (splitOn_ne_nil separator rest)
        | cons first others =>
            rw [splitOn, if_neg equal, split] at member
            rw [split] at induction
            rcases List.mem_cons.mp member with rfl | later
            · rw [List.mem_cons, not_or]
              exact ⟨Ne.symm equal, induction List.mem_cons_self⟩
            · exact induction (List.mem_cons_of_mem first later)

theorem splitOn_replicate_append (separator : Char) (count : Nat) (text : Text) :
    splitOn separator (List.replicate count separator ++ text) =
      List.replicate count [] ++ splitOn separator text := by
  induction count with
  | zero => rfl
  | succ count induction =>
      rw [List.replicate_succ, List.cons_append, splitOn, if_pos rfl, induction,
        List.replicate_succ, List.cons_append]

/-! ## Joining -/

@[simp] theorem join_singleton (separator : String) (piece : Text) :
    join separator [piece] = piece := by
  simp [join]

@[simp] theorem join_cons_cons (separator : String) (first second : Text) (rest : List Text) :
    join separator (first :: second :: rest) =
      first ++ separator.toList ++ join separator (second :: rest) := by
  simp [join]

theorem join_char_cons_cons {separator : String} {c : Char} (single : separator.toList = [c])
    (first second : Text) (rest : List Text) :
    join separator (first :: second :: rest) = first ++ c :: join separator (second :: rest) := by
  rw [join_cons_cons, single, List.append_assoc, List.singleton_append]

theorem join_cons_char (separator : String) (c : Char) (piece : Text) (rest : List Text) :
    join separator ((c :: piece) :: rest) = c :: join separator (piece :: rest) := by
  cases rest with
  | nil => rw [join_singleton, join_singleton]
  | cons second rest => rw [join_cons_cons, join_cons_cons, List.cons_append, List.cons_append]

theorem join_ne_nil (separator : String) {first : Text} (filled : first ≠ []) (rest : List Text) :
    join separator (first :: rest) ≠ [] := by
  cases first with
  | nil => exact absurd rfl filled
  | cons c piece =>
      rw [join_cons_char]
      exact List.cons_ne_nil c _

theorem splitOn_join {separator : String} {c : Char} (single : separator.toList = [c])
    {first : Text} {rest : List Text} (absent : ∀ piece ∈ first :: rest, c ∉ piece) :
    splitOn c (join separator (first :: rest)) = first :: rest := by
  induction rest generalizing first with
  | nil =>
      rw [join_singleton]
      exact splitOn_of_not_mem (absent first List.mem_cons_self)
  | cons second rest induction =>
      have later := induction fun piece member => absent piece (List.mem_cons_of_mem first member)
      rw [join_char_cons_cons single, splitOn_append (absent first List.mem_cons_self), later]

theorem join_splitOn {separator : String} {c : Char} (single : separator.toList = [c])
    (text : Text) : join separator (splitOn c text) = text := by
  induction text with
  | nil => rfl
  | cons d rest induction =>
      cases split : splitOn c rest with
      | nil => exact absurd split (splitOn_ne_nil c rest)
      | cons first others =>
          rw [split] at induction
          by_cases equal : d = c
          · rw [splitOn, if_pos equal, split, join_char_cons_cons single, induction, equal,
              List.nil_append]
          · rw [splitOn, if_neg equal, split]
            exact (join_cons_char separator d first others).trans (congrArg (d :: ·) induction)

theorem mem_join {separator : String} {pieces : List Text} {c : Char}
    (member : c ∈ join separator pieces) :
    c ∈ separator.toList ∨ ∃ piece ∈ pieces, c ∈ piece := by
  induction pieces with
  | nil => cases member
  | cons first rest induction =>
      cases rest with
      | nil =>
          rw [join_singleton] at member
          exact .inr ⟨first, List.mem_cons_self, member⟩
      | cons second rest =>
          rw [join_cons_cons, List.mem_append, List.mem_append] at member
          rcases member with (inFirst | inSeparator) | later
          · exact .inr ⟨first, List.mem_cons_self, inFirst⟩
          · exact .inl inSeparator
          · rcases induction later with inSeparator | ⟨piece, deeper, inside⟩
            · exact .inl inSeparator
            · exact .inr ⟨piece, List.mem_cons_of_mem first deeper, inside⟩

theorem mem_join_of_mem (separator : String) {pieces : List Text} {piece : Text}
    (isPiece : piece ∈ pieces) {c : Char} (inside : c ∈ piece) : c ∈ join separator pieces := by
  induction pieces with
  | nil => cases isPiece
  | cons first rest induction =>
      cases rest with
      | nil =>
          rw [join_singleton, ← List.mem_singleton.mp isPiece]
          exact inside
      | cons second rest =>
          rw [join_cons_cons, List.mem_append, List.mem_append]
          rcases List.mem_cons.mp isPiece with rfl | later
          · exact .inl (.inl inside)
          · exact .inr (induction later)

theorem IsAscii.join {separator : String} (separatorAscii : IsAscii separator.toList)
    {pieces : List Text} (each : ∀ piece ∈ pieces, IsAscii piece) :
    IsAscii (Text.join separator pieces) := by
  intro c member
  rcases mem_join member with inSeparator | ⟨piece, isPiece, inside⟩
  · exact separatorAscii c inSeparator
  · exact each piece isPiece c inside

theorem filter_join {separator : String} {keep : Char → Bool}
    (dropped : separator.toList.filter keep = []) (pieces : List Text) :
    (join separator pieces).filter keep = pieces.flatten.filter keep := by
  induction pieces with
  | nil => rfl
  | cons first rest induction =>
      cases rest with
      | nil => simp
      | cons second rest =>
          rw [join_cons_cons, List.filter_append, List.filter_append, dropped, induction]
          simp

theorem join_injective {separator : String} {front : Text} {c : Char}
    (parts : separator.toList = front ++ [c]) (noMark : c ∉ front) {left right : List Text}
    (leftPlain : ∀ piece ∈ left, piece ≠ [] ∧ c ∉ piece)
    (rightPlain : ∀ piece ∈ right, piece ≠ [] ∧ c ∉ piece)
    (equal : join separator left = join separator right) : left = right := by
  have joined : ∀ first second rest, join separator (first :: second :: rest) =
      (first ++ front) ++ c :: join separator (second :: rest) := by
    intro first second rest
    rw [join_cons_cons, parts]
    simp
  induction left generalizing right with
  | nil =>
      cases right with
      | nil => rfl
      | cons first rest =>
          exact absurd equal.symm (join_ne_nil separator (rightPlain first List.mem_cons_self).1 rest)
  | cons first rest induction =>
      rcases leftPlain first List.mem_cons_self with ⟨filled, absent⟩
      cases right with
      | nil => exact absurd equal (join_ne_nil separator filled rest)
      | cons other others =>
          have otherAbsent := (rightPlain other List.mem_cons_self).2
          match rest, others with
          | [], [] => rw [join_singleton, join_singleton] at equal; rw [equal]
          | [], next :: more =>
              rw [join_singleton, joined] at equal
              rw [equal] at absent
              simp at absent
          | next :: more, [] =>
              rw [join_singleton, joined] at equal
              rw [← equal] at otherAbsent
              simp at otherAbsent
          | next :: more, otherNext :: otherMore =>
              rw [joined, joined] at equal
              -- Both first pieces end in front of the first mark.
              have cutLeft := cutAt_append (by simp [absent, noMark] : c ∉ first ++ front)
                (join separator (next :: more))
              have cutRight := cutAt_append (by simp [otherAbsent, noMark] : c ∉ other ++ front)
                (join separator (otherNext :: otherMore))
              rw [equal, cutRight, Prod.mk.injEq, Option.some.injEq] at cutLeft
              have same := List.append_cancel_right cutLeft.1
              have later := induction
                (fun piece member => leftPlain piece (List.mem_cons_of_mem first member))
                (fun piece member => rightPlain piece (List.mem_cons_of_mem other member))
                cutLeft.2.symm
              rw [same, later]

/-! ## Replacing characters -/

theorem replaceChar_of_not_mem {target : Char} (replacement : Text) {text : Text}
    (absent : target ∉ text) : replaceChar target replacement text = text := by
  induction text with
  | nil => rfl
  | cons c rest induction =>
      rcases List.ne_and_not_mem_of_not_mem_cons absent with ⟨different, later⟩
      have tail := induction later
      rw [replaceChar] at tail ⊢
      rw [List.flatMap_cons, tail, if_neg different.symm, List.singleton_append]

theorem filter_replaceChar {target : Char} {replacement : Text} {keep : Char → Bool}
    (same : replacement.filter keep = [target].filter keep) (text : Text) :
    (replaceChar target replacement text).filter keep = text.filter keep := by
  induction text with
  | nil => rfl
  | cons c rest induction =>
      rw [replaceChar] at induction ⊢
      rw [List.flatMap_cons, List.filter_append, induction]
      by_cases equal : c = target
      · rw [if_pos equal, same, equal, ← List.filter_append, List.singleton_append]
      · rw [if_neg equal, ← List.filter_append, List.singleton_append]

/-! ## Renaming characters -/

section Renaming

variable {rename : Char → Char}

theorem trimBy_map {inClass : Char → Bool} (same : ∀ c, inClass (rename c) = inClass c)
    (text : Text) : trimBy inClass (text.map rename) = (trimBy inClass text).map rename := by
  have class_eq : inClass ∘ rename = inClass := funext same
  rw [trimBy, trimBy, List.dropWhile_map, class_eq, ← List.map_reverse, List.dropWhile_map,
    class_eq, ← List.map_reverse]

theorem cutAt_map {separator : Char} (same : ∀ c, rename c = separator ↔ c = separator)
    (text : Text) : cutAt separator (text.map rename) =
      ((cutAt separator text).1.map rename, (cutAt separator text).2.map (List.map rename)) := by
  induction text with
  | nil => rfl
  | cons c rest induction =>
      by_cases equal : c = separator
      · simp [cutAt, equal, (same separator).mpr rfl]
      · have different : rename c ≠ separator := mt (same c).mp equal
        simp [cutAt, different, equal, induction]

theorem join_map {separator : String} (kept : separator.toList.map rename = separator.toList)
    (pieces : List Text) :
    (join separator pieces).map rename = join separator (pieces.map (List.map rename)) := by
  match pieces with
  | [] => rfl
  | [last] => rw [List.map_singleton, join_singleton, join_singleton]
  | first :: second :: rest =>
      have later := join_map kept (second :: rest)
      rw [List.map_cons, List.map_cons, join_cons_cons, join_cons_cons, List.map_append,
        List.map_append, kept, later, List.map_cons]

end Renaming

end SymbolScript.Text
