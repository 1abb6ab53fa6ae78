import SymbolScript.Proofs.Text.Basic
import SymbolScript.Store.Path

/-!
The spelling of a path names it: a path that is read from a text, or gets another extension, is
given back by its own spelling.
-/

namespace SymbolScript.Path

open Text

/-! ## Proper paths -/

structure IsPart (part : Text) : Prop where
  filled : part ≠ []
  notDot : part ≠ ['.']
  noSlash : '/' ∉ part

/-- Whether a path has parts only that reading keeps, behind as many slashes as reading gives. -/
structure IsProper (path : Path) : Prop where
  slashes : path.slashes ≤ 2
  parts : ∀ part ∈ path.parts, IsPart part

theorem isProper_ofText (text : Text) : (ofText text).IsProper where
  slashes := by
    simp only [ofText]
    split <;> omega
  parts := by
    intro part member
    rcases List.mem_filter.mp member with ⟨isPiece, kept⟩
    simp only [Bool.and_eq_true, bne_iff_ne] at kept
    exact ⟨kept.1, kept.2, not_mem_of_mem_splitOn isPiece⟩

/-! ## Extensions -/

theorem mem_of_mem_stem {name : Text} {c : Char} (member : c ∈ stem name) : c ∈ name := by
  simp only [stem] at member
  split at member
  · exact member
  · exact List.mem_of_mem_take member

theorem isPart_stem_append {name : Text} (isPart : IsPart name) {extension : String}
    (long : 2 ≤ extension.toList.length) (noSlash : '/' ∉ extension.toList) :
    IsPart (stem name ++ extension.toList) := by
  have filled : 2 ≤ (stem name ++ extension.toList).length := by
    rw [List.length_append]
    omega
  refine ⟨?_, ?_, ?_⟩
  · intro empty
    rw [empty] at filled
    cases filled
  · intro dot
    rw [dot] at filled
    exact absurd filled (by decide)
  · rw [List.mem_append, not_or]
    exact ⟨fun member => isPart.noSlash (mem_of_mem_stem member), noSlash⟩

theorem stem_ne_nil {name : Text} (filled : name ≠ []) : stem name ≠ [] := by
  simp only [stem]
  split
  · exact filled
  · next proper =>
    intro empty
    simp [empty] at proper

theorem stem_append {front letters : Text} (filled : front ≠ []) (lettersFilled : letters ≠ [])
    (noDot : '.' ∉ letters) : stem (front ++ '.' :: letters) = front := by
  have afterDot : (front ++ '.' :: letters).reverse.takeWhile (· != '.') = letters.reverse := by
    have noDotBehind : ∀ c ∈ letters.reverse, (c != '.') = true := by
      intro c member
      rw [bne_iff_ne]
      rintro rfl
      exact noDot (List.mem_reverse.mp member)
    rw [List.reverse_append, List.reverse_cons, List.append_assoc,
      List.takeWhile_append_of_pos noDotBehind, List.singleton_append,
      List.takeWhile_cons_of_neg (by simp), List.append_nil]
  have beforeDot : (front ++ '.' :: letters).take
      ((front ++ '.' :: letters).length - letters.reverse.length - 1) = front := by
    rw [List.length_append, List.length_cons, List.length_reverse,
      show front.length + (letters.length + 1) - letters.length - 1 = front.length by omega,
      List.take_left]
  simp only [stem, afterDot, beforeDot]
  rw [if_neg (by simp [filled, lettersFilled])]

/-- Whether the last part of a path, if there is one, ends in an extension and has more in front of
it. -/
def HasExtension (extension : String) (path : Path) : Prop :=
  ∀ name, path.parts.getLast? = some name → ∃ front, front ≠ [] ∧ name = front ++ extension.toList

theorem withExtension_of_last {path : Path} {name : Text} (last : path.parts.getLast? = some name)
    (extension : String) :
    path.withExtension extension =
      { path with parts := path.parts.dropLast ++ [stem name ++ extension.toList] } := by
  rw [withExtension, last]

theorem withExtension_of_none {path : Path} (noLast : path.parts.getLast? = none)
    (extension : String) : path.withExtension extension = path := by
  rw [withExtension, noLast]

theorem IsProper.withExtension_eq_self_iff {path : Path} (isProper : path.IsProper)
    {extension : String} {letters : Text} (dotted : extension.toList = '.' :: letters)
    (lettersFilled : letters ≠ []) (noDot : '.' ∉ letters) :
    path.withExtension extension = path ↔ path.HasExtension extension := by
  cases last : path.parts.getLast? with
  | none =>
      rw [withExtension_of_none last, HasExtension, last]
      exact ⟨fun _ _ found => (nomatch found), fun _ => rfl⟩
  | some name =>
      have whole : path.parts.dropLast ++ [name] = path.parts :=
        List.dropLast_append_getLast? name last
      have filled : name ≠ [] := (isProper.parts name (List.mem_of_getLast? last)).filled
      rw [withExtension_of_last last, HasExtension, last]
      constructor
      · intro same other found
        cases found
        have sameParts : path.parts.dropLast ++ [stem name ++ extension.toList] =
            path.parts.dropLast ++ [name] := (congrArg Path.parts same).trans whole.symm
        have sameName := List.append_cancel_left sameParts
        exact ⟨stem name, stem_ne_nil filled, (List.cons.inj sameName).1.symm⟩
      · intro ends
        rcases ends name rfl with ⟨front, frontFilled, equal⟩
        have kept : stem name = front := by
          rw [equal, dotted]
          exact stem_append frontFilled lettersFilled noDot
        rw [kept, ← equal, whole]

theorem IsProper.withExtension {path : Path} (isProper : path.IsProper) {extension : String}
    (long : 2 ≤ extension.toList.length) (noSlash : '/' ∉ extension.toList) :
    (path.withExtension extension).IsProper := by
  unfold Path.withExtension
  split
  · exact isProper
  · next name last =>
      refine ⟨isProper.slashes, fun part member => ?_⟩
      rcases List.mem_append.mp member with inFront | isLast
      · exact isProper.parts part (List.dropLast_subset path.parts inFront)
      · rw [List.mem_singleton.mp isLast]
        exact isPart_stem_append (isProper.parts name (List.mem_of_getLast? last)) long noSlash

/-! ## Characters -/

theorem mem_toText_iff {path : Path} {c : Char} (noSlash : c ≠ '/') (noDot : c ≠ '.') :
    c ∈ path.toText ↔ ∃ part ∈ path.parts, c ∈ part := by
  rw [toText]
  split
  · next bare =>
    simp only [Bool.and_eq_true, List.isEmpty_iff] at bare
    simp [bare.2, noDot]
  · rw [List.mem_append]
    constructor
    · rintro (inSlashes | inParts)
      · exact absurd (List.eq_of_mem_replicate inSlashes) noSlash
      · rcases mem_join inParts with inSeparator | inside
        · exact absurd (List.mem_singleton.mp inSeparator) noSlash
        · exact inside
    · rintro ⟨part, isPart, inside⟩
      exact .inr (mem_join_of_mem "/" isPart inside)

theorem mem_toText_ofText_iff {text : Text} {c : Char} (noSlash : c ≠ '/') (noDot : c ≠ '.') :
    c ∈ (ofText text).toText ↔ c ∈ text := by
  rw [mem_toText_iff noSlash noDot]
  constructor
  · rintro ⟨part, isPart, inside⟩
    exact mem_of_mem_splitOn (List.mem_filter.mp isPart).1 inside
  · intro member
    rcases exists_mem_splitOn noSlash member with ⟨piece, isPiece, inside⟩
    refine ⟨piece, List.mem_filter.mpr ⟨isPiece, ?_⟩, inside⟩
    have filled : piece ≠ [] := List.ne_nil_of_mem inside
    have notDot : piece ≠ ['.'] := by
      rintro rfl
      exact noDot (List.mem_singleton.mp inside)
    simp [filled, notDot]

theorem mem_of_mem_toText_withExtension {path : Path} {extension : String} {c : Char}
    (noSlash : c ≠ '/') (noDot : c ≠ '.') (foreign : c ∉ extension.toList)
    (member : c ∈ (path.withExtension extension).toText) : c ∈ path.toText := by
  rw [mem_toText_iff noSlash noDot] at member ⊢
  cases last : path.parts.getLast? with
  | none => rwa [withExtension_of_none last] at member
  | some name =>
      rw [withExtension_of_last last] at member
      rcases member with ⟨part, isPart, inside⟩
      rcases List.mem_append.mp isPart with inFront | isLast
      · exact ⟨part, List.dropLast_subset path.parts inFront, inside⟩
      · rw [List.mem_singleton.mp isLast, List.mem_append] at inside
        exact ⟨name, List.mem_of_getLast? last, mem_of_mem_stem (inside.resolve_right foreign)⟩

/-! ## Spelling -/

theorem takeWhile_slash_join {parts : List Text} (each : ∀ part ∈ parts, IsPart part) :
    (join "/" parts).takeWhile (· == '/') = [] := by
  cases parts with
  | nil => rfl
  | cons first rest =>
      have isPart := each first List.mem_cons_self
      cases first with
      | nil => exact absurd rfl isPart.filled
      | cons c piece =>
          have noSlash : c ≠ '/' := fun slash => isPart.noSlash (slash ▸ List.mem_cons_self)
          rw [join_cons_char, List.takeWhile_cons_of_neg (by simpa using noSlash)]

theorem filter_splitOn_join {parts : List Text} (each : ∀ part ∈ parts, IsPart part) :
    (splitOn '/' (join "/" parts)).filter (fun part => part != [] && part != ['.']) = parts := by
  cases parts with
  | nil => rfl
  | cons first rest =>
      rw [splitOn_join rfl fun part member => (each part member).noSlash, List.filter_eq_self]
      intro part member
      simpa using And.intro (each part member).filled (each part member).notDot

theorem ofText_replicate_append_join {count : Nat} (few : count ≤ 2) {parts : List Text}
    (each : ∀ part ∈ parts, IsPart part) :
    ofText (List.replicate count '/' ++ join "/" parts) = ⟨count, parts⟩ := by
  have slashes : ((List.replicate count '/' ++ join "/" parts).takeWhile (· == '/')).length =
      count := by
    rw [List.takeWhile_append_of_pos (by simp), takeWhile_slash_join each, List.append_nil,
      List.length_replicate]
  have pieces : (splitOn '/' (List.replicate count '/' ++ join "/" parts)).filter
      (fun part => part != [] && part != ['.']) = parts := by
    have noEmpty : (List.replicate count ([] : Text)).filter
        (fun part => part != [] && part != ['.']) = [] := by simp
    rw [splitOn_replicate_append, List.filter_append, noEmpty, filter_splitOn_join each,
      List.nil_append]
  have counts : count = 0 ∨ count = 1 ∨ count = 2 := by omega
  rw [ofText, slashes, pieces]
  rcases counts with rfl | rfl | rfl <;> rfl

theorem IsProper.ofText_toText {path : Path} (isProper : path.IsProper) :
    ofText path.toText = path := by
  rcases path with ⟨slashes, parts⟩
  by_cases bare : slashes = 0 ∧ parts = []
  · rcases bare with ⟨rfl, rfl⟩
    decide
  · have spelled : toText ⟨slashes, parts⟩ = List.replicate slashes '/' ++ join "/" parts :=
      if_neg (by simpa using bare)
    rw [spelled]
    exact ofText_replicate_append_join isProper.slashes isProper.parts

end SymbolScript.Path
