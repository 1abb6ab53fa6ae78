import Mathlib.Data.List.Infix
import SymbolScript.Store.Basic

/-!
What writing a file does to a store. A path is followed through directories, so the file that it
leads to has directories above it already; writing it changes what is at its location and nothing
else, not even which locations are directories.
-/

namespace SymbolScript

def Location.step (part : Text) (location : Location) : Location :=
  if part = ['.', '.'] then location.up else location.down part

theorem Location.length_up_le (location : Location) :
    location.up.names.length ≤ location.names.length := by
  rcases location with ⟨anchor, names⟩
  cases names with
  | nil => cases anchor <;> exact Nat.le_refl 0
  | cons first rest => exact (List.dropLast_sublist (first :: rest)).length_le

theorem Location.step_injective {location : Location} {part other : Text}
    (notUp : other ≠ ['.', '.']) (equal : location.step part = location.step other) :
    part = other := by
  have goesDown : location.step other = location.down other := if_neg notUp
  rw [goesDown] at equal
  by_cases up : part = ['.', '.']
  · have goesUp : location.step part = location.up := if_pos up
    have shorter := location.length_up_le
    rw [← goesUp, equal, Location.down, List.length_append, List.length_singleton] at shorter
    omega
  · have goesDownToo : location.step part = location.down part := if_neg up
    rw [goesDownToo] at equal
    have sameNames := List.append_cancel_left (congrArg Location.names equal)
    exact (List.cons.inj sameNames).1

namespace Store

variable {store after : Store} {path : Path} {location target : Location}

/-! ## Following paths -/

def NameFits (part : Text) : Prop :=
  part = ['.', '.'] ∨ (Text.Utf8.encode part).length ≤ nameLimit

theorem follow_cons_iff {part : Text} {rest : List Text} :
    store.follow path location (part :: rest) = .ok target ↔
      store.entry location = .directory ∧ store.closed.contains location = false ∧
        NameFits part ∧ store.follow path (location.step part) rest = .ok target := by
  rw [follow, Location.step, NameFits]
  cases store.entry location with
  | file content => simp
  | nothing => simp
  | directory =>
      cases store.closed.contains location with
      | true => simp
      | false =>
          by_cases up : part = ['.', '.']
          · simp [up]
          · by_cases long : nameLimit < (Text.Utf8.encode part).length
            · simp [up, long, Nat.not_le.mpr long]
            · simp [up, long, Nat.not_lt.mp long]

def HasDirectoriesAbove (store : Store) (location : Location) : Prop :=
  ∀ names, names <+: location.names → names ≠ location.names →
    store.entry ⟨location.anchor, names⟩ = .directory

theorem hasDirectoriesAbove_anchor (store : Store) (anchor : Anchor) :
    store.HasDirectoriesAbove ⟨anchor, []⟩ :=
  fun _ above below => absurd (List.prefix_nil.mp above) below

theorem HasDirectoriesAbove.up (above : store.HasDirectoriesAbove location) :
    store.HasDirectoriesAbove location.up := by
  rcases location with ⟨anchor, names⟩
  cases names with
  | nil =>
      cases anchor with
      | root => exact above
      | working count => exact hasDirectoriesAbove_anchor store _
  | cons first rest =>
      intro names inFront different
      have front := List.dropLast_prefix (first :: rest)
      apply above names (inFront.trans front)
      rintro rfl
      have shorter := inFront.length_le
      rw [Location.up, List.length_dropLast, List.length_cons] at shorter
      omega

theorem HasDirectoriesAbove.down (above : store.HasDirectoriesAbove location)
    (directory : store.entry location = .directory) (part : Text) :
    store.HasDirectoriesAbove (location.down part) := by
  intro names inFront different
  rcases List.prefix_concat_iff.mp inFront with equal | inside
  · exact absurd equal different
  · by_cases same : names = location.names
    · rw [same]
      exact directory
    · exact above names inside same

theorem HasDirectoriesAbove.step (above : store.HasDirectoriesAbove location)
    (directory : store.entry location = .directory) (part : Text) :
    store.HasDirectoriesAbove (location.step part) := by
  unfold Location.step
  split
  · exact above.up
  · exact above.down directory part

theorem HasDirectoriesAbove.of_follow {parts : List Text}
    (above : store.HasDirectoriesAbove location)
    (followed : store.follow path location parts = .ok target) :
    store.HasDirectoriesAbove target := by
  induction parts generalizing location with
  | nil =>
      cases followed
      exact above
  | cons part rest induction =>
      rcases follow_cons_iff.mp followed with ⟨directory, _, _, later⟩
      exact induction (above.step directory part) later

theorem hasDirectoriesAbove_of_locate (located : store.locate path = .ok target) :
    store.HasDirectoriesAbove target := by
  rw [locate] at located
  split at located
  · cases located
  · exact (hasDirectoriesAbove_anchor store _).of_follow located

theorem follow_of_agree (entered : ∀ location, store.entry location = .directory →
    after.entry location = .directory) (sameClosed : after.closed = store.closed)
    {parts : List Text} (followed : store.follow path location parts = .ok target) :
    after.follow path location parts = .ok target := by
  induction parts generalizing location with
  | nil => exact followed
  | cons part rest induction =>
      rcases follow_cons_iff.mp followed with ⟨directory, isOpen, fits, later⟩
      exact follow_cons_iff.mpr
        ⟨entered location directory, sameClosed ▸ isOpen, fits, induction later⟩

theorem locate_of_agree (entered : ∀ location, store.entry location = .directory →
    after.entry location = .directory) (sameClosed : after.closed = store.closed)
    (located : store.locate path = .ok target) : after.locate path = .ok target := by
  rw [locate] at located ⊢
  split at located
  · cases located
  · next short =>
      rw [if_neg short]
      exact follow_of_agree entered sameClosed located

/-! ## The last part of a path -/

theorem follow_of_other {parts : List Text} (other : Path)
    (followed : store.follow path location parts = .ok target) :
    store.follow other location parts = .ok target := by
  induction parts generalizing location with
  | nil => exact followed
  | cons part rest induction =>
      rcases follow_cons_iff.mp followed with ⟨directory, isOpen, fits, later⟩
      exact follow_cons_iff.mpr ⟨directory, isOpen, fits, induction later⟩

theorem exists_of_follow_append {front rest : List Text}
    (followed : store.follow path location (front ++ rest) = .ok target) :
    ∃ middle, store.follow path location front = .ok middle ∧
      store.follow path middle rest = .ok target := by
  induction front generalizing location with
  | nil => exact ⟨location, rfl, followed⟩
  | cons part front induction =>
      rcases follow_cons_iff.mp followed with ⟨directory, isOpen, fits, later⟩
      rcases induction later with ⟨middle, reached, final⟩
      exact ⟨middle, follow_cons_iff.mpr ⟨directory, isOpen, fits, reached⟩, final⟩

theorem follow_of_locate (located : store.locate path = .ok location) :
    store.follow path ⟨if path.slashes = 0 then .working 0 else .root, []⟩ path.parts =
      .ok location := by
  rw [locate] at located
  split at located
  · cases located
  · exact located

theorem locate_ne_of_last {other : Path} {front : List Text} {name otherName : Text}
    (sameSlashes : other.slashes = path.slashes) (parts : path.parts = front ++ [name])
    (otherParts : other.parts = front ++ [otherName]) (different : name ≠ otherName)
    (notUp : otherName ≠ ['.', '.']) (located : store.locate path = .ok location)
    (otherLocated : store.locate other = .ok target) : location ≠ target := by
  have followed := follow_of_locate located
  have otherFollowed := follow_of_locate otherLocated
  rw [parts] at followed
  rw [otherParts, sameSlashes] at otherFollowed
  rcases exists_of_follow_append followed with ⟨directory, reached, final⟩
  rcases exists_of_follow_append otherFollowed with ⟨otherDirectory, otherReached, otherFinal⟩
  have sameDirectory : directory = otherDirectory :=
    Except.ok.inj (reached.symm.trans (follow_of_other path otherReached))
  have isStep : directory.step name = location := Except.ok.inj (follow_cons_iff.mp final).2.2.2
  have otherIsStep : otherDirectory.step otherName = target :=
    Except.ok.inj (follow_cons_iff.mp otherFinal).2.2.2
  rw [← isStep, ← otherIsStep, ← sameDirectory]
  exact fun equal => different (Location.step_injective notUp equal)

/-! ## Writing -/

def isAbove (location file : Location) : Bool :=
  file.anchor == location.anchor && file.names != location.names &&
    location.names.isPrefixOf file.names

theorem isDirectory_eq (store : Store) (location : Location) :
    store.isDirectory location = (location.names.isEmpty || store.directories.contains location ||
      store.contents.any fun entry => isAbove location entry.1) := rfl

def put (store : Store) (location : Location) (content : Bytes) : Store :=
  { store with contents := Dictionary.set location content store.contents }

theorem entry_put_self (store : Store) (location : Location) (content : Bytes) :
    (store.put location content).entry location = .file content := by
  simp only [entry, put, Dictionary.get?_set_self]

theorem isDirectory_of_entry (directory : store.entry location = .directory) :
    store.isDirectory location = true := by
  rw [entry] at directory
  split at directory
  · cases directory
  · split at directory
    · assumption
    · cases directory

theorem isDirectory_put (above : store.HasDirectoriesAbove target) (content : Bytes)
    (location : Location) :
    (store.put target content).isDirectory location = store.isDirectory location := by
  rw [isDirectory_eq, isDirectory_eq]
  simp only [put, Dictionary.any_set]
  cases higher : isAbove location target with
  | false => rw [Bool.false_or]
  | true =>
      simp only [isAbove, Bool.and_eq_true, beq_iff_eq, bne_iff_ne, List.isPrefixOf_iff_prefix]
        at higher
      rcases higher with ⟨⟨sameAnchor, different⟩, inFront⟩
      have directory := above location.names inFront (Ne.symm different)
      rw [sameAnchor] at directory
      have already := isDirectory_of_entry directory
      rw [isDirectory_eq] at already
      rw [already, Bool.true_or, Bool.or_true]

theorem entry_put_of_ne (above : store.HasDirectoriesAbove target) (content : Bytes)
    (different : location ≠ target) :
    (store.put target content).entry location = store.entry location := by
  rw [entry, entry, isDirectory_put above]
  simp only [put, Dictionary.get?_set_of_ne different]

theorem write_eq_ok_iff {content : Bytes} : store.write path content = .ok after ↔
    ∃ location, store.locate path = .ok location ∧ store.entry location ≠ .directory ∧
      location ∉ store.readOnly ∧ after = store.put location content := by
  constructor
  · intro written
    rw [write] at written
    cases located : store.locate path with
    | error fault => simp [located, bind, Except.bind] at written
    | ok location =>
        simp only [located, bind, Except.bind] at written
        split at written
        · cases written
        · next noDirectory =>
            split at written
            · cases written
            · next writable =>
                cases written
                exact ⟨location, rfl, noDirectory, by simpa using writable, rfl⟩
  · rintro ⟨location, located, noDirectory, writable, rfl⟩
    rw [write, located]
    simp only [bind, Except.bind]
    rw [if_neg (by simpa using writable)]
    rfl

theorem write_spec {content : Bytes} (written : store.write path content = .ok after) :
    ∃ location, store.locate path = .ok location ∧ after.locate path = .ok location ∧
      after.entry location = .file content ∧
      ∀ other, other ≠ location → after.entry other = store.entry other := by
  rcases write_eq_ok_iff.mp written with ⟨location, located, noDirectory, _, rfl⟩
  have above := hasDirectoriesAbove_of_locate located
  have others : ∀ other, other ≠ location →
      (store.put location content).entry other = store.entry other :=
    fun other different => entry_put_of_ne above content different
  have entered : ∀ other, store.entry other = .directory →
      (store.put location content).entry other = .directory := by
    intro other directory
    have different : other ≠ location := by
      rintro rfl
      exact noDirectory directory
    rw [others other different, directory]
  exact ⟨location, located, locate_of_agree entered rfl located,
    entry_put_self store location content, others⟩

end Store

end SymbolScript
