import SymbolScript.Proofs.SourceFile

/-!
When compiling a file overwrites its source. An output path that is derived from the path of the
source is a different path, and leads to a different file, unless the source has the extension of
the target already.
-/

namespace SymbolScript.SourceFile

variable {store after : Store} {options : CompileOptions}

/-! ## Derived output paths -/

/-- Whether the output path is left to be derived from the path of the source. -/
def DerivesPath (options : CompileOptions) : Prop :=
  ∀ given, options.outputPath = some given → given = []

theorem outputPath_of_derivesPath (derives : DerivesPath options) (source : Path) :
    outputPath options source = source.withExtension options.target.extension := by
  unfold outputPath
  split
  · rfl
  · rfl
  · next given filled found => exact absurd (derives given found) filled

theorem exists_letters (target : Target) : ∃ letters,
    target.extension.toList = '.' :: letters ∧ letters ≠ [] ∧ '.' ∉ letters := by
  cases target <;> exact ⟨_, rfl, by decide, by decide⟩

theorem withExtension_target_eq_self_iff {path : Path} (isProper : path.IsProper)
    (target : Target) :
    path.withExtension target.extension = path ↔ path.HasExtension target.extension := by
  rcases exists_letters target with ⟨letters, dotted, filled, noDot⟩
  exact isProper.withExtension_eq_self_iff dotted filled noDot

theorem append_extension_ne_up (front : Text) (target : Target) :
    front ++ target.extension.toList ≠ ['.', '.'] := by
  rcases exists_letters target with ⟨letters, dotted, filled, noDot⟩
  rw [dotted]
  intro up
  rcases List.append_eq_cons_iff.mp up with ⟨_, parts⟩ | ⟨rest, _, parts⟩
  · rw [(List.cons.inj parts).2] at noDot
    exact noDot (List.mem_singleton_self '.')
  · rcases List.append_eq_cons_iff.mp parts.symm with ⟨_, same⟩ | ⟨_, _, tooLong⟩
    · exact filled (List.cons.inj same).2
    · cases (List.append_eq_nil_iff.mp tooLong.symm).2

theorem locate_ne_of_withExtension {path : Path} {target : Target} {location other : Location}
    (changed : path.withExtension target.extension ≠ path)
    (located : store.locate path = .ok location)
    (otherLocated : store.locate (path.withExtension target.extension) = .ok other) :
    location ≠ other := by
  cases last : path.parts.getLast? with
  | none => exact absurd (Path.withExtension_of_none last _) changed
  | some name =>
      have whole : path.parts = path.parts.dropLast ++ [name] :=
        (List.dropLast_append_getLast? name last).symm
      have extended := Path.withExtension_of_last last target.extension
      have different : name ≠ Path.stem name ++ target.extension.toList := by
        intro same
        rw [← same, ← whole] at extended
        exact changed extended
      have sameSlashes : (path.withExtension target.extension).slashes = path.slashes := by
        rw [extended]
      exact Store.locate_ne_of_last sameSlashes whole (congrArg Path.parts extended) different
        (append_extension_ne_up _ target) located otherLocated

/-! ## Sources -/

theorem save_of_file {path : Path} {location : Location} {content : Bytes}
    (noNull : '\x00' ∉ path.toText) (located : store.locate path = .ok location)
    (held : store.entry location = .file content) (writable : location ∉ store.readOnly)
    (text : Text) :
    save store path text = .ok (store.put location (Text.Utf8.encode text)) := by
  have noDirectory : store.entry location ≠ .directory := by
    rw [held]
    exact nofun
  have written : store.write path (Text.Utf8.encode text) =
      .ok (store.put location (Text.Utf8.encode text)) :=
    Store.write_eq_ok_iff.mpr ⟨location, located, noDirectory, writable, rfl⟩
  exact save_eq_ok_iff.mpr ⟨noNull, written⟩

/-- What is saved at a derived output path leaves the source alone, or takes its place if the source
has the extension of the target. -/
theorem entry_source_of_saved {path text : Text} {location : Location} {content : Bytes}
    (derives : DerivesPath options) (located : store.locate (Path.ofText path) = .ok location)
    (held : store.entry location = .file content)
    (saved : save store (outputPath options (Path.ofText path)) text = .ok after) :
    after.entry location = .file content ∨
      (Path.ofText path).HasExtension options.target.extension ∧ location ∉ store.readOnly ∧
        after.entry location = .file (Text.Utf8.encode text) := by
  rcases Store.write_eq_ok_iff.mp (save_eq_ok_iff.mp saved).2 with
    ⟨written, writtenLocated, _, writable, rfl⟩
  rw [outputPath_of_derivesPath derives] at writtenLocated
  by_cases same : location = written
  · rw [← same] at writtenLocated writable ⊢
    have unchanged : (Path.ofText path).withExtension options.target.extension =
        Path.ofText path := by
      by_contra changed
      exact locate_ne_of_withExtension changed located writtenLocated rfl
    have hasExtension :=
      (withExtension_target_eq_self_iff (Path.isProper_ofText path) _).mp unchanged
    exact .inr ⟨hasExtension, writable, Store.entry_put_self _ _ _⟩
  · have above := Store.hasDirectoriesAbove_of_locate writtenLocated
    exact .inl ((Store.entry_put_of_ne above _ same).trans held)

/-- A file that is compiled with a derived output path keeps its content, unless it has the
extension of the target already and is not protected. Then the output takes the place of a source
that compiles, so the content stays only if it is the output. -/
theorem entry_compileWith_source_iff {passes : List Pass} {path : Text} {location : Location}
    {content : Bytes} (derives : DerivesPath options)
    (located : store.locate (Path.ofText path) = .ok location)
    (held : store.entry location = .file content) :
    (compileWith passes options path store).2.entry location = .file content ↔
      ((Path.ofText path).HasExtension options.target.extension → location ∉ store.readOnly →
        ∀ source, load store (Path.ofText path) = .ok source →
          (SymbolScript.compileWith passes options source).success = true →
            Text.Utf8.encode ((SymbolScript.compileWith passes options source).outputFor
              options.target) = content) := by
  constructor
  · intro kept hasExtension writable source loaded succeeded
    have unchanged :=
      (withExtension_target_eq_self_iff (Path.isProper_ofText path) _).mpr hasExtension
    have saved := save_of_file (load_eq_ok_iff.mp loaded).1 located held writable
      ((SymbolScript.compileWith passes options source).outputFor options.target)
    rw [← unchanged, ← outputPath_of_derivesPath derives] at saved
    rw [compileWith_of_saved loaded succeeded saved, Store.entry_put_self] at kept
    exact Store.Entry.file.inj kept
  · intro meets
    cases loaded : load store (Path.ofText path) with
    | error failure => rwa [compileWith_of_unread loaded]
    | ok source =>
        cases succeeded : (SymbolScript.compileWith passes options source).success with
        | false => rwa [compileWith_of_unsuccessful loaded succeeded]
        | true =>
            cases saved : save store (outputPath options (Path.ofText path))
                ((SymbolScript.compileWith passes options source).outputFor options.target) with
            | error failure => rwa [compileWith_of_unwritten loaded succeeded saved]
            | ok after =>
                -- Only here is anything written, and it may be the source.
                rw [compileWith_of_saved loaded succeeded saved]
                rcases entry_source_of_saved derives located held saved with
                  kept | ⟨hasExtension, writable, overwritten⟩
                · exact kept
                · rw [overwritten, meets hasExtension writable source loaded succeeded]

theorem entry_compileWith_source_other_extension :
    let store := Store.ofFiles [("a.in".toList, Text.Utf8.encode "¬x".toList)]
    DerivesPath {} ∧
      store.locate (Path.ofText "a.in".toList) = .ok ⟨.working 0, ["a.in".toList]⟩ ∧
      store.entry ⟨.working 0, ["a.in".toList]⟩ = .file (Text.Utf8.encode "¬x".toList) ∧
      (compile {} "a.in".toList store).2.entry ⟨.working 0, ["a.in".toList]⟩ =
        .file (Text.Utf8.encode "¬x".toList) := by
  intro store
  have derives : DerivesPath {} := nofun
  have located : store.locate (Path.ofText "a.in".toList) =
      .ok ⟨.working 0, ["a.in".toList]⟩ := by decide
  have held : store.entry ⟨.working 0, ["a.in".toList]⟩ =
      .file (Text.Utf8.encode "¬x".toList) := by decide
  have lacks : ¬(Path.ofText "a.in".toList).HasExtension Target.javascript.extension :=
    mt (withExtension_target_eq_self_iff (Path.isProper_ofText _) _).mpr (by decide)
  exact ⟨derives, located, held, (entry_compileWith_source_iff derives located held).mpr
    fun hasExtension => absurd hasExtension lacks⟩

/-- A source with the extension of the target that compiles to something else is lost. -/
theorem entry_compile_source_overwritten :
    let store := Store.ofFiles [("a.js".toList, Text.Utf8.encode "¬x".toList)]
    DerivesPath {} ∧
      store.read (Path.ofText "a.js".toList) = .ok (Text.Utf8.encode "¬x".toList) ∧
      (compile {} "a.js".toList store).2.read (Path.ofText "a.js".toList) =
        .ok (Text.Utf8.encode "!x".toList) ∧
      Text.Utf8.encode "¬x".toList ≠ Text.Utf8.encode "!x".toList := by
  exact ⟨nofun, by decide, by decide +kernel, by decide⟩

end SymbolScript.SourceFile
