import SymbolScript.Proofs.Store.Basic
import SymbolScript.Proofs.Store.Path
import SymbolScript.Proofs.Text.Utf8
import SymbolScript.SourceFile

/-!
What compiling a file does to the store. Either the source compiles and one file is written, to
which the outcome gives the path, or nothing is written at all.
-/

namespace SymbolScript.SourceFile

variable {store after : Store}

/-! ## The output path -/

theorem extension_long (target : Target) : 2 ≤ target.extension.toList.length := by
  cases target <;> decide

theorem extension_noSlash (target : Target) : '/' ∉ target.extension.toList := by
  cases target <;> decide

theorem isProper_outputPath (options : CompileOptions) {source : Path}
    (isProper : source.IsProper) : (outputPath options source).IsProper := by
  have derived := isProper.withExtension (extension_long options.target)
    (extension_noSlash options.target)
  unfold outputPath
  split
  · exact derived
  · exact derived
  · next given _ _ => exact Path.isProper_ofText given

/-! ## Loading and saving -/

theorem checkPath_of_null {path : Path} (null : '\x00' ∈ path.toText) :
    checkPath path = .error (.value .embeddedNull) := by
  rw [checkPath, Text.holds, if_pos (List.contains_iff_mem.mpr null)]

theorem checkPath_of_no_null {path : Path} (noNull : '\x00' ∉ path.toText) :
    checkPath path = .ok () := by
  rw [checkPath, Text.holds, if_neg (mt List.contains_iff_mem.mp noNull)]

section Files

variable {path : Path} {text : Text}

theorem load_of_null (null : '\x00' ∈ path.toText) :
    load store path = .error (.value .embeddedNull) := by
  rw [load, checkPath_of_null null]
  rfl

theorem load_of_unread (noNull : '\x00' ∉ path.toText) {cause : StoreFault}
    (unread : store.read path = .error cause) :
    load store path = .error (.source (.cannotRead path.toText cause)) := by
  rw [load, checkPath_of_no_null noNull, unread]
  rfl

theorem load_of_illFormed (noNull : '\x00' ∉ path.toText) {content : Bytes}
    (read : store.read path = .ok content) (illFormed : Text.Utf8.decode? content = none) :
    load store path = .error .undecodable := by
  simp only [load, checkPath_of_no_null noNull, read, illFormed, bind, Except.bind]
  rfl

theorem load_of_text (noNull : '\x00' ∉ path.toText)
    (read : store.read path = .ok (Text.Utf8.encode text)) :
    load store path = .ok (unifyBreaks text) := by
  simp only [load, checkPath_of_no_null noNull, read, Text.Utf8.decode?_encode, bind, Except.bind]
  rfl

theorem load_eq_ok_iff {source : Text} : load store path = .ok source ↔
    '\x00' ∉ path.toText ∧
      ∃ text, store.read path = .ok (Text.Utf8.encode text) ∧ unifyBreaks text = source := by
  constructor
  · intro loaded
    by_cases null : '\x00' ∈ path.toText
    · cases (load_of_null null).symm.trans loaded
    · cases read : store.read path with
      | error cause => cases (load_of_unread null read).symm.trans loaded
      | ok content =>
          cases decoded : Text.Utf8.decode? content with
          | none => cases (load_of_illFormed null read decoded).symm.trans loaded
          | some text =>
              rw [← Text.Utf8.decode?_eq_some_iff.mp decoded] at read ⊢
              exact ⟨null, text, rfl, Except.ok.inj ((load_of_text null read).symm.trans loaded)⟩
  · rintro ⟨noNull, text, read, rfl⟩
    exact load_of_text noNull read

theorem save_of_null (null : '\x00' ∈ path.toText) :
    save store path text = .error (.value .embeddedNull) := by
  rw [save, checkPath_of_null null]
  rfl

theorem save_of_unwritten (noNull : '\x00' ∉ path.toText) {cause : StoreFault}
    (unwritten : store.write path (Text.Utf8.encode text) = .error cause) :
    save store path text = .error (.source (.cannotWrite path.toText cause)) := by
  rw [save, checkPath_of_no_null noNull, unwritten]
  rfl

theorem save_of_written (noNull : '\x00' ∉ path.toText)
    (written : store.write path (Text.Utf8.encode text) = .ok after) :
    save store path text = .ok after := by
  rw [save, checkPath_of_no_null noNull, written]
  rfl

theorem save_eq_ok_iff : save store path text = .ok after ↔
    '\x00' ∉ path.toText ∧ store.write path (Text.Utf8.encode text) = .ok after := by
  constructor
  · intro saved
    by_cases null : '\x00' ∈ path.toText
    · cases (save_of_null null).symm.trans saved
    · cases written : store.write path (Text.Utf8.encode text) with
      | error cause => cases (save_of_unwritten null written).symm.trans saved
      | ok other =>
          cases (save_of_written null written).symm.trans saved
          exact ⟨null, rfl⟩
  · rintro ⟨noNull, written⟩
    exact save_of_written noNull written

end Files

/-! ## Compilation -/

section Equations

variable {passes : List Pass} {options : CompileOptions} {path source : Text}

theorem compileWith_of_unread {failure : Failure}
    (unread : load store (Path.ofText path) = .error failure) :
    compileWith passes options path store = (.error failure, store) := by
  rw [compileWith, unread]

theorem compileWith_of_unsuccessful (loaded : load store (Path.ofText path) = .ok source)
    (failed : (SymbolScript.compileWith passes options source).success = false) :
    compileWith passes options path store =
      (.ok (SymbolScript.compileWith passes options source), store) := by
  simp only [compileWith, loaded, failed, Bool.false_eq_true, if_false]

theorem compileWith_of_unwritten (loaded : load store (Path.ofText path) = .ok source)
    (succeeded : (SymbolScript.compileWith passes options source).success = true)
    {failure : Failure}
    (unwritten : save store (outputPath options (Path.ofText path))
      ((SymbolScript.compileWith passes options source).outputFor options.target) =
        .error failure) :
    compileWith passes options path store = (.error failure, store) := by
  simp only [compileWith, loaded, succeeded, if_true, unwritten]

theorem compileWith_of_saved (loaded : load store (Path.ofText path) = .ok source)
    (succeeded : (SymbolScript.compileWith passes options source).success = true)
    (saved : save store (outputPath options (Path.ofText path))
      ((SymbolScript.compileWith passes options source).outputFor options.target) = .ok after) :
    compileWith passes options path store =
      (.ok { SymbolScript.compileWith passes options source with
        outputPath := some (outputPath options (Path.ofText path)).toText }, after) := by
  simp only [compileWith, loaded, succeeded, if_true, saved]

end Equations

/-- Compiling a file fails, or its source does not compile, and the store stays; or the output of an
outcome that is a success is saved, and the outcome gets the path of the output. -/
theorem compileWith_cases (passes : List Pass) (options : CompileOptions) (path : Text)
    (store : Store) :
    (∃ failure, compileWith passes options path store = (.error failure, store)) ∨
    (∃ outcome : Outcome, outcome.success = false ∧
      compileWith passes options path store = (.ok outcome, store)) ∨
    ∃ (outcome : Outcome) (after : Store), outcome.success = true ∧
      save store (outputPath options (Path.ofText path)) (outcome.outputFor options.target) =
        .ok after ∧
      compileWith passes options path store =
        (.ok { outcome with outputPath := some (outputPath options (Path.ofText path)).toText },
          after) := by
  cases loaded : load store (Path.ofText path) with
  | error failure => exact .inl ⟨failure, compileWith_of_unread loaded⟩
  | ok source =>
      cases succeeded : (SymbolScript.compileWith passes options source).success with
      | false => exact .inr (.inl ⟨_, succeeded, compileWith_of_unsuccessful loaded succeeded⟩)
      | true =>
          cases saved : save store (outputPath options (Path.ofText path))
              ((SymbolScript.compileWith passes options source).outputFor options.target) with
          | error failure => exact .inl ⟨failure, compileWith_of_unwritten loaded succeeded saved⟩
          | ok after =>
              exact .inr (.inr ⟨_, after, succeeded, saved,
                compileWith_of_saved loaded succeeded saved⟩)

/-- Compiling a file that fails or whose source does not compile leaves the store as it was.
Otherwise the outcome names the output path. The file that this leads to then holds the output for
the target, and every other location is as it was. -/
theorem compileWith_all_or_nothing (passes : List Pass) (options : CompileOptions) (path : Text)
    (store : Store) :
    match compileWith passes options path store with
    | (.error _, after) => after = store
    | (.ok outcome, after) =>
      if outcome.success = true then
        ∃ named location, outcome.outputPath = some named ∧
          Path.ofText named = outputPath options (Path.ofText path) ∧
          store.locate (Path.ofText named) = .ok location ∧
          after.locate (Path.ofText named) = .ok location ∧
          after.entry location =
            .file (Text.Utf8.encode (outcome.outputFor options.target)) ∧
          ∀ other, other ≠ location → after.entry other = store.entry other
      else after = store := by
  rcases compileWith_cases passes options path store with
    ⟨failure, result⟩ | ⟨outcome, failed, result⟩ | ⟨outcome, after, succeeded, saved, result⟩
  · rw [result]
  · simp [result, failed]
  · have names := (isProper_outputPath options (Path.isProper_ofText path)).ofText_toText
    rcases Store.write_spec (save_eq_ok_iff.mp saved).2 with
      ⟨location, located, locatedAfter, content, others⟩
    simp only [result, succeeded, if_true]
    refine ⟨_, location, rfl, names, ?_, ?_, content, others⟩
    · rwa [names]
    · rwa [names]

example : ((compile {} "a.in".toList
    (Store.ofFiles [("a.in".toList, Text.Utf8.encode "¬x".toList)])).2.entry
      ⟨.working 0, ["a.js".toList]⟩) = .file (Text.Utf8.encode "!x".toList) := by decide +kernel

end SymbolScript.SourceFile
