import SymbolScript.Proofs.Pipeline.Composition
import SymbolScript.Proofs.SourceFile

/-!
How compiling a file fails. That a file cannot be read or written is reported as a failure of the
source. Paths with a null character and files of ill-formed UTF-8 are not: they fail in their own
ways, and nothing else does.
-/

namespace SymbolScript.SourceFile

variable {α : Type} {store : Store} {options : CompileOptions}

/-! ## Failures of the source -/

/-- Whether a result is a failure of the source if it is one at all. -/
def FailsAsSource (result : Except Failure α) : Prop :=
  ∀ failure, result = .error failure → ∃ fault, failure = .source fault

theorem failsAsSource_ok (value : α) : FailsAsSource (.ok value) :=
  nofun

theorem failsAsSource_error_iff {failure : Failure} :
    FailsAsSource (.error failure : Except Failure α) ↔ ∃ fault, failure = .source fault := by
  constructor
  · intro fails
    exact fails failure rfl
  · rintro isSource other equal
    cases equal
    exact isSource

theorem failsAsSource_load_iff (store : Store) (path : Path) :
    FailsAsSource (load store path) ↔ '\x00' ∉ path.toText ∧
      ∀ content, store.read path = .ok content → ∃ text, Text.Utf8.encode text = content := by
  by_cases null : '\x00' ∈ path.toText
  · simp [load_of_null null, failsAsSource_error_iff, null]
  · cases read : store.read path with
    | error cause => simp [load_of_unread null read, failsAsSource_error_iff, null]
    | ok content =>
        cases decoded : Text.Utf8.decode? content with
        | none =>
            have illFormed := Text.Utf8.decode?_eq_none_iff.mp decoded
            simp [load_of_illFormed null read decoded, failsAsSource_error_iff, illFormed]
        | some text =>
            have spelled := Text.Utf8.decode?_eq_some_iff.mp decoded
            rw [← spelled] at read
            simp [load_of_text null read, failsAsSource_ok, null, ← spelled]

theorem failsAsSource_save_iff (store : Store) (path : Path) (text : Text) :
    FailsAsSource (save store path text) ↔ '\x00' ∉ path.toText := by
  by_cases null : '\x00' ∈ path.toText
  · simp [save_of_null null, failsAsSource_error_iff, null]
  · cases written : store.write path (Text.Utf8.encode text) with
    | error cause => simp [save_of_unwritten null written, failsAsSource_error_iff, null]
    | ok after =>
        simp [save_eq_ok_iff.mpr ⟨null, written⟩, failsAsSource_ok, null]

/-! ## Null characters -/

theorem null_not_mem_extension (target : Target) : '\x00' ∉ target.extension.toList := by
  cases target <;> decide

theorem null_mem_outputPath_iff {path : Text} (noNull : '\x00' ∉ path) :
    '\x00' ∈ (outputPath options (Path.ofText path)).toText ↔
      ∃ given, options.outputPath = some given ∧ '\x00' ∈ given := by
  have derived : '\x00' ∉ ((Path.ofText path).withExtension options.target.extension).toText := by
    intro null
    have inSource := Path.mem_of_mem_toText_withExtension (by decide) (by decide)
      (null_not_mem_extension options.target) null
    exact noNull ((Path.mem_toText_ofText_iff (by decide) (by decide)).mp inSource)
  unfold outputPath
  split
  · next left => simp [left, derived]
  · next left => simp [left, derived]
  · next given _ found =>
    rw [Path.mem_toText_ofText_iff (by decide) (by decide), found]
    simp

/-! ## Compilation -/

theorem failsAsSource_compileWith_iff_steps (passes : List Pass) (options : CompileOptions)
    (path : Text) (store : Store) :
    FailsAsSource (compileWith passes options path store).1 ↔
      FailsAsSource (load store (Path.ofText path)) ∧
        ∀ source, load store (Path.ofText path) = .ok source →
          (SymbolScript.compileWith passes options source).success = true →
            FailsAsSource (save store (outputPath options (Path.ofText path))
              ((SymbolScript.compileWith passes options source).outputFor options.target)) := by
  cases loaded : load store (Path.ofText path) with
  | error failure => simp [compileWith_of_unread loaded, failsAsSource_error_iff]
  | ok source =>
      cases succeeded : (SymbolScript.compileWith passes options source).success with
      | false =>
          simp [compileWith_of_unsuccessful loaded succeeded, failsAsSource_ok, succeeded]
      | true =>
          cases saved : save store (outputPath options (Path.ofText path))
              ((SymbolScript.compileWith passes options source).outputFor options.target) with
          | error failure =>
              simp [compileWith_of_unwritten loaded succeeded saved, failsAsSource_error_iff,
                failsAsSource_ok, succeeded, saved]
          | ok after =>
              simp [compileWith_of_saved loaded succeeded saved, failsAsSource_ok, saved]

/-- Compiling a file fails only as a source does, exactly if its path has no null character, the
file is well-formed UTF-8 if it can be read, and an explicit output path has no null character
either, unless the source does not compile. -/
theorem failsAsSource_compileWith_iff (passes : List Pass) (options : CompileOptions)
    (path : Text) (store : Store) :
    FailsAsSource (compileWith passes options path store).1 ↔
      '\x00' ∉ path ∧
      (∀ content, store.read (Path.ofText path) = .ok content →
        ∃ text, Text.Utf8.encode text = content) ∧
      ∀ given text output, options.outputPath = some given →
        store.read (Path.ofText path) = .ok (Text.Utf8.encode text) →
          compose passes (unifyBreaks text) = .ok output → '\x00' ∉ given := by
  have null_iff : '\x00' ∈ (Path.ofText path).toText ↔ '\x00' ∈ path :=
    Path.mem_toText_ofText_iff (by decide) (by decide)
  rw [failsAsSource_compileWith_iff_steps, failsAsSource_load_iff, null_iff]
  constructor
  · rintro ⟨⟨noNull, spelled⟩, saves⟩
    refine ⟨noNull, spelled, ?_⟩
    intro given text output found read composed null
    have loaded := load_of_text (mt null_iff.mp noNull) read
    have succeeded := (success_compileWith_iff passes options _).mpr ⟨output, composed⟩
    have noNullOutput := (failsAsSource_save_iff _ _ _).mp (saves _ loaded succeeded)
    exact noNullOutput ((null_mem_outputPath_iff noNull).mpr ⟨given, found, null⟩)
  · rintro ⟨noNull, spelled, explicit⟩
    refine ⟨⟨noNull, spelled⟩, ?_⟩
    intro source loaded succeeded
    rcases load_eq_ok_iff.mp loaded with ⟨_, text, read, rfl⟩
    rcases (success_compileWith_iff passes options _).mp succeeded with ⟨output, composed⟩
    rw [failsAsSource_save_iff, null_mem_outputPath_iff noNull]
    rintro ⟨given, found, null⟩
    exact explicit given text output found read composed null

/-- A byte that starts no character makes a file fail for its bytes, and not as a source. -/
theorem compile_illFormed_bytes :
    (compile {} "a.in".toList (Store.ofFiles [("a.in".toList, [0xff])])).1 =
        .error .undecodable ∧
      ¬FailsAsSource
        (compile {} "a.in".toList (Store.ofFiles [("a.in".toList, [0xff])])).1 := by
  have failed : (compile {} "a.in".toList (Store.ofFiles [("a.in".toList, [0xff])])).1 =
      .error .undecodable := by decide +kernel
  refine ⟨failed, ?_⟩
  rw [failed, failsAsSource_error_iff]
  exact nofun

end SymbolScript.SourceFile
