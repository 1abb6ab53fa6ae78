import SymbolScript.Pipeline

/-!
What a compilation with any list of passes gives. Passes are composed, and the first of them that
fails stops the composition; the outcome is read off the composition, and so are the diagnostics.
-/

namespace SymbolScript

/-! ## Passes one after another -/

/-- What passes make of a text one after another, or the failure of the first that fails. -/
def compose (passes : List Pass) (text : Text) : Except Failure Text :=
  passes.foldlM (fun text pass => pass.apply text) text

theorem compose_cons (pass : Pass) (rest : List Pass) (text : Text) :
    compose (pass :: rest) text = (pass.apply text).bind (compose rest) := by
  rw [compose, List.foldlM_cons]
  rfl

theorem compose_append (left right : List Pass) (text : Text) :
    compose (left ++ right) text = (compose left text).bind (compose right) := by
  rw [compose, List.foldlM_append]
  rfl

theorem compose_singleton (pass : Pass) (text : Text) : compose [pass] text = pass.apply text := by
  rw [compose_cons]
  cases pass.apply text <;> rfl

theorem compose_cons_of_ok {pass : Pass} {text next : Text} (applied : pass.apply text = .ok next)
    (rest : List Pass) : compose (pass :: rest) text = compose rest next := by
  rw [compose_cons, applied]
  rfl

theorem exists_of_compose_append {left right : List Pass} {source output : Text}
    (composed : compose (left ++ right) source = .ok output) :
    ∃ middle, compose left source = .ok middle ∧ compose right middle = .ok output := by
  rw [compose_append] at composed
  cases reached : compose left source with
  | error failure => simp [reached, Except.bind] at composed
  | ok middle => exact ⟨middle, rfl, by simpa [reached, Except.bind] using composed⟩

theorem exists_of_compose_cons {pass : Pass} {rest : List Pass} {source output : Text}
    (composed : compose (pass :: rest) source = .ok output) :
    ∃ next, pass.apply source = .ok next ∧ compose rest next = .ok output := by
  rw [← List.singleton_append] at composed
  rcases exists_of_compose_append composed with ⟨next, applied, later⟩
  rw [compose_singleton] at applied
  exact ⟨next, applied, later⟩

theorem exists_stop {passes : List Pass} {source : Text} {failure : Failure}
    (failed : compose passes source = .error failure) :
    ∃ done stopped later reached, passes = done ++ stopped :: later ∧
      compose done source = .ok reached ∧ stopped.apply reached = .error failure := by
  induction passes generalizing source with
  | nil => cases failed
  | cons pass rest induction =>
      cases applied : pass.apply source with
      | error cause =>
          rw [compose_cons, applied] at failed
          cases failed
          exact ⟨[], pass, rest, source, rfl, rfl, applied⟩
      | ok next =>
          rw [compose_cons_of_ok applied] at failed
          rcases induction failed with ⟨done, stopped, later, reached, rfl, composed, stops⟩
          exact ⟨pass :: done, stopped, later, reached, rfl,
            (compose_cons_of_ok applied done).trans composed, stops⟩

/-! ## Diagnostics -/

/-- Whether there is one line for each pass, in order, and each tells the length of what the passes
up to its own make of the source. -/
structure IsLog (passes : List Pass) (source : Text) (lines : List Text) : Prop where
  count : lines.length = passes.length
  line : ∀ index pass, passes[index]? = some pass →
    ∃ output, compose (passes.take (index + 1)) source = .ok output ∧
      lines[index]? = some (stageLine (pass.name, output))

theorem isLog_nil (source : Text) : IsLog [] source [] :=
  ⟨rfl, fun _ _ found => by simp at found⟩

theorem IsLog.cons {pass : Pass} {source next : Text} (applied : pass.apply source = .ok next)
    {rest : List Pass} {lines : List Text} (log : IsLog rest next lines) :
    IsLog (pass :: rest) source (stageLine (pass.name, next) :: lines) where
  count := by rw [List.length_cons, log.count, List.length_cons]
  line := by
    intro index other found
    cases index with
    | zero =>
        cases found
        exact ⟨next, compose_cons_of_ok applied [], rfl⟩
    | succ index =>
        rcases log.line index other found with ⟨output, composed, shown⟩
        exact ⟨output, (compose_cons_of_ok applied _).trans composed, shown⟩

/-! ## Runs -/

theorem runPasses_cons_of_ok {pass : Pass} {source next : Text}
    (applied : pass.apply source = .ok next) (rest : List Pass) :
    runPasses (pass :: rest) source =
      ⟨(pass.name, next) :: (runPasses rest next).stages, (runPasses rest next).result⟩ := by
  rw [runPasses, applied]

theorem runPasses_of_ok {passes : List Pass} {source output : Text}
    (composed : compose passes source = .ok output) :
    (runPasses passes source).result = .ok output ∧
      IsLog passes source ((runPasses passes source).stages.map stageLine) := by
  induction passes generalizing source with
  | nil =>
      cases composed
      exact ⟨rfl, isLog_nil _⟩
  | cons pass rest induction =>
      rcases exists_of_compose_cons composed with ⟨next, applied, later⟩
      rcases induction later with ⟨result, log⟩
      rw [runPasses_cons_of_ok applied]
      exact ⟨result, log.cons applied⟩

theorem runPasses_of_stop {done : List Pass} {source reached : Text}
    (composed : compose done source = .ok reached) {stopped : Pass} {failure : Failure}
    (stops : stopped.apply reached = .error failure) (later : List Pass) :
    runPasses (done ++ stopped :: later) source =
      ⟨(runPasses done source).stages, .error (stopped.name, failure)⟩ := by
  induction done generalizing source with
  | nil =>
      cases composed
      simp only [List.nil_append, runPasses, stops]
  | cons pass rest induction =>
      rcases exists_of_compose_cons composed with ⟨next, applied, reaches⟩
      rw [List.cons_append, runPasses_cons_of_ok applied, runPasses_cons_of_ok applied,
        induction reaches]

/-! ## Compilation -/

theorem compileWith_of_ok {passes : List Pass} {source output : Text}
    (composed : compose passes source = .ok output) :
    ∃ lines, IsLog passes source lines ∧ ∀ options, compileWith passes options source =
      { success := true
        javascript := output
        typescript := output
        go := goProgram
        diagnostics := if options.debug then headerLine source :: lines else [] } := by
  rcases runPasses_of_ok composed with ⟨result, log⟩
  refine ⟨_, log, fun options => ?_⟩
  rw [compileWith, result]
  cases options.debug <;> rfl

theorem compileWith_of_stop {done : List Pass} {source reached : Text}
    (composed : compose done source = .ok reached) {stopped : Pass} {failure : Failure}
    (stops : stopped.apply reached = .error failure) :
    ∃ lines, IsLog done source lines ∧ ∀ options later,
      compileWith (done ++ stopped :: later) options source =
        { success := false
          diagnostics := (if options.debug then lines else []) ++ [failure.message] } := by
  rcases runPasses_of_ok composed with ⟨_, log⟩
  refine ⟨_, log, fun options later => ?_⟩
  rw [compileWith, runPasses_of_stop composed stops]

theorem success_compileWith_iff (passes : List Pass) (options : CompileOptions) (source : Text) :
    (compileWith passes options source).success = true ↔
      ∃ output, compose passes source = .ok output := by
  constructor
  · intro succeeded
    cases composed : compose passes source with
    | ok output => exact ⟨output, rfl⟩
    | error failure =>
        rcases exists_stop composed with ⟨done, stopped, later, reached, rfl, reaches, stops⟩
        rcases compileWith_of_stop reaches stops with ⟨lines, _, outcome⟩
        rw [outcome options later] at succeeded
        cases succeeded
  · rintro ⟨output, composed⟩
    rcases compileWith_of_ok composed with ⟨lines, _, outcome⟩
    rw [outcome options]

example : (compileWith [.total "twice" fun text => text ++ text,
    ⟨"refuse", fun _ => .error (.other "KeyError" "'x'".toList)⟩] { debug := true }
      "ab".toList).diagnostics = ["twice: 4 chars".toList, "'x'".toList] := by decide +kernel

end SymbolScript
