import SymbolScript.Proofs.Text.Recogniser

/-!
Maximal runs of a class of characters. Every text is cut into its maximal runs and the characters
between them, and runs are rewritten along this cut. What is put in place of a run may itself be
rewritten later, as long as it does not run into its neighbours.
-/

namespace SymbolScript.Text

variable {inClass : Char → Bool}

/-- A maximal run of a class at the front of a text, and the text behind it. -/
structure IsRun (inClass : Char → Bool) (run rest : Text) : Prop where
  filled : run ≠ []
  inside : ∀ c ∈ run, inClass c = true
  stop : ∀ c, rest.head? = some c → inClass c = false

/-- The text is the same one with every maximal run shown as a related text. -/
inductive RunsShown (inClass : Char → Bool) (Shows : Text → Text → Prop) : Text → Text → Prop
  | empty : RunsShown inClass Shows [] []
  | other {c : Char} {rest done : Text} (outside : inClass c = false)
      (later : RunsShown inClass Shows rest done) : RunsShown inClass Shows (c :: rest) (c :: done)
  | run {run rest shown done : Text} (isRun : IsRun inClass run rest) (shows : Shows run shown)
      (later : RunsShown inClass Shows rest done) :
      RunsShown inClass Shows (run ++ rest) (shown ++ done)

/-! ## Cutting a text -/

theorem isRun_takeWhile {c : Char} (inside : inClass c = true) (rest : Text) :
    IsRun inClass (c :: rest.takeWhile inClass) (rest.dropWhile inClass) where
  filled := List.cons_ne_nil c _
  inside := List.forall_mem_cons.mpr ⟨inside, fun _ member => List.mem_takeWhile_imp member⟩
  stop := fun _ first => head?_dropWhile first

theorem IsRun.exists_cons {run rest : Text} (isRun : IsRun inClass run rest) :
    ∃ c others, run = c :: others ∧ inClass c = true ∧
      (others ++ rest).takeWhile inClass = others ∧ (others ++ rest).dropWhile inClass = rest := by
  rcases isRun with ⟨filled, inside, stop⟩
  rcases List.exists_cons_of_ne_nil filled with ⟨c, others, rfl⟩
  rcases List.forall_mem_cons.mp inside with ⟨first, later⟩
  have taken := takeRun_append later stop
  rw [takeRun, Prod.mk.injEq] at taken
  exact ⟨c, others, rfl, first, taken⟩

@[elab_as_elim]
theorem runInduction (inClass : Char → Bool) {P : Text → Prop} (empty : P [])
    (other : ∀ c rest, inClass c = false → P rest → P (c :: rest))
    (run : ∀ run rest, IsRun inClass run rest → P rest → P (run ++ rest)) (text : Text) :
    P text := by
  match text with
  | [] => exact empty
  | c :: rest =>
      cases inside : inClass c with
      | false => exact other c rest inside (runInduction inClass empty other run rest)
      | true =>
          have shorter := (List.dropWhile_sublist inClass (l := rest)).length_le
          have later := runInduction inClass empty other run (rest.dropWhile inClass)
          have whole := run _ _ (isRun_takeWhile inside rest) later
          rwa [List.cons_append, List.takeWhile_append_dropWhile] at whole
termination_by text.length
decreasing_by
  · simp
  · simp only [List.length_cons]
    omega

/-! ## Rewriting runs -/

section Rewriting

variable (rewrite : Text → Text)

theorem mapRuns_of_pos {c : Char} (inside : inClass c = true) (rest : Text) :
    mapRuns inClass rewrite (c :: rest) = rewrite (c :: rest.takeWhile inClass) ++
      mapRuns inClass rewrite (rest.dropWhile inClass) := by
  rw [mapRuns, if_pos inside]

theorem mapRuns_of_neg {c : Char} (outside : inClass c = false) (rest : Text) :
    mapRuns inClass rewrite (c :: rest) = c :: mapRuns inClass rewrite rest := by
  rw [mapRuns, if_neg (by simp [outside])]

theorem mapRuns_append_of_outside {before : Text} (outside : ∀ c ∈ before, inClass c = false)
    (rest : Text) :
    mapRuns inClass rewrite (before ++ rest) = before ++ mapRuns inClass rewrite rest := by
  induction before with
  | nil => rfl
  | cons c before induction =>
      rcases List.forall_mem_cons.mp outside with ⟨first, later⟩
      rw [List.cons_append, mapRuns_of_neg rewrite first, induction later, List.cons_append]

theorem IsRun.mapRuns_append {run rest : Text} (isRun : IsRun inClass run rest) :
    mapRuns inClass rewrite (run ++ rest) = rewrite run ++ mapRuns inClass rewrite rest := by
  rcases isRun.exists_cons with ⟨c, others, rfl, inside, taken, left⟩
  rw [List.cons_append, mapRuns_of_pos rewrite inside, taken, left]

theorem head?_mapRuns {rest : Text} (stop : ∀ c, rest.head? = some c → inClass c = false) :
    (mapRuns inClass rewrite rest).head? = rest.head? := by
  cases rest with
  | nil => rw [mapRuns]
  | cons c rest =>
      rw [mapRuns_of_neg rewrite (stop c rfl)]
      rfl

theorem IsRun.mapRuns {run rest : Text} (isRun : IsRun inClass run rest) :
    IsRun inClass run (mapRuns inClass rewrite rest) where
  filled := isRun.filled
  inside := isRun.inside
  stop := by
    rw [head?_mapRuns rewrite isRun.stop]
    exact isRun.stop

/-- Rewriting runs twice is rewriting them once if the second rewriting deals with each rewritten
run by itself. -/
theorem mapRuns_mapRuns {inner outer both : Text → Text}
    (each : ∀ run rest, IsRun inClass run rest →
      mapRuns inClass outer (inner run ++ rest) = both run ++ mapRuns inClass outer rest)
    (text : Text) :
    mapRuns inClass outer (mapRuns inClass inner text) = mapRuns inClass both text := by
  induction text using runInduction inClass with
  | empty => simp only [mapRuns]
  | other c rest outside induction =>
      rw [mapRuns_of_neg inner outside, mapRuns_of_neg outer outside, induction,
        mapRuns_of_neg both outside]
  | run run rest isRun induction =>
      rw [isRun.mapRuns_append inner, each _ _ (isRun.mapRuns inner), induction,
        isRun.mapRuns_append both]

theorem runsShown_iff {Shows : Text → Text → Prop}
    (each : ∀ run shown, Shows run shown ↔ rewrite run = shown) {text result : Text} :
    RunsShown inClass Shows text result ↔ mapRuns inClass rewrite text = result := by
  constructor
  · intro shown
    induction shown with
    | empty => rw [mapRuns]
    | other outside _ induction => rw [mapRuns_of_neg rewrite outside, induction]
    | run isRun shows _ induction =>
        rw [isRun.mapRuns_append rewrite, induction, (each _ _).mp shows]
  · rintro rfl
    induction text using runInduction inClass with
    | empty =>
        rw [mapRuns]
        exact .empty
    | other c rest outside induction =>
        rw [mapRuns_of_neg rewrite outside]
        exact .other outside induction
    | run run rest isRun induction =>
        rw [isRun.mapRuns_append rewrite]
        exact .run isRun ((each _ _).mpr rfl) induction

end Rewriting

/-! ## The runs of a text -/

theorem runs_of_neg {c : Char} (outside : inClass c = false) (rest : Text) :
    runs inClass (c :: rest) = runs inClass rest := by
  rw [runs, if_neg (by simp [outside])]

theorem IsRun.runs_append {run rest : Text} (isRun : IsRun inClass run rest) :
    runs inClass (run ++ rest) = run :: runs inClass rest := by
  rcases isRun.exists_cons with ⟨c, others, rfl, inside, taken, left⟩
  rw [List.cons_append, runs, if_pos inside, taken, left]

theorem mapRuns_eq_self {rewrite : Text → Text} {text : Text}
    (kept : ∀ run ∈ runs inClass text, rewrite run = run) :
    mapRuns inClass rewrite text = text := by
  induction text using runInduction inClass with
  | empty => rw [mapRuns]
  | other c rest outside induction =>
      rw [runs_of_neg outside] at kept
      rw [mapRuns_of_neg rewrite outside, induction kept]
  | run run rest isRun induction =>
      rw [isRun.runs_append] at kept
      rcases List.forall_mem_cons.mp kept with ⟨first, later⟩
      rw [isRun.mapRuns_append rewrite, first, induction later]

end SymbolScript.Text
