import Mathlib.Data.List.Forall2
import Mathlib.Data.List.TakeWhile
import SymbolScript.Proofs.Text.Basic
import SymbolScript.Text.Recogniser

/-!
Laws of reading a text with a recogniser: what happens at one match, at one plain character, and
over a stretch of text at which no match starts.
-/

namespace SymbolScript.Text

theorem takeRun_append {inClass : Char → Bool} {run rest : Text}
    (inside : ∀ c ∈ run, inClass c = true) (stop : ∀ c, rest.head? = some c → inClass c = false) :
    takeRun inClass (run ++ rest) = (run, rest) := by
  rw [takeRun, List.takeWhile_append_of_pos inside, List.dropWhile_append_of_pos inside]
  cases rest with
  | nil => simp
  | cons c rest => simp [stop c rfl]

theorem takeRun_parts {inClass : Char → Bool} {text run rest : Text}
    (taken : takeRun inClass text = (run, rest)) :
    run ++ rest = text ∧ ∀ c ∈ run, inClass c = true := by
  rw [takeRun, Prod.mk.injEq] at taken
  rw [← taken.1, ← taken.2]
  exact ⟨List.takeWhile_append_dropWhile, fun c member => List.mem_takeWhile_imp member⟩

theorem takeRun_append_cons {inClass : Char → Bool} {mark : Char} (outside : inClass mark = false)
    (text rest : Text) :
    takeRun inClass (text ++ mark :: rest) =
      ((takeRun inClass text).1, (takeRun inClass text).2 ++ mark :: rest) := by
  induction text with
  | nil => simp [takeRun, outside]
  | cons c text induction =>
      simp only [takeRun, Prod.mk.injEq] at induction
      by_cases inside : inClass c = true
      · simp [takeRun, inside, induction]
      · simp [takeRun, inside]

/-! ## Lists of results -/

section Results

variable {ε Item Result : Type} {make : Item → Except ε Result}

theorem exists_mem_of_mapM_error {items : List Item} {failure : ε}
    (failed : items.mapM make = .error failure) : ∃ item ∈ items, make item = .error failure := by
  induction items with
  | nil => cases failed
  | cons item rest induction =>
      rw [List.mapM_cons] at failed
      cases first : make item with
      | error other =>
          simp only [first, bind, Except.bind, Except.error.injEq] at failed
          exact ⟨item, List.mem_cons_self, failed ▸ first⟩
      | ok result =>
          cases later : rest.mapM make with
          | ok others => simp [first, later, bind, Except.bind, pure, Except.pure] at failed
          | error other =>
              simp only [first, later, bind, Except.bind, Except.error.injEq] at failed
              rcases induction (failed ▸ later) with ⟨missed, member, unmade⟩
              exact ⟨missed, List.mem_cons_of_mem item member, unmade⟩

theorem exists_of_mapM_ok {items : List Item} {results : List Result} {item : Item}
    (made : items.mapM make = .ok results) (member : item ∈ items) :
    ∃ result, make item = .ok result := by
  induction items generalizing results with
  | nil => cases member
  | cons head rest induction =>
      rw [List.mapM_cons] at made
      cases first : make head with
      | error failure => simp [first, bind, Except.bind] at made
      | ok result =>
          cases later : rest.mapM make with
          | error failure => simp [first, later, bind, Except.bind] at made
          | ok others =>
              rcases List.mem_cons.mp member with rfl | inRest
              · exact ⟨result, first⟩
              · exact induction later inRest

theorem exists_mapM {Related : Item → Result → Prop} {items : List Item}
    (each : ∀ item ∈ items, ∃ result, make item = .ok result ∧ Related item result) :
    ∃ results, items.mapM make = .ok results ∧ List.Forall₂ Related items results := by
  induction items with
  | nil => exact ⟨[], rfl, .nil⟩
  | cons item rest induction =>
      rcases each item List.mem_cons_self with ⟨result, made, related⟩
      rcases induction fun other member => each other (List.mem_cons_of_mem item member) with
        ⟨results, madeRest, relatedRest⟩
      refine ⟨result :: results, ?_, .cons related relatedRest⟩
      rw [List.mapM_cons, made, madeRest]
      rfl

theorem exists_foldlM {State : Type} {step : State → Item → Except ε State}
    (Holds : List Item → State → Prop) {items : List Item}
    (each : ∀ seen state, ∀ item ∈ items, Holds seen state →
      ∃ next, step state item = .ok next ∧ Holds (seen ++ [item]) next)
    {seen : List Item} {state : State} (start : Holds seen state) :
    ∃ final, items.foldlM step state = .ok final ∧ Holds (seen ++ items) final := by
  induction items generalizing seen state with
  | nil => exact ⟨state, rfl, by rwa [List.append_nil]⟩
  | cons item rest induction =>
      rcases each seen state item List.mem_cons_self start with ⟨next, stepped, held⟩
      rcases induction (fun seen state other member =>
        each seen state other (List.mem_cons_of_mem item member)) held with ⟨final, folded, all⟩
      refine ⟨final, ?_, ?_⟩
      · rw [List.foldlM_cons, stepped]
        exact folded
      · rwa [List.append_assoc] at all

theorem mapM_map {Other : Type} (transform : Result → Other) (items : List Item) :
    (items.mapM fun item => (make item).map transform) =
      (items.mapM make).map (List.map transform) := by
  induction items with
  | nil => rfl
  | cons item rest induction =>
      rw [List.mapM_cons, List.mapM_cons, induction]
      cases make item with
      | error cause => rfl
      | ok result => cases rest.mapM make <;> rfl

end Results

namespace Recogniser

variable {Match : Type} {ε : Type} (recogniser : Recogniser Match)

/-! ## One step -/

@[simp] theorem pieces_nil : recogniser.pieces [] = [] := by
  rw [pieces.eq_def]

theorem pieces_of_found {text after : Text} {value : Match}
    (taken : recogniser.take text = some (value, after)) (nonempty : text ≠ []) :
    recogniser.pieces text = .found value :: recogniser.pieces after := by
  cases text with
  | nil => exact absurd rfl nonempty
  | cons c rest =>
      rw [pieces.eq_def]
      split
      · next empty => exact absurd empty nonempty
      · next equal =>
        cases equal
        split
        · next found => simp_all
        · next missing => simp_all

theorem pieces_of_plain {c : Char} {rest : Text} (missing : recogniser.take (c :: rest) = none) :
    recogniser.pieces (c :: rest) = .plain c :: recogniser.pieces rest := by
  rw [pieces.eq_def]
  split
  · next empty => cases empty
  · next equal =>
    cases equal
    split
    · next found => simp_all
    · next => rfl

theorem pieces_append_of_plain (before after : Text)
    (missing : ∀ left c right, before = left ++ c :: right →
      recogniser.take (c :: (right ++ after)) = none) :
    recogniser.pieces (before ++ after) = before.map .plain ++ recogniser.pieces after := by
  induction before with
  | nil => rfl
  | cons c rest induction =>
      have later := induction fun left d right equal =>
        missing (c :: left) d right (by rw [equal, List.cons_append])
      rw [List.cons_append, recogniser.pieces_of_plain (missing [] c rest rfl), later,
        List.map_cons, List.cons_append]

theorem nonempty_of_take {text after : Text} {value : Match}
    (taken : recogniser.take text = some (value, after)) : text ≠ [] := by
  rintro rfl
  have shorter := recogniser.shorter taken
  simp at shorter

theorem take_nil : recogniser.take [] = none :=
  Option.eq_none_iff_forall_ne_some.mpr fun _ taken => recogniser.nonempty_of_take taken rfl

/-! ## The matches of a text -/

theorem first?_of_found {text after : Text} {value : Match}
    (taken : recogniser.take text = some (value, after)) : recogniser.first? text = some value := by
  rw [first?, recogniser.pieces_of_found taken (recogniser.nonempty_of_take taken)]
  rfl

theorem first?_of_plain {c : Char} {rest : Text} (missing : recogniser.take (c :: rest) = none) :
    recogniser.first? (c :: rest) = recogniser.first? rest := by
  rw [first?, recogniser.pieces_of_plain missing]
  rfl

theorem first?_append_of_plain (before after : Text)
    (missing : ∀ left c right, before = left ++ c :: right →
      recogniser.take (c :: (right ++ after)) = none) :
    recogniser.first? (before ++ after) = recogniser.first? after := by
  have noMatch : (before.map (Piece.plain : Char → Piece Match)).findSome? Piece.found? = none := by
    simp [List.findSome?_eq_none_iff, Piece.found?]
  rw [first?, recogniser.pieces_append_of_plain before after missing, List.findSome?_append,
    noMatch, Option.none_or, first?]

theorem first?_eq_none_iff (text : Text) :
    recogniser.first? text = none ↔
      ∀ left right, text = left ++ right → recogniser.take right = none := by
  constructor
  · intro absent left right equal
    induction left generalizing text with
    | nil =>
        cases taken : recogniser.take right with
        | none => rfl
        | some found =>
            rw [equal, List.nil_append, recogniser.first?_of_found taken] at absent
            cases absent
    | cons c left induction =>
        rw [equal, List.cons_append] at absent
        cases taken : recogniser.take (c :: (left ++ right)) with
        | none =>
            rw [recogniser.first?_of_plain taken] at absent
            exact induction _ absent rfl
        | some found =>
            rw [recogniser.first?_of_found taken] at absent
            cases absent
  · intro missing
    have kept := recogniser.first?_append_of_plain text [] (by
      intro left c right equal
      rw [List.append_nil]
      exact missing left (c :: right) equal)
    rw [List.append_nil] at kept
    rw [kept, first?, pieces_nil]
    rfl

theorem exists_take_of_mem_all {value : Match} (text : Text) (member : value ∈ recogniser.all text) :
    ∃ rest after, recogniser.take rest = some (value, after) := by
  match text with
  | [] => simp [all] at member
  | c :: rest =>
      cases taken : recogniser.take (c :: rest) with
      | none =>
          rw [all, recogniser.pieces_of_plain taken] at member
          exact exists_take_of_mem_all rest member
      | some found =>
          rcases found with ⟨first, after⟩
          have shorter := recogniser.shorter taken
          rw [all, recogniser.pieces_of_found taken (List.cons_ne_nil c rest)] at member
          rcases List.mem_cons.mp member with rfl | later
          · exact ⟨c :: rest, after, taken⟩
          · exact exists_take_of_mem_all after later
termination_by text.length
decreasing_by
  · exact Nat.lt_add_one _
  · exact shorter

theorem first?_mem_all {text : Text} {value : Match} (first : recogniser.first? text = some value) :
    value ∈ recogniser.all text := by
  rw [first?, List.findSome?_eq_some_iff] at first
  rcases first with ⟨before, piece, after, parts, found, _⟩
  rw [all, parts]
  exact List.mem_filterMap.mpr ⟨piece, by simp, found⟩

/-! ## Replacing with spellings that may fail -/

variable (spell : Match → Except ε Text)

@[simp] theorem replaceOr_nil : recogniser.replaceOr spell [] = .ok [] := by
  simp [replaceOr, pure, Except.pure, Except.map]

theorem replaceOr_of_found {text after : Text} {value : Match}
    (taken : recogniser.take text = some (value, after)) :
    recogniser.replaceOr spell text = do
      let shown ← spell value
      let done ← recogniser.replaceOr spell after
      return shown ++ done := by
  rw [replaceOr, recogniser.pieces_of_found taken (recogniser.nonempty_of_take taken),
    List.mapM_cons, Piece.renderOr, replaceOr]
  cases spell value with
  | error failure => rfl
  | ok shown => cases (recogniser.pieces after).mapM (Piece.renderOr spell) <;> rfl

theorem replaceOr_of_plain {c : Char} {rest : Text}
    (missing : recogniser.take (c :: rest) = none) :
    recogniser.replaceOr spell (c :: rest) = (recogniser.replaceOr spell rest).map (c :: ·) := by
  rw [replaceOr, recogniser.pieces_of_plain missing, List.mapM_cons, Piece.renderOr, replaceOr]
  cases (recogniser.pieces rest).mapM (Piece.renderOr spell) <;> rfl

theorem mapM_renderOr_plain (before : Text) :
    (before.map Piece.plain).mapM (Piece.renderOr spell) = .ok (before.map fun c => [c]) := by
  induction before with
  | nil => rfl
  | cons c rest induction =>
      rw [List.map_cons, List.mapM_cons, induction]
      rfl

theorem replaceOr_append_of_plain (before after : Text)
    (missing : ∀ left c right, before = left ++ c :: right →
      recogniser.take (c :: (right ++ after)) = none) :
    recogniser.replaceOr spell (before ++ after) =
      (recogniser.replaceOr spell after).map (before ++ ·) := by
  have kept : (before.map fun c => [c]).flatten = before := List.flatMap_singleton' before
  rw [replaceOr, recogniser.pieces_append_of_plain before after missing, List.mapM_append,
    mapM_renderOr_plain, replaceOr]
  cases (recogniser.pieces after).mapM (Piece.renderOr spell) with
  | error failure => rfl
  | ok done => simp [bind, Except.bind, pure, Except.pure, Except.map, kept]

theorem replaceOr_eq_self {text : Text}
    (missing : ∀ left c right, text = left ++ c :: right → recogniser.take (c :: right) = none) :
    recogniser.replaceOr spell text = .ok text := by
  have kept := recogniser.replaceOr_append_of_plain spell text [] (by
    intro left c right equal
    rw [List.append_nil]
    exact missing left c right equal)
  simpa [Except.map] using kept

/-- What holds of the empty text and is kept by each step of reading holds of every text and the
text that replaces it. -/
theorem replaceOr_induction {Related : Text → Text → Prop} (empty : Related [] [])
    (plain : ∀ c rest done, recogniser.take (c :: rest) = none → Related rest done →
      Related (c :: rest) (c :: done))
    (found : ∀ text value after shown done, recogniser.take text = some (value, after) →
      spell value = .ok shown → Related after done → Related text (shown ++ done))
    (text : Text) {result : Text} (replaced : recogniser.replaceOr spell text = .ok result) :
    Related text result := by
  match text with
  | [] =>
      rw [replaceOr_nil] at replaced
      cases replaced
      exact empty
  | c :: rest =>
      cases taken : recogniser.take (c :: rest) with
      | none =>
          rw [recogniser.replaceOr_of_plain spell taken] at replaced
          cases later : recogniser.replaceOr spell rest with
          | error failure => simp [later, Except.map] at replaced
          | ok done =>
              have related := replaceOr_induction empty plain found rest later
              simp only [later, Except.map, Except.ok.injEq] at replaced
              rw [← replaced]
              exact plain c rest done taken related
      | some match_ =>
          rcases match_ with ⟨value, after⟩
          have shorter := recogniser.shorter taken
          rw [recogniser.replaceOr_of_found spell taken] at replaced
          cases spelled : spell value with
          | error failure => simp [spelled, bind, Except.bind] at replaced
          | ok shown =>
              cases later : recogniser.replaceOr spell after with
              | error failure => simp [spelled, later, bind, Except.bind] at replaced
              | ok done =>
                  have related := replaceOr_induction empty plain found after later
                  simp only [spelled, later, bind, Except.bind, pure, Except.pure,
                    Except.ok.injEq] at replaced
                  rw [← replaced]
                  exact found _ value after shown done taken spelled related
termination_by text.length
decreasing_by
  · exact Nat.lt_add_one _
  · exact shorter

inductive Replaced : Text → Text → Prop
  | empty : Replaced [] []
  | plain {c : Char} {rest done : Text} (missing : recogniser.take (c :: rest) = none)
      (later : Replaced rest done) : Replaced (c :: rest) (c :: done)
  | found {text after shown done : Text} {value : Match}
      (taken : recogniser.take text = some (value, after)) (spelled : spell value = .ok shown)
      (later : Replaced after done) : Replaced text (shown ++ done)

theorem replaced_of_replaceOr {text result : Text}
    (replaced : recogniser.replaceOr spell text = .ok result) :
    recogniser.Replaced spell text result :=
  recogniser.replaceOr_induction spell .empty (fun _ _ _ => .plain) (fun _ _ _ _ _ => .found) text
    replaced

theorem mem_all_iff {value : Match} {text : Text} :
    value ∈ recogniser.all text ↔ .found value ∈ recogniser.pieces text := by
  rw [all, List.mem_filterMap]
  constructor
  · rintro ⟨piece, member, found⟩
    cases piece with
    | plain c => cases found
    | found other =>
        cases found
        exact member
  · intro member
    exact ⟨_, member, rfl⟩

theorem exists_mem_all_of_replaceOr_error {text : Text} {failure : ε}
    (failed : recogniser.replaceOr spell text = .error failure) :
    ∃ value ∈ recogniser.all text, spell value = .error failure := by
  rw [replaceOr] at failed
  cases rendered : (recogniser.pieces text).mapM (Piece.renderOr spell) with
  | ok done => simp [rendered, Except.map] at failed
  | error other =>
      simp only [rendered, Except.map, Except.error.injEq] at failed
      rcases exists_mem_of_mapM_error rendered with ⟨piece, member, unspelled⟩
      cases piece with
      | plain c => cases unspelled
      | found value => exact ⟨value, recogniser.mem_all_iff.mpr member, failed ▸ unspelled⟩

theorem exists_spelling_of_mem_all {text result : Text} {value : Match}
    (replaced : recogniser.replaceOr spell text = .ok result)
    (member : value ∈ recogniser.all text) : ∃ shown, spell value = .ok shown := by
  rw [replaceOr] at replaced
  cases rendered : (recogniser.pieces text).mapM (Piece.renderOr spell) with
  | error failure => simp [rendered, Except.map] at replaced
  | ok done =>
      have spelled := exists_of_mapM_ok rendered (recogniser.mem_all_iff.mp member)
      exact spelled

/-! ## Replacing with spellings that always exist -/

section Total

variable (spelling : Match → Text)

@[simp] theorem replace_nil : recogniser.replace spelling [] = [] := by
  rw [replace, pieces_nil, List.flatMap_nil]

theorem replace_of_found {text after : Text} {value : Match}
    (taken : recogniser.take text = some (value, after)) :
    recogniser.replace spelling text = spelling value ++ recogniser.replace spelling after := by
  rw [replace, recogniser.pieces_of_found taken (recogniser.nonempty_of_take taken),
    List.flatMap_cons, Piece.render, replace]

theorem replaceOr_ok (text : Text) :
    recogniser.replaceOr (ε := ε) (fun value => .ok (spelling value)) text =
      .ok (recogniser.replace spelling text) := by
  have each : ∀ pieces : List (Piece Match),
      pieces.mapM (Piece.renderOr (ε := ε) fun value => .ok (spelling value)) =
        .ok (pieces.map (Piece.render spelling)) := by
    intro pieces
    induction pieces with
    | nil => rfl
    | cons piece rest induction =>
        rw [List.mapM_cons, induction]
        cases piece <;> rfl
  rw [replaceOr, each, replace, List.flatMap]
  rfl

theorem replace_append_of_plain (before after : Text)
    (missing : ∀ left c right, before = left ++ c :: right →
      recogniser.take (c :: (right ++ after)) = none) :
    recogniser.replace spelling (before ++ after) =
      before ++ recogniser.replace spelling after := by
  have kept := recogniser.replaceOr_append_of_plain (ε := Empty)
    (fun value => .ok (spelling value)) before after missing
  rw [replaceOr_ok, replaceOr_ok] at kept
  exact Except.ok.inj kept

theorem replace_eq_self {text : Text}
    (missing : ∀ left c right, text = left ++ c :: right → recogniser.take (c :: right) = none) :
    recogniser.replace spelling text = text := by
  have kept := recogniser.replaceOr_eq_self (ε := Empty) (fun value => .ok (spelling value)) missing
  rw [replaceOr_ok] at kept
  exact Except.ok.inj kept

/-- A property of all characters is kept by replacing if it is by each match: it passes on to what
is written for the match and to what is left behind it. -/
theorem forall_mem_replace {P : Char → Prop}
    (each : ∀ text value after, recogniser.take text = some (value, after) →
      (∀ c ∈ text, P c) → (∀ c ∈ spelling value, P c) ∧ ∀ c ∈ after, P c)
    {text : Text} (inText : ∀ c ∈ text, P c) : ∀ c ∈ recogniser.replace spelling text, P c := by
  have replaced := recogniser.replaceOr_ok (ε := Empty) spelling text
  generalize recogniser.replace spelling text = result at replaced ⊢
  revert inText
  apply recogniser.replaceOr_induction (fun value => .ok (spelling value)) ?_ ?_ ?_ text replaced
  · exact fun inText => inText
  · intro c rest done _ later inText
    rw [List.forall_mem_cons] at inText ⊢
    exact ⟨inText.1, later inText.2⟩
  · intro text value after shown done taken spelled later inText
    cases spelled
    rcases each text value after taken inText with ⟨inShown, inAfter⟩
    exact List.forall_mem_append.mpr ⟨inShown, later inAfter⟩

end Total

/-! ## Marks -/

def StartsWith (marks : List Char) : Prop :=
  ∀ c rest, c ∉ marks → recogniser.take (c :: rest) = none

variable {recogniser}

theorem StartsWith.replaceOr_append {marks : List Char} (starts : recogniser.StartsWith marks)
    {before : Text} (unmarked : ∀ c ∈ before, c ∉ marks) (after : Text) :
    recogniser.replaceOr spell (before ++ after) =
      (recogniser.replaceOr spell after).map (before ++ ·) := by
  apply recogniser.replaceOr_append_of_plain
  intro left c right equal
  apply starts
  apply unmarked
  rw [equal]
  exact List.mem_append_right left List.mem_cons_self

theorem StartsWith.replaceOr_eq_self {marks : List Char} (starts : recogniser.StartsWith marks)
    {text : Text} (unmarked : ∀ c ∈ text, c ∉ marks) :
    recogniser.replaceOr spell text = .ok text := by
  have kept := starts.replaceOr_append spell unmarked []
  rwa [List.append_nil, replaceOr_nil, Except.map, List.append_nil] at kept

theorem StartsWith.replace_append {marks : List Char} (starts : recogniser.StartsWith marks)
    {before : Text} (unmarked : ∀ c ∈ before, c ∉ marks) (spelling : Match → Text) (after : Text) :
    recogniser.replace spelling (before ++ after) =
      before ++ recogniser.replace spelling after := by
  have kept :=
    starts.replaceOr_append (ε := Empty) (fun value => .ok (spelling value)) unmarked after
  rw [replaceOr_ok, replaceOr_ok] at kept
  exact Except.ok.inj kept

theorem StartsWith.replace_eq_self {marks : List Char} (starts : recogniser.StartsWith marks)
    {text : Text} (unmarked : ∀ c ∈ text, c ∉ marks) (spelling : Match → Text) :
    recogniser.replace spelling text = text := by
  have kept := starts.replace_append unmarked spelling []
  rwa [List.append_nil, replace_nil, List.append_nil] at kept

/-! ## Stops -/

/-- No match reaches into the tail: in front of it a match is taken as if the text ended there. -/
def StopsBefore (tail : Text) : Prop :=
  ∀ text, recogniser.take (text ++ tail) =
    (recogniser.take text).map fun (value, after) => (value, after ++ tail)

theorem StopsBefore.replaceOr_append {tail : Text} (stops : recogniser.StopsBefore tail)
    (spell : Match → Except ε Text) (text : Text) :
    recogniser.replaceOr spell (text ++ tail) = do
      let before ← recogniser.replaceOr spell text
      let after ← recogniser.replaceOr spell tail
      return before ++ after := by
  -- Matches are the same in front of the tail, so the texts are read in step.
  have reached := stops text
  cases taken : recogniser.take text with
  | some found =>
      rcases found with ⟨value, after⟩
      have shorter := recogniser.shorter taken
      rw [taken, Option.map_some] at reached
      rw [recogniser.replaceOr_of_found spell reached, recogniser.replaceOr_of_found spell taken,
        StopsBefore.replaceOr_append stops spell after]
      cases spell value with
      | error failure => rfl
      | ok shown =>
          cases recogniser.replaceOr spell after with
          | error failure => rfl
          | ok done =>
              cases recogniser.replaceOr spell tail with
              | error failure => rfl
              | ok more => simp [bind, Except.bind, pure, Except.pure]
  | none =>
      rw [taken, Option.map_none] at reached
      cases text with
      | nil =>
          rw [List.nil_append, replaceOr_nil]
          cases recogniser.replaceOr spell tail <;> rfl
      | cons c text =>
          rw [List.cons_append] at reached ⊢
          rw [recogniser.replaceOr_of_plain spell reached,
            recogniser.replaceOr_of_plain spell taken,
            StopsBefore.replaceOr_append stops spell text]
          cases recogniser.replaceOr spell text with
          | error failure => rfl
          | ok done => cases recogniser.replaceOr spell tail <;> rfl
termination_by text.length
decreasing_by
  · exact Nat.lt_add_one _
  · exact shorter

theorem StopsBefore.replace_append {tail : Text} (stops : recogniser.StopsBefore tail)
    (spelling : Match → Text) (text : Text) :
    recogniser.replace spelling (text ++ tail) =
      recogniser.replace spelling text ++ recogniser.replace spelling tail := by
  have parts := stops.replaceOr_append (ε := Empty) (fun value => .ok (spelling value)) text
  simp only [replaceOr_ok] at parts
  exact Except.ok.inj parts

/-- No match reaches up to the mark, whatever stands behind it. -/
def StopsAt (mark : Char) : Prop :=
  ∀ text rest, recogniser.take (text ++ mark :: rest) =
    (recogniser.take text).map fun (value, after) => (value, after ++ mark :: rest)

theorem StopsAt.replaceOr_append {mark : Char} (stops : recogniser.StopsAt mark)
    (spell : Match → Except ε Text) (text rest : Text) :
    recogniser.replaceOr spell (text ++ mark :: rest) = do
      let before ← recogniser.replaceOr spell text
      let after ← recogniser.replaceOr spell rest
      return before ++ mark :: after := by
  have before : recogniser.StopsBefore (mark :: rest) := fun text => stops text rest
  have plain : recogniser.take (mark :: rest) = none := by
    have reached := stops [] rest
    rwa [recogniser.take_nil] at reached
  rw [before.replaceOr_append spell text, recogniser.replaceOr_of_plain spell plain]
  cases recogniser.replaceOr spell text with
  | error failure => rfl
  | ok done => cases recogniser.replaceOr spell rest <;> rfl

theorem StopsAt.replace_append {mark : Char} (stops : recogniser.StopsAt mark)
    (spelling : Match → Text) (text rest : Text) :
    recogniser.replace spelling (text ++ mark :: rest) =
      recogniser.replace spelling text ++ mark :: recogniser.replace spelling rest := by
  have parts := stops.replaceOr_append (ε := Empty) (fun value => .ok (spelling value)) text rest
  simp only [replaceOr_ok] at parts
  exact Except.ok.inj parts

end Recogniser

end SymbolScript.Text
