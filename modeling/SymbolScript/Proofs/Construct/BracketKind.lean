import SymbolScript.Proofs.Construct.Balance
import SymbolScript.Proofs.Construct.FieldScan
import SymbolScript.Proofs.Construct.State

/-!
State blocks in angle brackets and in braces. Both kinds of bracket enclose a block, but a scan for
the commas between declarations counts only braces as brackets. So a state block says the same in
braces if each comma ends a declaration in both or in neither.
-/

namespace SymbolScript.Construct

open ScanState Text

/-- The brace in place of an angle bracket. -/
def brace (c : Char) : Char :=
  if c = '⟨' then '{' else if c = '⟩' then '}' else c

def withBraces (text : Text) : Text :=
  text.map brace

/-- Whether a text is written without braces. -/
abbrev HasNoBrace (text : Text) : Prop :=
  ∀ c ∈ text, c ≠ '{' ∧ c ≠ '}'

example : withBraces "Σ⟨a:⟨⟩⟩".toList = "Σ\x7ba:\x7b\x7d\x7d".toList := by decide

/-- Whether two scans, the second one of a text with braces, stand outside quotes and brackets in
front of the same commas. -/
def CutsAlikeFrom (angled braced : ScanState) (inner : Text) : Prop :=
  ∀ front, front ++ [','] <+: inner →
    (angled.behind isComma front = outside ↔ braced.behind isComma (withBraces front) = outside)

/-- Whether the commas that end a field of a text are the same when braces stand in place of its
angle brackets. -/
abbrev CutsAlike (inner : Text) : Prop :=
  CutsAlikeFrom outside outside inner

instance (angled braced : ScanState) (inner : Text) :
    Decidable (CutsAlikeFrom angled braced inner) :=
  decidable_of_iff (∀ front ∈ inner.inits, front ++ [','] <+: inner →
      (angled.behind isComma front = outside ↔
        braced.behind isComma (withBraces front) = outside)) (by
    constructor
    · intro alike front inFront
      exact alike front ((List.mem_inits _ _).mpr ((List.prefix_append front [',']).trans inFront))
        inFront
    · exact fun alike front _ => alike front)

example : CutsAlike "a:⟨⟩,b:(⟨1,2⟩)".toList ∧ ¬CutsAlike "a:⟨1,2⟩".toList := by decide

/-! ## Braces -/

theorem brace_eq_iff {other : Char} (plain : isBlockBracket other = false) (c : Char) :
    brace c = other ↔ c = other := by
  unfold brace
  split
  · next isOpener =>
    rw [isOpener]
    constructor <;> (rintro rfl; cases plain)
  · split
    · next isCloser =>
      rw [isCloser]
      constructor <;> (rintro rfl; cases plain)
    · rfl

theorem brace_of_class {inClass : Char → Bool}
    (apart : ∀ bracket ∈ ['⟨', '{', '⟩', '}'], inClass bracket = false) (c : Char) :
    inClass (brace c) = inClass c := by
  unfold brace
  split
  · next isOpener => rw [isOpener, apart '{' (by decide), apart '⟨' (by decide)]
  · split
    · next isCloser => rw [isCloser, apart '}' (by decide), apart '⟩' (by decide)]
    · rfl

@[simp] theorem withBraces_nil : withBraces [] = [] := rfl

@[simp] theorem withBraces_cons (c : Char) (rest : Text) :
    withBraces (c :: rest) = brace c :: withBraces rest := rfl

@[simp] theorem withBraces_append (left right : Text) :
    withBraces (left ++ right) = withBraces left ++ withBraces right :=
  List.map_append

theorem trim_withBraces (text : Text) : trim (withBraces text) = withBraces (trim text) :=
  trimBy_map (brace_of_class (by decide)) text

theorem count_withBraces {c : Char} (plain : isBlockBracket c = false) (text : Text) :
    (withBraces text).count c = text.count c := by
  rw [withBraces, List.count, List.countP_map]
  refine List.countP_congr fun other _ => ?_
  simpa using brace_eq_iff plain other

theorem stateEntry_withBraces (declaration : Text) :
    stateEntry (withBraces declaration) = withBraces (stateEntry declaration) := by
  have cut := cutAt_map (brace_eq_iff (show isBlockBracket ':' = false by decide)) declaration
  have shown : ∀ value : Text, (if (trim (withBraces value)).isEmpty then "undefined".toList else
      trim (withBraces value)) =
        withBraces (if (trim value).isEmpty then "undefined".toList else trim value) := by
    intro value
    rw [trim_withBraces, withBraces, List.isEmpty_map]
    split
    · decide
    · rfl
  have value : ((cutAt ':' declaration).2.map withBraces).getD [] =
      withBraces ((cutAt ':' declaration).2.getD []) := by
    cases (cutAt ':' declaration).2 <;> rfl
  have indent : withBraces "  ".toList = "  ".toList := by decide
  have mark : withBraces ": ".toList = ": ".toList := by decide
  rw [stateEntry, withBraces, cut]
  simp only [stateEntry, withBraces_append, indent, mark, ← shown, ← value, ← trim_withBraces]
  rfl

/-! ## Entries -/

def entriesOf (pieces : List Text) : List Text :=
  ((pieces.map trim).filter fun piece => !piece.isEmpty).map stateEntry

/-- The entries of the field that a scan is in, of which the front has been read, and of the fields
after it. -/
def entriesFrom (state : ScanState) (front inner : Text) : List Text :=
  entriesOf ((front ++ (state.scan isComma inner).1) :: (state.scan isComma inner).2)

theorem entriesOf_cons (piece : Text) (pieces : List Text) :
    entriesOf (piece :: pieces) = entriesOf [piece] ++ entriesOf pieces := by
  rw [entriesOf, List.map_cons, ← List.singleton_append, List.filter_append, List.map_append]
  rfl

theorem entriesOf_cons_of_filled {piece : Text} (filled : trim piece ≠ []) (pieces : List Text) :
    entriesOf (piece :: pieces) = stateEntry piece :: entriesOf pieces := by
  have kept : (!(trim piece).isEmpty) = true := by simpa using filled
  simp only [entriesOf, List.map_cons, List.filter_cons, kept, if_true, stateEntry_trim]

theorem entriesOf_withBraces (pieces : List Text) :
    entriesOf (pieces.map withBraces) = (entriesOf pieces).map withBraces := by
  induction pieces with
  | nil => rfl
  | cons piece pieces induction =>
      by_cases blank : trim piece = []
      · have bracedBlank : trim (withBraces piece) = [] := by rw [trim_withBraces, blank]; rfl
        simpa [entriesOf, blank, bracedBlank] using induction
      · have filled : trim (withBraces piece) ≠ [] := by
          rw [trim_withBraces]
          exact mt List.map_eq_nil_iff.mp blank
        rw [List.map_cons, entriesOf_cons_of_filled filled, entriesOf_cons_of_filled blank,
          List.map_cons, stateEntry_withBraces, induction]

variable {angled braced state next : ScanState} {front : Text}

theorem entriesFrom_nil (state : ScanState) (front : Text) :
    entriesFrom state front [] = entriesOf [front] := by
  have nothing : state.scan isComma [] = ([], []) := by
    rcases state with ⟨_ | quote, depth⟩ <;> rfl
  rw [entriesFrom, nothing, List.append_nil]

theorem entriesFrom_of_next {c : Char} (passed : state.next? isComma c = some next)
    (front rest : Text) :
    entriesFrom state front (c :: rest) = entriesFrom next (front ++ [c]) rest := by
  rw [entriesFrom, scan_cons, passed, entriesFrom, List.append_assoc, List.singleton_append]

theorem entriesFrom_of_end {c : Char} (ends : state.next? isComma c = none) (front rest : Text) :
    entriesFrom state front (c :: rest) =
      entriesOf [front] ++ (fields isComma rest).map stateEntry := by
  rw [entriesFrom, scan_cons, ends, List.append_nil, entriesOf_cons]
  rfl

theorem count_comma_stateEntry (declaration : Text) :
    (stateEntry declaration).count ',' = declaration.count ',' := by
  have blanks : ∀ c, isBlank c = true → (c == ',') = false := by
    intro c blank
    rw [beq_eq_false_iff_ne]
    rintro rfl
    cases blank
  rw [List.count_eq_length_filter, List.count_eq_length_filter,
    filter_stateEntry blanks (by decide)]

theorem exists_entriesFrom_cons (state : ScanState) (filled : trim front ≠ []) (inner : Text) :
    ∃ entry others, entriesFrom state front inner = entry :: others ∧
      front.count ',' ≤ entry.count ',' := by
  have more : trim (front ++ (state.scan isComma inner).1) ≠ [] := fun blank =>
    filled (trimBy_eq_nil_iff.mpr fun c member =>
      trimBy_eq_nil_iff.mp blank c (List.mem_append_left _ member))
  refine ⟨_, _, entriesOf_cons_of_filled more _, ?_⟩
  rw [count_comma_stateEntry, List.count_append]
  exact Nat.le_add_right _ _

/-! ## Cuts -/

theorem cutsAlikeFrom_nil : CutsAlikeFrom angled braced [] := by
  intro front inFront
  simp at inFront

theorem cutsAlikeFrom_cons {c : Char} {rest : Text} :
    CutsAlikeFrom angled braced (c :: rest) ↔
      (c = ',' → (angled = outside ↔ braced = outside)) ∧
        CutsAlikeFrom (angled.step isComma c) (braced.step isComma (brace c)) rest := by
  constructor
  · intro alike
    refine ⟨?_, fun front inFront => alike (c :: front) ?_⟩
    · rintro rfl
      exact alike [] (List.prefix_append [','] rest)
    · exact List.cons_prefix_cons.mpr ⟨rfl, inFront⟩
  · rintro ⟨first, later⟩ front inFront
    cases front with
    | nil => exact first (List.cons_prefix_cons.mp inFront).1.symm
    | cons d front =>
        rcases List.cons_prefix_cons.mp inFront with ⟨rfl, inRest⟩
        exact later front inRest

theorem step_of_next {c : Char} (passed : state.next? isComma c = some next) :
    state.step isComma c = next := by
  rw [step, passed]
  rfl

def firstCommas (entries : List Text) : Option Nat :=
  entries.head?.map (List.count ',')

theorem firstCommas_withBraces (entries : List Text) :
    firstCommas (entries.map withBraces) = firstCommas entries := by
  cases entries with
  | nil => rfl
  | cons entry others => exact congrArg some (count_withBraces (by decide) entry)

/-- If one scan ends a field at a comma and another one does not, the comma is in the first entry of
the other one only. -/
theorem firstCommas_ne {ending going : ScanState} {ended gone : Text}
    (ends : ending.next? isComma ',' = none) (passed : going.next? isComma ',' = some next)
    (endedFilled : trim ended ≠ []) (goneFilled : trim (gone ++ [',']) ≠ [])
    (same : ended.count ',' = gone.count ',') (endedRest goneRest : Text) :
    firstCommas (entriesFrom ending ended (',' :: endedRest)) ≠
      firstCommas (entriesFrom going gone (',' :: goneRest)) := by
  rcases exists_entriesFrom_cons next goneFilled goneRest with ⟨entry, others, first, more⟩
  rw [entriesFrom_of_end ends, entriesOf_cons_of_filled endedFilled,
    entriesFrom_of_next passed, first]
  intro equal
  have counts : (stateEntry ended).count ',' = entry.count ',' := Option.some.inj equal
  rw [count_comma_stateEntry, same] at counts
  rw [List.count_append] at more
  simp at more
  omega

theorem trim_append_comma_ne_nil (front : Text) : trim (front ++ [',']) ≠ [] := by
  intro blank
  have comma := trimBy_eq_nil_iff.mp blank ',' (by simp)
  cases comma

theorem next?_of_blank {c : Char} (blank : isBlank c = true) :
    outside.next? isComma c = some outside := by
  have noMark : ∀ mark ∈ "'\"`([{)]},".toList, c ≠ mark := by
    rintro mark member rfl
    exact absurd blank
      ((by decide : ∀ mark ∈ "'\"`([{)]},".toList, ¬isBlank mark = true) c member)
  simp at noMark
  simp [next?, outside, isQuote, isNestingOpener, isNestingCloser, isComma, noMark]

theorem cutsAlikeFrom_cons_of_next {left right : ScanState} {c : Char} {rest : Text}
    (angledNext : angled.next? isComma c = some left)
    (bracedNext : braced.next? isComma (brace c) = some right) :
    CutsAlikeFrom angled braced (c :: rest) ↔ CutsAlikeFrom left right rest := by
  rw [cutsAlikeFrom_cons, step_of_next angledNext, step_of_next bracedNext]
  refine and_iff_right_of_imp fun _ => ?_
  rintro rfl
  have angledIn : angled ≠ outside := by
    rintro rfl
    cases angledNext
  have bracedIn : braced ≠ outside := by
    rintro rfl
    cases bracedNext
  exact iff_of_false angledIn bracedIn

theorem cutsAlikeFrom_cons_of_end {rest : Text} :
    CutsAlikeFrom outside outside (',' :: rest) ↔ CutsAlike rest := by
  rw [cutsAlikeFrom_cons]
  exact and_iff_right fun _ => Iff.rfl

/-- Two scans that have read the same front of a field give the same entries exactly if the rest is
cut alike. While they have read blanks only they stand outside quotes and brackets. -/
theorem entriesFrom_withBraces_iff
    (start : trim front = [] → angled = outside ∧ braced = outside) (inner : Text) :
    entriesFrom braced (withBraces front) (withBraces inner) =
        (entriesFrom angled front inner).map withBraces ↔ CutsAlikeFrom angled braced inner := by
  induction inner generalizing angled braced front with
  | nil =>
      rw [withBraces_nil, entriesFrom_nil, entriesFrom_nil, ← entriesOf_withBraces]
      exact iff_of_true rfl cutsAlikeFrom_nil
  | cons c rest induction =>
      have bracedFilled : trim front ≠ [] → trim (withBraces front) ≠ [] := by
        intro filled
        rw [trim_withBraces]
        exact mt List.map_eq_nil_iff.mp filled
      have sameCount := count_withBraces (show isBlockBracket ',' = false by decide) front
      cases angledNext : angled.next? isComma c with
      | none =>
          rcases next?_comma_eq_none_iff.mp angledNext with ⟨rfl, rfl⟩
          have plainComma : brace ',' = ',' := by decide
          rw [withBraces_cons, plainComma]
          cases bracedNext : braced.next? isComma ',' with
          | none =>
              rw [(next?_comma_eq_none_iff.mp bracedNext).2, entriesFrom_of_end rfl,
                entriesFrom_of_end rfl, List.map_append, ← entriesOf_withBraces,
                List.map_singleton, List.append_right_inj, cutsAlikeFrom_cons_of_end]
              exact @induction outside outside [] fun _ => ⟨rfl, rfl⟩
          | some next =>
              -- The comma ends a field of the one scan and is inside the first entry of the other.
              have bracedIn : braced ≠ outside := by
                rintro rfl
                cases bracedNext
              have filled : trim front ≠ [] := fun blank => bracedIn (start blank).2
              have differ := firstCommas_ne angledNext bracedNext filled
                (trim_append_comma_ne_nil (withBraces front)) sameCount.symm rest (withBraces rest)
              refine iff_of_false (fun equal => differ ?_) fun alike => bracedIn ?_
              · rw [equal, firstCommas_withBraces]
              · exact ((cutsAlikeFrom_cons.mp alike).1 rfl).mp rfl
      | some left =>
          cases bracedNext : braced.next? isComma (brace c) with
          | none =>
              rcases next?_comma_eq_none_iff.mp bracedNext with ⟨bracedComma, rfl⟩
              have comma := (brace_eq_iff (by decide) c).mp bracedComma
              rw [comma] at angledNext bracedNext ⊢
              have angledIn : angled ≠ outside := by
                rintro rfl
                cases angledNext
              have filled : trim front ≠ [] := fun blank => angledIn (start blank).1
              have differ := firstCommas_ne bracedNext angledNext (bracedFilled filled)
                (trim_append_comma_ne_nil front) sameCount (withBraces rest) rest
              refine iff_of_false (fun equal => differ ?_) fun alike => angledIn ?_
              · rw [← firstCommas_withBraces (entriesFrom angled front (',' :: rest)), ← equal]
                rfl
              · exact ((cutsAlikeFrom_cons.mp alike).1 rfl).mpr rfl
          | some right =>
              -- Neither scan is at the end of its field, so one more character has been read of it.
              have longerStart : trim (front ++ [c]) = [] → left = outside ∧ right = outside := by
                intro blank
                have inside := trimBy_eq_nil_iff.mp blank
                rcases start (trimBy_eq_nil_iff.mpr fun d member =>
                  inside d (List.mem_append_left [c] member)) with ⟨rfl, rfl⟩
                have blankChar : isBlank c = true := inside c (by simp)
                have blankBrace : isBlank (brace c) = true :=
                  (brace_of_class (by decide) c).trans blankChar
                rw [next?_of_blank blankChar] at angledNext
                rw [next?_of_blank blankBrace] at bracedNext
                exact ⟨(Option.some.inj angledNext).symm, (Option.some.inj bracedNext).symm⟩
              have later := induction longerStart
              rw [withBraces_append] at later
              rw [withBraces_cons, entriesFrom_of_next angledNext, entriesFrom_of_next bracedNext,
                cutsAlikeFrom_cons_of_next angledNext bracedNext]
              exact later

theorem map_stateEntry_fields_withBraces_iff (inner : Text) :
    (fields isComma (withBraces inner)).map stateEntry =
        ((fields isComma inner).map stateEntry).map withBraces ↔ CutsAlike inner :=
  @entriesFrom_withBraces_iff outside outside [] (fun _ => ⟨rfl, rfl⟩) inner

/-! ## State objects -/

theorem withBraces_stateObject (inner : Text) :
    withBraces (stateObject inner) = "const state = \x7b\n".toList ++
      join ",\n" (((fields isComma inner).map stateEntry).map withBraces) ++ "\n\x7d;".toList := by
  have separator : ",\n".toList.map brace = ",\n".toList := by decide
  have head : withBraces "const state = \x7b\n".toList = "const state = \x7b\n".toList := by decide
  have tail : withBraces "\n\x7d;".toList = "\n\x7d;".toList := by decide
  have entries := join_map separator ((fields isComma inner).map stateEntry)
  unfold stateObject
  rw [withBraces_append, withBraces_append, head, tail]
  exact congrArg (fun lines => _ ++ lines ++ _) entries

theorem stateObject_withBraces {inner : Text} (alike : CutsAlike inner) :
    stateObject (withBraces inner) = withBraces (stateObject inner) := by
  rw [withBraces_stateObject, ← (map_stateEntry_fields_withBraces_iff inner).mpr alike]
  rfl

theorem newline_mem_withBraces (text : Text) : '\n' ∈ withBraces text ↔ '\n' ∈ text := by
  rw [← List.count_pos_iff, count_withBraces (by decide), List.count_pos_iff]

theorem stateObject_withBraces_iff {inner : Text} (oneLine : '\n' ∉ inner) :
    stateObject (withBraces inner) = withBraces (stateObject inner) ↔ CutsAlike inner := by
  rw [withBraces_stateObject, ← map_stateEntry_fields_withBraces_iff]
  refine stateObject_eq_iff_entries (mt (newline_mem_withBraces inner).mp oneLine) ?_
  refine List.forall_mem_map.mpr (List.forall_mem_map.mpr fun field isField => ?_)
  refine ⟨mt List.map_eq_nil_iff.mp (stateEntry_ne_nil field), fun isBreak => ?_⟩
  have inEntry := (newline_mem_withBraces (stateEntry field)).mp isBreak
  exact oneLine (mem_of_mem_fields isField (mem_of_mem_stateEntry (by decide) inEntry))

/-! ## Blocks -/

section Blocks

theorem HasNoBrace.of_cons {c : Char} {rest : Text} (noBrace : HasNoBrace (c :: rest)) :
    HasNoBrace rest :=
  fun d member => noBrace d (List.mem_cons_of_mem c member)

theorem HasNoBrace.of_block {mark opener closer : Char} {inner after : Text}
    (noBrace : HasNoBrace (mark :: opener :: (inner ++ closer :: after))) :
    HasNoBrace inner ∧ HasNoBrace after := by
  refine ⟨fun c member => noBrace c ?_, fun c member => noBrace c ?_⟩ <;> simp [member]

theorem count_withBraces_of_bracket {angle other : Char}
    (kind : angle = '⟨' ∧ other = '{' ∨ angle = '⟩' ∧ other = '}') {text : Text}
    (noBrace : HasNoBrace text) : (withBraces text).count other = text.count angle := by
  rw [withBraces, List.count, List.countP_map]
  refine List.countP_congr fun c member => ?_
  have plain := noBrace c member
  rcases kind with ⟨rfl, rfl⟩ | ⟨rfl, rfl⟩ <;>
    simp only [Function.comp_apply, beq_iff_eq, brace] <;> grind

theorem IsBalanced.withBraces {inner : Text} (balanced : IsBalanced '⟨' '⟩' inner)
    (noBrace : HasNoBrace inner) : IsBalanced '{' '}' (withBraces inner) := by
  have counts : ∀ part, part <+: inner →
      (Construct.withBraces part).count '{' = part.count '⟨' ∧
        (Construct.withBraces part).count '}' = part.count '⟩' := by
    intro part inFront
    have partPlain : HasNoBrace part := fun c member => noBrace c (inFront.subset member)
    exact ⟨count_withBraces_of_bracket (.inl ⟨rfl, rfl⟩) partPlain,
      count_withBraces_of_bracket (.inr ⟨rfl, rfl⟩) partPlain⟩
  constructor
  · intro bracedPart inFront
    have taken : bracedPart = Construct.withBraces (inner.take bracedPart.length) := by
      rw [Construct.withBraces, List.map_take]
      exact List.prefix_iff_eq_take.mp inFront
    have part := List.take_prefix bracedPart.length inner
    rw [taken, (counts _ part).1, (counts _ part).2]
    exact balanced.front _ part
  · rw [(counts inner List.prefix_rfl).1, (counts inner List.prefix_rfl).2]
    exact balanced.whole

theorem StartsNoBlock.withBraces {handlers : Handlers} (same : ∀ c, handlers (brace c) = handlers c)
    {c : Char} {rest : Text} (noBlock : StartsNoBlock handlers c rest) :
    StartsNoBlock handlers (brace c) (withBraces rest) := by
  rcases noBlock with noMark | noOpener
  · exact .inl ((same c).trans noMark)
  · refine .inr fun opener isNext => ?_
    cases rest with
    | nil => cases isNext
    | cons next rest =>
        cases isNext
        have closed : blockCloser? next = none := noOpener next rfl
        have noAngle : next ≠ '⟨' := by
          rintro rfl
          cases closed
        unfold brace
        rw [if_neg noAngle]
        split
        · rfl
        · exact closed

theorem withBraces_block (mark : Char) (inner after : Text) :
    withBraces (mark :: '⟨' :: (inner ++ '⟩' :: after)) =
      brace mark :: '{' :: (withBraces inner ++ '}' :: withBraces after) := by
  rw [withBraces_cons, withBraces_cons, withBraces_append, withBraces_cons]
  rfl

theorem BlocksClose.withBraces {handlers : Handlers} (same : ∀ c, handlers (brace c) = handlers c)
    {text : Text} (closes : BlocksClose handlers text) (noBrace : HasNoBrace text) :
    BlocksClose handlers (withBraces text) := by
  induction closes with
  | nil => exact .nil
  | plain noBlock _ induction =>
      exact .plain (noBlock.withBraces same) (induction noBrace.of_cons)
  | @block mark opener closer inner after marked pair balanced _ _ inside later =>
      have plain := noBrace.of_block
      rcases blockCloser?_eq_some pair with ⟨rfl, rfl⟩ | ⟨rfl, rfl⟩
      · have braceMarked : handlers (brace mark) ≠ none := by rwa [same mark]
        rw [withBraces_block]
        exact .block braceMarked rfl (balanced.withBraces plain.1) (inside plain.1) (later plain.2)
      · exact absurd rfl (noBrace '{' (by simp)).1

end Blocks

/-! ## State blocks -/

theorem stateHandlers_brace (c : Char) : stateHandlers (brace c) = stateHandlers c := by
  unfold brace
  split
  · next isOpener =>
    rw [isOpener]
    rfl
  · split
    · next isCloser =>
      rw [isCloser]
      rfl
    · rfl

/-- Texts whose state blocks close and are cut alike in both kinds of bracket, each when the blocks
inside it have been written. -/
inductive StatesCutAlike : Text → Prop
  | nil : StatesCutAlike []
  | plain {c : Char} {rest : Text} (noBlock : StartsNoBlock stateHandlers c rest)
      (later : StatesCutAlike rest) : StatesCutAlike (c :: rest)
  | block {mark opener closer : Char} {inner innerDone after : Text}
      (marked : stateHandlers mark ≠ none) (pair : blockCloser? opener = some closer)
      (balanced : IsBalanced opener closer inner) (inside : StatesCutAlike inner)
      (written : rewriteStates inner = .ok innerDone) (alike : CutsAlike innerDone)
      (later : StatesCutAlike after) :
      StatesCutAlike (mark :: opener :: (inner ++ closer :: after))

theorem StatesCutAlike.of_unmarked {text : Text} (plain : ∀ c ∈ text, stateHandlers c = none) :
    StatesCutAlike text := by
  induction text with
  | nil => exact .nil
  | cons c rest induction =>
      exact .plain (.inl (plain c List.mem_cons_self))
        (induction fun d member => plain d (List.mem_cons_of_mem c member))

theorem stateHandlers_eq_some {mark : Char} (marked : stateHandlers mark ≠ none) :
    stateHandlers mark = some stateObject := by
  unfold stateHandlers at marked ⊢
  split
  · rfl
  · rfl
  · simp_all

theorem StatesCutAlike.exists_rewriteStates {text : Text} (alike : StatesCutAlike text)
    (noBrace : HasNoBrace text) : ∃ result, rewriteStates text = .ok result ∧
      rewriteStates (withBraces text) = .ok (withBraces result) := by
  induction alike with
  | nil => exact ⟨[], rewriteFrom_nil 0, rewriteFrom_nil 0⟩
  | @plain c rest noBlock _ induction =>
      rcases induction noBrace.of_cons with ⟨done, angled, braced⟩
      exact ⟨c :: done, rewriteBlocks_cons_of_no_block noBlock angled,
        rewriteBlocks_cons_of_no_block (noBlock.withBraces stateHandlers_brace) braced⟩
  | @block mark opener closer inner innerDone after marked pair balanced _ written alike _ inside
      later =>
      have plain := noBrace.of_block
      have handled := stateHandlers_eq_some marked
      rcases blockCloser?_eq_some pair with ⟨rfl, rfl⟩ | ⟨rfl, rfl⟩
      · rcases inside plain.1 with ⟨innerResult, innerAngled, innerBraced⟩
        rcases later plain.2 with ⟨afterDone, afterAngled, afterBraced⟩
        cases innerAngled.symm.trans written
        refine ⟨stateObject innerDone ++ afterDone,
          rewriteBlocks_of_balanced handled pair balanced innerAngled afterAngled, ?_⟩
        have braced := rewriteBlocks_of_balanced ((stateHandlers_brace mark).trans handled) rfl
          (balanced.withBraces plain.1) innerBraced afterBraced
        rw [withBraces_block, withBraces_append, ← stateObject_withBraces alike]
        exact braced
      · exact absurd rfl (noBrace '{' (by simp)).1

/-- A text without braces is also rewritten when braces stand in place of its angle brackets, and to
what it is rewritten to, in braces, if its state blocks are cut alike. -/
theorem rewriteStates_withBraces {text result : Text} (noBrace : HasNoBrace text)
    (rewritten : rewriteStates text = .ok result) :
    ∃ braced, rewriteStates (withBraces text) = .ok braced ∧
      (StatesCutAlike text → braced = withBraces result) := by
  have closes := (BlocksClose.of_rewriteFrom rewritten).withBraces stateHandlers_brace noBrace
  rcases closes.exists_rewriteFrom 0 with ⟨braced, bracedRewritten⟩
  refine ⟨braced, bracedRewritten, fun alike => ?_⟩
  rcases alike.exists_rewriteStates noBrace with ⟨angled, angledRewritten, again⟩
  cases angledRewritten.symm.trans rewritten
  exact Except.ok.inj (bracedRewritten.symm.trans again)

theorem rewriteStates_withBraces_call :
    rewriteStates "Σ⟨a:f⟨x⟩,b:[1,2]⟩".toList =
        .ok "const state = \x7b\n  a: f⟨x⟩,\n  b: [1,2]\n\x7d;".toList ∧
      ∃ braced, rewriteStates (withBraces "Σ⟨a:f⟨x⟩,b:[1,2]⟩".toList) = .ok braced ∧
        braced = withBraces "const state = \x7b\n  a: f⟨x⟩,\n  b: [1,2]\n\x7d;".toList := by
  have rewritten : rewriteStates "Σ⟨a:f⟨x⟩,b:[1,2]⟩".toList =
      .ok "const state = \x7b\n  a: f⟨x⟩,\n  b: [1,2]\n\x7d;".toList := by decide +kernel
  have unmarked : ∀ c ∈ "a:f⟨x⟩,b:[1,2]".toList, stateHandlers c = none := by decide
  have balanced : IsBalanced '⟨' '⟩' "a:f⟨x⟩,b:[1,2]".toList := by decide
  have alike : StatesCutAlike "Σ⟨a:f⟨x⟩,b:[1,2]⟩".toList :=
    .block (by decide) rfl balanced (.of_unmarked unmarked) (rewriteFrom_of_unmarked unmarked 0)
      (by decide) .nil
  rcases rewriteStates_withBraces (by decide) rewritten with ⟨braced, bracedRewritten, same⟩
  exact ⟨rewritten, braced, bracedRewritten, same alike⟩

/-- The comma between the parameters of a function ends a field in angle brackets only. -/
theorem rewriteStates_withBraces_parameters :
    rewriteStates "Σ⟨f:λ⟨g,x⟩x⟨/λ⟩⟩".toList =
        .ok "const state = \x7b\n  f: λ⟨g,\n  x⟩x⟨/λ⟩: undefined\n\x7d;".toList ∧
      rewriteStates (withBraces "Σ⟨f:λ⟨g,x⟩x⟨/λ⟩⟩".toList) =
        .ok "const state = \x7b\n  f: λ\x7bg,x\x7dx\x7b/λ\x7d\n\x7d;".toList ∧
      withBraces "const state = \x7b\n  f: λ⟨g,\n  x⟩x⟨/λ⟩: undefined\n\x7d;".toList ≠
        "const state = \x7b\n  f: λ\x7bg,x\x7dx\x7b/λ\x7d\n\x7d;".toList ∧
      HasNoBrace "Σ⟨f:λ⟨g,x⟩x⟨/λ⟩⟩".toList := by
  refine ⟨by decide +kernel, by decide +kernel, by decide, by decide⟩

end SymbolScript.Construct
