import SymbolScript.Construct.Component
import SymbolScript.Proofs.Construct.BlockSource
import SymbolScript.Proofs.Construct.Mark

/-!
Components and the application root. Component blocks are rewritten one by one, each up to its own
closing tag, inside a root block as they are anywhere else; and what is written for components
neither opens nor closes a root block.
-/

namespace SymbolScript.Construct

open Text

/-! ## Blocks in front of a closing tag -/

namespace BlockSource

variable {isTag isExcluded : Char → Bool}

theorem exists_reverse_text (block : BlockSource isTag isExcluded) :
    ∃ front, block.text.reverse = block.endCloser.closer :: block.tag :: front := by
  refine ⟨['/', block.endOpener.opener] ++ (block.tag :: block.headerOpener.opener ::
    (block.name ++ (listText block.parameters ++
      block.headerCloser.closer :: block.body))).reverse, ?_⟩
  simp [text]

theorem eq_nil_of_text_eq_append (block : BlockSource isTag isExcluded) {tag : Char}
    (noTag : isTag tag = false) (noCloser : isCloser tag = false) (opener closer : BlockBracket)
    {before inside after : Text} (parts : block.text = before ++ inside)
    (closing : [opener.opener, '/', tag, closer.closer] = inside ++ after) : inside = [] := by
  rcases block.exists_reverse_text with ⟨front, ends⟩
  rw [parts, List.reverse_append] at ends
  have closes := block.endCloser.isCloser_closer
  have opens : isCloser opener.opener = false := by cases opener <;> rfl
  match inside with
  | [] => rfl
  | [_] =>
      cases closing
      rw [← (List.cons.inj ends).1, opens] at closes
      cases closes
  | [_, _] =>
      cases closing
      rw [← (List.cons.inj ends).1] at closes
      cases closes
  | [_, _, _] =>
      cases closing
      rw [← (List.cons.inj ends).1, noCloser] at closes
      cases closes
  | [_, _, _, _] =>
      cases closing
      have tagged := block.tagged
      rw [← (List.cons.inj (List.cons.inj ends).2).1, noTag] at tagged
      cases tagged
  | _ :: _ :: _ :: _ :: _ :: _ => cases closing

theorem taggedBlocks_stopsBefore {tag : Char} (noTag : isTag tag = false)
    (noCloser : isCloser tag = false) (opener closer : BlockBracket) :
    (taggedBlocks isTag isExcluded).StopsBefore [opener.opener, '/', tag, closer.closer] := by
  intro text
  change takeBlock? isTag isExcluded _ = (takeBlock? isTag isExcluded text).map _
  cases taken : takeBlock? isTag isExcluded text with
  | some found =>
      rcases found with ⟨value, after⟩
      rcases takeBlock?_eq_some_iff.mp taken with ⟨block, rfl, rfl⟩
      rw [List.append_assoc]
      exact block.takeBlock?_append _
  | none =>
      refine Option.eq_none_iff_forall_ne_some.mpr ?_
      rintro ⟨value, after⟩ reached
      rcases takeBlock?_eq_some_iff.mp reached with ⟨block, parts, _⟩
      rcases List.append_eq_append_iff.mp parts with ⟨inside, whole, closing⟩ | ⟨rest, rfl, _⟩
      · rw [block.eq_nil_of_text_eq_append noTag noCloser opener closer whole closing,
          List.append_nil] at whole
        have here := block.takeBlock?_append []
        rw [List.append_nil, whole, taken] at here
        cases here
      · rw [block.takeBlock?_append rest] at taken
        cases taken

end BlockSource

/-! ## Components -/

/-- A component block as it is written. Its name holds no comma, no star and no bracket of blocks. -/
abbrev ComponentSource := BlockSource isComponentTag isStar

namespace ComponentSource

def signature (block : ComponentSource) : Text :=
  if block.names = [] then [] else
    "\x7b ".toList ++ join ", " block.names ++ " \x7d".toList

def function (block : ComponentSource) : Text :=
  "function ".toList ++ trim block.name ++ "(".toList ++ signature block ++
    ") \x7b\n  return (\n    ".toList ++ trim block.body ++ "\n  );\n\x7d".toList

theorem propertySignature_parts (block : ComponentSource) :
    propertySignature block.parts.parameters = signature block := by
  unfold propertySignature parameterList signature
  rw [block.parameters_parts]
  cases named : block.names with
  | nil => rfl
  | cons name rest =>
      have filled : name ≠ [] := by
        have member : name ∈ block.names := by simp [named]
        simpa using (List.mem_filter.mp member).2
      split
      · next empty => exact absurd empty (join_ne_nil ", " filled rest)
      · rw [if_neg (List.cons_ne_nil name rest)]

theorem componentFunction_parts (block : ComponentSource) :
    componentFunction block.parts = function block := by
  have joined : ") \x7b\n  return (\n    ".toList =
      ")".toList ++ " \x7b\n  return (\n    ".toList := by
    decide
  unfold componentFunction returnedBody function
  rw [propertySignature_parts, joined]
  simp only [List.append_assoc]
  rfl

theorem exists_piece_of_mem_names {block : ComponentSource} {c : Char}
    (member : c ∈ join ", " block.names) :
    c ∈ ", ".toList ∨ ∃ pieces ∈ block.parameters, ∃ piece ∈ pieces, c ∈ piece := by
  rcases mem_join member with inSeparator | ⟨name, isName, inside⟩
  · exact .inl inSeparator
  · rcases List.mem_map.mp (List.mem_filter.mp isName).1 with ⟨piece, isPiece, rfl⟩
    cases written : block.parameters with
    | none => simp [written] at isPiece
    | some pieces =>
        rw [written] at isPiece
        exact .inr ⟨pieces, rfl, piece, isPiece, mem_of_mem_trimBy inside⟩

end ComponentSource

/-! ## The application root -/

def rootSource (tag : Char) (body : Text) : Text :=
  tag :: "⟨✱⟩".toList ++ body ++ "⟨/".toList ++ tag :: "⟩".toList

def rootShown (body : Text) : Text :=
  "export default function App() \x7b\n  return (\n    ".toList ++ trim body ++
    "\n  );\n\x7d".toList

theorem rootFunction_eq (body : Text) : rootFunction body = rootShown body := by
  have joined : "export default function App() \x7b\n  return (\n    ".toList =
      "export default function App()".toList ++ " \x7b\n  return (\n    ".toList := by
    decide
  unfold rootFunction returnedBody rootShown
  rw [joined]
  simp only [List.append_assoc]

/-- A text in which no root block starts or ends, whatever stands behind it: no tag of a root stands
in front of a bracket, and none at the end. -/
structure IsRootFree (text : Text) : Prop where
  unopened : text.IsChain fun c next => isRootTag c = true → isOpener next = false
  last : ∀ c ∈ text.getLast?, isRootTag c = false

namespace IsRootFree

variable {text left right : Text}

theorem of_untagged (untagged : ∀ c ∈ text, isRootTag c = false) : IsRootFree text where
  unopened := by
    refine List.isChain_iff_forall_rel_of_append_cons_cons.mpr fun c next _ _ parts tagged => ?_
    rw [untagged c (by simp [parts])] at tagged
    cases tagged
  last := fun c isLast => untagged c (List.mem_of_getLast? isLast)

theorem of_unopened {last : Char} (unopened : ∀ c ∈ text, isOpener c = false)
    (plain : isOpener last = false ∧ isRootTag last = false) : IsRootFree (text ++ [last]) where
  unopened := by
    refine List.isChain_iff_forall_rel_of_append_cons_cons.mpr fun _ next _ _ parts _ => ?_
    have member : next ∈ text ++ [last] := by simp [parts]
    rcases List.mem_append.mp member with inText | isLast
    · exact unopened next inText
    · exact List.mem_singleton.mp isLast ▸ plain.1
  last := by
    intro c isLast
    rw [List.getLast?_concat] at isLast
    cases isLast
    exact plain.2

theorem append (leftFree : IsRootFree left) (rightFree : IsRootFree right) :
    IsRootFree (left ++ right) where
  unopened := by
    refine List.isChain_append.mpr ⟨leftFree.unopened, rightFree.unopened, ?_⟩
    intro c isLast next _ tagged
    rw [leftFree.last c isLast] at tagged
    cases tagged
  last := by
    intro c isLast
    rw [Option.mem_def, List.getLast?_append, Option.or_eq_some_iff] at isLast
    rcases isLast with inRight | ⟨_, inLeft⟩
    · exact rightFree.last c inRight
    · exact leftFree.last c inLeft

theorem flatMap {Item : Type} {write : Item → Text} {items : List Item}
    (each : ∀ item ∈ items, IsRootFree (write item)) : IsRootFree (items.flatMap write) := by
  induction items with
  | nil => exact of_untagged (List.forall_mem_nil _)
  | cons item rest induction =>
      rw [List.flatMap_cons]
      exact (each item List.mem_cons_self).append
        (induction fun other member => each other (List.mem_cons_of_mem item member))

theorem replace_eq_self (free : IsRootFree text) (write : Text → Text) :
    roots.replace write text = text := by
  apply roots.replace_eq_self
  intro left c right parts
  change takeRoot? (c :: right) = none
  unfold takeRoot?
  split
  · next tag opener closer rest equal =>
    rw [equal] at parts
    have noRoot := List.isChain_iff_forall_rel_of_append_cons_cons.mp free.unopened parts
    refine if_neg ?_
    simp only [Bool.and_eq_true]
    rintro ⟨⟨tagged, opens⟩, _⟩
    rw [noRoot tagged] at opens
    cases opens
  · rfl

end IsRootFree

namespace ComponentSource

/-- What is written for a component whose body holds no tag of a root starts and ends no root block,
even if its name or its properties hold such a tag. -/
theorem isRootFree_function {block : ComponentSource}
    (untagged : ∀ c ∈ block.body, isRootTag c = false) : IsRootFree (function block) := by
  have plainName : ∀ c ∈ trim block.name, isOpener c = false := by
    intro c member
    have plain := (block.named.inside c (mem_of_mem_trimBy member)).1
    exact (Bool.or_eq_false_iff.mp plain).1
  have plainNames : ∀ c ∈ join ", " block.names, isOpener c = false := by
    intro c member
    rcases exists_piece_of_mem_names member with isMark | ⟨pieces, given, piece, isPiece, inside⟩
    · exact (by decide : ∀ c ∈ ", ".toList, isOpener c = false) c isMark
    · exact (Bool.or_eq_false_iff.mp (block.plain pieces given piece isPiece c inside).1).1
  have head : IsRootFree ("function ".toList ++ trim block.name ++ "(".toList) := by
    refine .of_unopened ?_ (by decide)
    exact List.forall_mem_append.mpr ⟨by decide, plainName⟩
  have middle : IsRootFree (signature block) := by
    unfold signature
    split
    · exact .of_untagged (by decide)
    · have closed : join ", " block.names ++ " \x7d".toList =
          (join ", " block.names ++ [' ']) ++ ['\x7d'] := by
        simp
      rw [List.append_assoc, closed]
      refine (IsRootFree.of_untagged (by decide)).append (.of_unopened ?_ (by decide))
      exact List.forall_mem_append.mpr ⟨plainNames, by decide⟩
  have body : IsRootFree (trim block.body) :=
    .of_untagged fun c member => untagged c (mem_of_mem_trimBy member)
  have opening : IsRootFree ") \x7b\n  return (\n    ".toList := .of_untagged (by decide)
  have ending : IsRootFree "\n  );\n\x7d".toList := .of_untagged (by decide)
  exact (((head.append middle).append opening).append body).append ending

theorem untagged_function {block : ComponentSource}
    (untagged : ∀ c ∈ block.text, isRootTag c = false) :
    ∀ c ∈ function block, isRootTag c = false := by
  have inName : ∀ c ∈ trim block.name, isRootTag c = false := fun c member =>
    untagged c (by simp [BlockSource.text, mem_of_mem_trimBy member])
  have inBody : ∀ c ∈ trim block.body, isRootTag c = false := fun c member =>
    untagged c (by simp [BlockSource.text, mem_of_mem_trimBy member])
  have inNames : ∀ c ∈ join ", " block.names, isRootTag c = false := by
    intro c member
    rcases exists_piece_of_mem_names member with isMark | ⟨pieces, given, piece, isPiece, inside⟩
    · exact (by decide : ∀ c ∈ ", ".toList, isRootTag c = false) c isMark
    · have inList : c ∈ BlockSource.listText block.parameters := by
        rw [given]
        exact List.mem_cons_of_mem ',' (mem_join_of_mem "," isPiece inside)
      exact untagged c (by simp [BlockSource.text, inList])
  have inSignature : ∀ c ∈ signature block, isRootTag c = false := by
    unfold signature
    split
    · exact List.forall_mem_nil _
    · simp only [List.forall_mem_append]
      exact ⟨⟨by decide, inNames⟩, by decide⟩
  unfold function
  simp only [List.forall_mem_append]
  exact ⟨⟨⟨⟨⟨⟨by decide, inName⟩, by decide⟩, inSignature⟩, by decide⟩, inBody⟩, by decide⟩

end ComponentSource

theorem untagged_replace_components {text : Text} (untagged : ∀ c ∈ text, isRootTag c = false) :
    ∀ c ∈ components.replace componentFunction text, isRootTag c = false := by
  apply components.forall_mem_replace componentFunction ?_ untagged
  intro text value after taken untagged
  rcases takeBlock?_eq_some_iff.mp taken with ⟨block, rfl, rfl⟩
  rw [List.forall_mem_append] at untagged
  rw [ComponentSource.componentFunction_parts]
  exact ⟨ComponentSource.untagged_function untagged.1, untagged.2⟩

/-! ## Components and roots together -/

theorem rewriteComponents_of_untagged {text : Text} (untagged : ∀ c ∈ text, isRootTag c = false) :
    rewriteComponents text = components.replace componentFunction text :=
  (IsRootFree.of_untagged (untagged_replace_components untagged)).replace_eq_self rootFunction

theorem not_mem_of_untagged {text : Text} (untagged : ∀ c ∈ text, isRootTag c = false) {tag : Char}
    (tagged : isRootTag tag = true) : tag ∉ text := by
  intro member
  rw [untagged tag member] at tagged
  cases tagged

theorem isRootTag_cases {tag : Char} (tagged : isRootTag tag = true) : tag = '界' ∨ tag = 'Ω' := by
  rwa [isRootTag, Bool.or_eq_true, beq_iff_eq, beq_iff_eq] at tagged

theorem replace_components_rootSource {tag : Char} (tagged : isRootTag tag = true) (body : Text) :
    components.replace componentFunction (rootSource tag body) =
      rootSource tag (components.replace componentFunction body) := by
  have plain : isComponentTag tag = false ∧ isCloser tag = false := by
    rcases isRootTag_cases tagged with rfl | rfl <;> decide
  have foreign : tag ∉ ['組', '∆'] := by
    rcases isRootTag_cases tagged with rfl | rfl <;> decide
  have whole : ∀ inner, rootSource tag inner =
      [tag, '⟨', '✱', '⟩'] ++ (inner ++ ['⟨', '/', tag, '⟩']) := by
    intro inner
    simp [rootSource]
  have opening : ∀ c ∈ [tag, '⟨', '✱', '⟩'], c ∉ ['組', '∆'] :=
    List.forall_mem_cons.mpr ⟨foreign, by decide⟩
  have closing : ∀ c ∈ ['⟨', '/', tag, '⟩'], c ∉ ['組', '∆'] := by
    simp only [List.forall_mem_cons]
    exact ⟨by decide, by decide, foreign, by decide, List.forall_mem_nil _⟩
  have stops : components.StopsBefore ['⟨', '/', tag, '⟩'] :=
    BlockSource.taggedBlocks_stopsBefore plain.1 plain.2 .angle .angle
  rw [whole, whole, components_startsWith.replace_append opening, stops.replace_append,
    components_startsWith.replace_eq_self closing]

theorem replace_roots_rootSource {tag : Char} (tagged : isRootTag tag = true) {body : Text}
    (absent : tag ∉ body) :
    roots.replace rootFunction (rootSource tag body) = rootShown body := by
  have split : splitClosingTag? tag (body ++ '⟨' :: '/' :: tag :: '⟩' :: []) = some (body, []) :=
    splitClosingTag?_append (by decide) (by decide) (holdsNoClosingTag_of_not_mem absent) []
  have taken : roots.take (rootSource tag body) = some (body, []) := by
    have whole : rootSource tag body =
        tag :: '⟨' :: '✱' :: '⟩' :: (body ++ '⟨' :: '/' :: tag :: '⟩' :: []) := by
      simp [rootSource]
    rw [whole]
    exact (if_pos (by rw [tagged]; decide)).trans split
  rw [roots.replace_of_found rootFunction taken, roots.replace_nil, List.append_nil,
    rootFunction_eq]

/-- A part of the body of a root: a text without tags, or a component without tags of roots in its
body. -/
def IsRootPart : BlockSegment isComponentTag isStar → Prop
  | .plain characters _ => ∀ c ∈ characters, isRootTag c = false
  | .tagged block => ∀ c ∈ block.body, isRootTag c = false

/-- The application root is written around its body with the components in it rewritten; and in a
body of plain parts and components, the plain parts are kept and every component becomes its
function. -/
theorem rewriteComponents_in_root :
    (∀ (tag : Char) (body : Text), isRootTag tag = true → (∀ c ∈ body, isRootTag c = false) →
      rewriteComponents (rootSource tag body) = rootShown (rewriteComponents body)) ∧
    ∀ segments : List (BlockSegment isComponentTag isStar),
      (∀ segment ∈ segments, IsRootPart segment) →
      rewriteComponents (segments.flatMap BlockSegment.text) =
        segments.flatMap (BlockSegment.shown ComponentSource.function) := by
  constructor
  · intro tag body tagged untagged
    have absent := not_mem_of_untagged (untagged_replace_components untagged) tagged
    rw [rewriteComponents_of_untagged untagged, rewriteComponents,
      replace_components_rootSource tagged, replace_roots_rootSource tagged absent]
  · intro segments each
    have written : (fun block : ComponentSource => componentFunction block.parts) =
        ComponentSource.function :=
      funext ComponentSource.componentFunction_parts
    have replaced := BlockSegment.replace_flatMap_text componentFunction segments
    rw [written] at replaced
    have free : IsRootFree (segments.flatMap (BlockSegment.shown ComponentSource.function)) := by
      apply IsRootFree.flatMap
      intro segment member
      have part := each segment member
      cases segment with
      | plain characters _ => exact .of_untagged part
      | tagged block => exact ComponentSource.isRootFree_function part
    rw [rewriteComponents]
    exact (congrArg (roots.replace rootFunction) replaced).trans (free.replace_eq_self rootFunction)

/-- A component with a blank property and the closing tag of another component in its body. -/
def card : ComponentSource where
  tag := '∆'
  tagged := rfl
  headerOpener := .angle
  name := "Card ".toList
  named := ⟨by decide, by decide⟩
  parameters := some ["a".toList, " ".toList, " b".toList]
  plain := by
    rintro _ ⟨⟩
    decide
  headerCloser := .angle
  body := " \x7ba\x7d⟨/組⟩\n".toList
  noClosing := by decide
  endOpener := .angle
  endCloser := .angle

def cards : List (BlockSegment isComponentTag isStar) :=
  [.tagged card, .plain "\n".toList (by decide), .tagged card]

theorem rewriteComponents_in_root_card :
    isRootTag 'Ω' = true ∧ (∀ c ∈ card.text, isRootTag c = false) ∧
      rewriteComponents (rootSource 'Ω' card.text) = rootShown (rewriteComponents card.text) ∧
      (∀ segment ∈ cards, IsRootPart segment) ∧
      rewriteComponents (cards.flatMap BlockSegment.text) =
        cards.flatMap (BlockSegment.shown ComponentSource.function) := by
  have untagged : ∀ c ∈ card.text, isRootTag c = false := by decide
  have part : IsRootPart (.tagged card) := fun c member =>
    untagged c (by simp [BlockSource.text, member])
  have between : IsRootPart (.plain "\n".toList (by decide)) :=
    (by decide : ∀ c ∈ "\n".toList, isRootTag c = false)
  have parts : ∀ segment ∈ cards, IsRootPart segment := by
    simp only [cards, List.forall_mem_cons]
    exact ⟨part, between, part, List.forall_mem_nil _⟩
  exact ⟨rfl, untagged, rewriteComponents_in_root.1 'Ω' card.text rfl untagged, parts,
    rewriteComponents_in_root.2 cards parts⟩

end SymbolScript.Construct
