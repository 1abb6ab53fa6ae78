import SymbolScript.Proofs.Construct.LiteralTree
import SymbolScript.Proofs.Construct.TaggedBlock

/-!
Tagged blocks as they are written: a tag, a header and a body, each in brackets of either kind. The
blocks that are taken off a text are exactly the written ones, so a text of plain parts and blocks
is rewritten block by block, and every block ends at its own closing tag.
-/

namespace SymbolScript.Construct

open Text

/-! ## Brackets -/

namespace BlockBracket

theorem isOpener_opener (bracket : BlockBracket) : isOpener bracket.opener = true := by
  cases bracket <;> rfl

theorem isCloser_closer (bracket : BlockBracket) : isCloser bracket.closer = true := by
  cases bracket <;> rfl

theorem exists_opener {c : Char} (opens : isOpener c = true) :
    ∃ bracket : BlockBracket, bracket.opener = c := by
  rw [isOpener, Bool.or_eq_true, beq_iff_eq, beq_iff_eq] at opens
  rcases opens with rfl | rfl
  · exact ⟨angle, rfl⟩
  · exact ⟨brace, rfl⟩

theorem exists_closer {c : Char} (closes : isCloser c = true) :
    ∃ bracket : BlockBracket, bracket.closer = c := by
  rcases isCloser_cases closes with rfl | rfl
  · exact ⟨angle, rfl⟩
  · exact ⟨brace, rfl⟩

end BlockBracket

/-! ## Blocks -/

/-- A tagged block as it is written. Its parameters stand behind commas; there may be none, and they
may be blank. The body holds any text but a closing tag of the block. -/
structure BlockSource (isTag isExcluded : Char → Bool) where
  tag : Char
  tagged : isTag tag = true
  headerOpener : BlockBracket
  name : Text
  named : IsHeaderName isExcluded name
  parameters : Option (List Text)
  plain : ∀ pieces ∈ parameters, ∀ piece ∈ pieces, ∀ c ∈ piece, isBlockBracket c = false ∧ c ≠ ','
  headerCloser : BlockBracket
  body : Text
  noClosing : HoldsNoClosingTag tag body
  endOpener : BlockBracket
  endCloser : BlockBracket

namespace BlockSource

variable {isTag isExcluded : Char → Bool}

def listText : Option (List Text) → Text
  | none => []
  | some pieces => ',' :: join "," pieces

def text (block : BlockSource isTag isExcluded) : Text :=
  block.tag :: block.headerOpener.opener :: (block.name ++ (listText block.parameters ++
    block.headerCloser.closer :: (block.body ++
      [block.endOpener.opener, '/', block.tag, block.endCloser.closer])))

/-- The parameters of a block that are not blank, trimmed. -/
def names (block : BlockSource isTag isExcluded) : List Text :=
  ((block.parameters.getD []).map trim).filter fun name => !name.isEmpty

def parts (block : BlockSource isTag isExcluded) : TaggedBlock :=
  ⟨block.name, join "," (block.parameters.getD []), block.body⟩

variable (block : BlockSource isTag isExcluded)

theorem parameters_parts : Construct.parameters block.parts.parameters = block.names := by
  apply parameters_join_pieces
  intro piece isPiece comma
  cases written : block.parameters with
  | none => simp [written] at isPiece
  | some pieces =>
      rw [written] at isPiece
      exact (block.plain pieces written piece isPiece ',' comma).2 rfl

theorem takeHeader?_append (rest : Text) :
    takeHeader? isExcluded (block.headerOpener.opener :: (block.name ++
      (listText block.parameters ++ block.headerCloser.closer :: rest))) =
        some ((block.name, block.parts.parameters), rest) := by
  have opens := block.headerOpener.isOpener_opener
  have closes := block.headerCloser.isCloser_closer
  unfold parts
  cases written : block.parameters with
  | none => exact takeHeader?_of_name opens closes block.named rest
  | some pieces =>
      refine takeHeader?_of_list opens closes block.named ?_ rest
      intro c member
      rcases mem_join member with isComma | ⟨piece, isPiece, inside⟩
      · rw [List.mem_singleton.mp isComma]
        decide
      · exact (block.plain pieces written piece isPiece c inside).1

theorem takeBlock?_append (rest : Text) :
    takeBlock? isTag isExcluded (block.text ++ rest) = some (block.parts, rest) := by
  have header := block.takeHeader?_append (block.body ++
    block.endOpener.opener :: '/' :: block.tag :: block.endCloser.closer :: rest)
  have closing := splitClosingTag?_append block.endOpener.isOpener_opener
    block.endCloser.isCloser_closer block.noClosing rest
  simp only [text, List.cons_append, List.append_assoc, List.nil_append]
  rw [takeBlock?, if_pos block.tagged]
  simp only [header, closing]
  rfl

end BlockSource

theorem exists_header_of_takeHeader? {isExcluded : Char → Bool} {text name list rest : Text}
    (taken : takeHeader? isExcluded text = some ((name, list), rest)) :
    ∃ (opener closer : BlockBracket) (parameters : Option (List Text)),
      IsHeaderName isExcluded name ∧
      (∀ pieces ∈ parameters, ∀ piece ∈ pieces, ∀ c ∈ piece,
        isBlockBracket c = false ∧ c ≠ ',') ∧
      text = opener.opener ::
        (name ++ (BlockSource.listText parameters ++ closer.closer :: rest)) ∧
      list = join "," (parameters.getD []) := by
  rcases takeHeader?_parts taken with ⟨opener, closer, opens, closes, named, plain, shape⟩
  rcases BlockBracket.exists_opener opens with ⟨openerKind, rfl⟩
  rcases BlockBracket.exists_closer closes with ⟨closerKind, rfl⟩
  rcases shape with ⟨parts, rfl⟩ | parts
  · exact ⟨openerKind, closerKind, none, named, by simp, parts, rfl⟩
  · have joined : join "," (splitOn ',' list) = list := join_splitOn rfl list
    refine ⟨openerKind, closerKind, some (splitOn ',' list), named, ?_, ?_, joined.symm⟩
    · rintro _ ⟨⟩ piece isPiece c member
      refine ⟨plain c (mem_of_mem_splitOn isPiece member), ?_⟩
      rintro rfl
      exact not_mem_of_mem_splitOn isPiece member
    · rw [BlockSource.listText, joined, parts, List.cons_append]

theorem takeBlock?_eq_some_iff {isTag isExcluded : Char → Bool} {text after : Text}
    {found : TaggedBlock} :
    takeBlock? isTag isExcluded text = some (found, after) ↔
      ∃ block : BlockSource isTag isExcluded, text = block.text ++ after ∧ found = block.parts := by
  constructor
  · intro taken
    unfold takeBlock? at taken
    split at taken
    · next tag rest =>
      split at taken
      · next tagged =>
        split at taken
        · cases taken
        · next name list afterHeader header =>
          rcases Option.map_eq_some_iff.mp taken with ⟨⟨body, behind⟩, split, equal⟩
          cases equal
          rcases exists_header_of_takeHeader? header with
            ⟨headerOpener, headerCloser, parameters, named, plain, headerParts, rfl⟩
          rcases splitClosingTag?_eq_some_iff.mp split with
            ⟨noClosing, opener, closer, opens, closes, bodyParts⟩
          rcases BlockBracket.exists_opener opens with ⟨endOpener, rfl⟩
          rcases BlockBracket.exists_closer closes with ⟨endCloser, rfl⟩
          refine ⟨⟨tag, tagged, headerOpener, name, named, parameters, plain, headerCloser, body,
            noClosing, endOpener, endCloser⟩, ?_, rfl⟩
          rw [headerParts, bodyParts]
          simp [BlockSource.text]
      · cases taken
    · cases taken
  · rintro ⟨block, rfl, rfl⟩
    exact block.takeBlock?_append after

theorem takeBlock?_of_untagged {isTag isExcluded : Char → Bool} {c : Char} (noTag : isTag c = false)
    (rest : Text) : takeBlock? isTag isExcluded (c :: rest) = none :=
  if_neg (by simp [noTag])

/-! ## Texts of plain parts and blocks -/

/-- A part of a text: one without tags, or a block. -/
inductive BlockSegment (isTag isExcluded : Char → Bool)
  | plain (characters : Text) (untagged : ∀ c ∈ characters, isTag c = false)
  | tagged (block : BlockSource isTag isExcluded)

namespace BlockSegment

variable {isTag isExcluded : Char → Bool}

def text : BlockSegment isTag isExcluded → Text
  | plain characters _ => characters
  | tagged block => block.text

def shown (write : BlockSource isTag isExcluded → Text) : BlockSegment isTag isExcluded → Text
  | plain characters _ => characters
  | tagged block => write block

theorem replace_flatMap_text (spell : TaggedBlock → Text)
    (segments : List (BlockSegment isTag isExcluded)) :
    (taggedBlocks isTag isExcluded).replace spell (segments.flatMap text) =
      segments.flatMap (shown fun block => spell block.parts) := by
  induction segments with
  | nil => exact (taggedBlocks isTag isExcluded).replace_nil spell
  | cons segment rest induction =>
      rw [List.flatMap_cons, List.flatMap_cons, ← induction]
      cases segment with
      | plain characters untagged =>
          apply (taggedBlocks isTag isExcluded).replace_append_of_plain spell characters
          intro left c right parts
          have noTag : isTag c = false := untagged c (by simp [parts])
          exact takeBlock?_of_untagged noTag _
      | tagged block =>
          have taken : (taggedBlocks isTag isExcluded).take (block.text ++ rest.flatMap text) =
              some (block.parts, rest.flatMap text) := block.takeBlock?_append _
          exact (taggedBlocks isTag isExcluded).replace_of_found spell taken

end BlockSegment

end SymbolScript.Construct
