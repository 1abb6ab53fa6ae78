import SymbolScript.Action.Basic

/-! What each action needs and can be told, in a form that programs can read. -/

namespace SymbolScript.Action

/-! ## Fields and actions -/

inductive FieldType
  | string
  | number
  | boolean
deriving DecidableEq, Repr

def FieldType.spelling : FieldType → String
  | string => "string"
  | number => "number"
  | boolean => "boolean"

structure FieldSchema where
  name : String
  type : FieldType
  choices : List String := []
  description : Option String := none
  initial : Option Value := none

structure ActionSchema where
  name : String
  description : String
  fields : List FieldSchema
  required : List String := []

/-! ## Schemas as values -/

def namesEntry (name : String) : List String → Dictionary Text Value
  | [] => []
  | names => [entry name (.list (names.map textOf))]

def FieldSchema.toValue (field : FieldSchema) : Value :=
  .object <|
    [entry "type" (textOf field.type.spelling)] ++ namesEntry "enum" field.choices ++
      (field.description.map fun text => entry "description" (textOf text)).toList ++
      (field.initial.map (entry "default")).toList

def ActionSchema.toValue (schema : ActionSchema) : Value :=
  .object [
    entry "name" (textOf schema.name),
    entry "description" (textOf schema.description),
    entry "parameters" <| .object <|
      [entry "type" (textOf "object"),
        entry "properties" (.object (schema.fields.map fun field =>
          entry field.name field.toValue))] ++
      namesEntry "required" schema.required]

/-! ## The actions -/

def sourceField : FieldSchema where
  name := "source"
  type := .string
  description := "GaiaScript source text"

def schemas : List ActionSchema := [
  { name := "compile"
    description := "Compile GaiaScript source to JavaScript, TypeScript or the Go stub."
    fields := [
      sourceField,
      { name := "target"
        type := .string
        choices := ["javascript", "typescript", "go"]
        description := some "Output to return as 'output'"
        initial := some (textOf "javascript") },
      { name := "debug"
        type := .boolean
        description := some "Include one diagnostic line per compiler pass"
        initial := some (.bool false) }]
    required := ["source"] },
  { name := "expand"
    description := ("Expand Chinese keywords and symbols to English (or Chinese core words with " ++
      "mode=chinese, ASCII stand-ins for core symbols with mode=ascii).")
    fields := [
      { name := "text"
        type := .string
        description := some "Text to expand" },
      { name := "mode"
        type := .string
        choices := ["keywords", "chinese", "words", "ascii"]
        initial := some (textOf "keywords") }]
    required := ["text"] },
  { name := "compress"
    description := "Compress English keywords back to their compact spelling."
    fields := [
      { name := "text"
        type := .string
        description := some "Text to compress" },
      { name := "mode"
        type := .string
        choices := ["keywords", "chinese", "words"]
        initial := some (textOf "keywords") }]
    required := ["text"] },
  { name := "encode_number"
    description := "Encode a number as a Base64 (#⟨..⟩) or vector (⊗..) literal."
    fields := [
      { name := "value"
        type := .number
        description := some "Number to encode" },
      { name := "format"
        type := .string
        choices := ["base64", "vector"]
        initial := some (textOf "vector") }]
    required := ["value"] },
  { name := "decode_number"
    description := ("Decode a Base64 (#⟨..⟩ or bare digits) or vector (⊗..) literal. " ++
      "Infinite values come back as the strings \"Infinity\" / \"-Infinity\".")
    fields := [
      { name := "literal"
        type := .string
        description := some "Encoded number" },
      { name := "format"
        type := .string
        choices := ["base64", "vector"]
        description := some "Detected from the literal when omitted" }]
    required := ["literal"] },
  { name := "token_cost"
    description := "Count tokens of a text, optionally against a traditional spelling."
    fields := [
      sourceField,
      { name := "traditional"
        type := .string
        description := some "Equivalent traditional code to compare against" },
      { name := "method"
        type := .string
        choices := ["bpe", "ratio"]
        description := some "bpe = tiktoken count, ratio = chars / chars_per_token"
        initial := some (textOf "bpe") },
      { name := "chars_per_token"
        type := .number
        initial := some (.number (.real 4.0)) }]
    required := ["source"] },
  { name := "list_symbols"
    description := "List the symbol table, or one ψ category of it."
    fields := [
      { name := "category"
        type := .string
        description := some "ψ category (λ, ρ, Ξ, ⃝); omit for the compiler symbol map" }] }]

def definitions : Value :=
  .list (schemas.map ActionSchema.toValue)

end SymbolScript.Action
