import SymbolScript.Dictionary
import SymbolScript.Text.Digit

/-!
Command line arguments. A grammar has options, which start with a hyphen, and positional words,
which do not. A long option may be shortened as far as it stays unambiguous, and its value may
follow an equals sign; short options may be joined. After a separator of two hyphens all arguments
are words.
-/

namespace SymbolScript.CommandLine

/-! ## Grammars -/

structure OptionSpec where
  key : String
  spellings : List String
  takesValue : Bool := false
  accepts : Text → Bool := fun _ => true

structure WordSpec where
  key : String
  accepts : Text → Bool := fun _ => true

structure Grammar where
  options : List OptionSpec := []
  words : List WordSpec := []

inductive Stop
  | misuse
  | helpWanted
  | versionWanted
  | noCommand
deriving DecidableEq, Repr

/-- What has been read: the keys of options without values, and the values of options and words
by key. -/
structure Arguments where
  flags : List String := []
  values : Dictionary String Text := []
  hasUnknown : Bool := false

namespace Arguments

def hasFlag (arguments : Arguments) (key : String) : Bool :=
  arguments.flags.contains key

def value? (arguments : Arguments) (key : String) : Option Text :=
  Dictionary.get? arguments.values key

def valueOr (arguments : Arguments) (key spelling : String) : Text :=
  (arguments.value? key).getD spelling.toList

end Arguments

/-! ## Tokens -/

inductive Token
  | word (text : Text)
  | separator
  | option (spec : OptionSpec) (spelling : Text) (attached : Option Text)
  | unknownOption

def Grammar.spelled (grammar : Grammar) : List (OptionSpec × Text) :=
  grammar.options.flatMap fun spec => spec.spellings.map fun spelling => (spec, spelling.toList)

def Grammar.spelled? (grammar : Grammar) (text : Text) : Option OptionSpec :=
  (grammar.spelled.find? (·.2 == text)).map (·.1)

/-- Whether a text is a negative integer or decimal; a line break may follow it. -/
def isNegativeNumber : Text → Bool
  | '-' :: rest =>
    let body := if rest.getLast? = some '\n' then rest.dropLast else rest
    match Text.cutAt '.' body with
    | (digits, none) => !digits.isEmpty && digits.all Text.isDigit
    | (digits, some fraction) =>
      digits.all Text.isDigit && !fraction.isEmpty && fraction.all Text.isDigit
  | _ => false

def Grammar.candidates (grammar : Grammar) (text : Text) : List Token :=
  if "--".toList.isPrefixOf text then
    let (start, attached) := Text.cutAt '=' text
    grammar.spelled.filterMap fun (spec, spelling) =>
      if start.isPrefixOf spelling then some (.option spec spelling attached) else none
  else
    grammar.spelled.filterMap fun (spec, spelling) =>
      if spelling == text.take 2 then some (.option spec spelling (some (text.drop 2)))
      else if text.isPrefixOf spelling then some (.option spec spelling none)
      else none

def Grammar.token (grammar : Grammar) (text : Text) : Except Stop Token :=
  if text.head? ≠ some '-' then .ok (.word text)
  else match grammar.spelled? text with
    | some spec => .ok (.option spec text none)
    | none =>
      if text.length = 1 then .ok (.word text)
      else
        let (start, attached) := Text.cutAt '=' text
        match attached.bind fun value => (grammar.spelled? start).map fun spec => (spec, value) with
        | some (spec, value) => .ok (.option spec start (some value))
        | none =>
          match grammar.candidates text with
          | [found] => .ok found
          | _ :: _ :: _ => .error .misuse
          | [] =>
            if isNegativeNumber text || Text.holds text ' ' then .ok (.word text)
            else .ok .unknownOption

def Grammar.tokens (grammar : Grammar) : List Text → Except Stop (List (Token × Text))
  | [] => .ok []
  | text :: rest =>
    if text = "--".toList then
      .ok ((.separator, text) :: rest.map fun word => (.word word, word))
    else do return (← grammar.token text, text) :: (← grammar.tokens rest)

/-! ## Options -/

abbrev Setting := OptionSpec × Option Text

def Grammar.joined (grammar : Grammar) (spec : OptionSpec) (isShort : Bool) :
    Text → Except Stop (List Setting)
  | [] => .error .misuse
  | c :: rest =>
    if !isShort then .error .misuse
    else match grammar.spelled? ['-', c] with
      | none => .error .misuse
      | some next =>
        if next.takesValue then
          if rest.isEmpty then .error .misuse else .ok [(spec, none), (next, some rest)]
        else if rest.isEmpty then .ok [(spec, none), (next, none)]
        else do return (spec, none) :: (← grammar.joined next true rest)

def Grammar.settings (grammar : Grammar) (spec : OptionSpec) (spelling : Text)
    (attached : Option Text) (rest : List Token) : Except Stop (List Setting × List Token) :=
  match attached, spec.takesValue with
  | some value, true => .ok ([(spec, some value)], rest)
  | some text, false => do
    return (← grammar.joined spec (spelling[1]? != some '-') text, rest)
  | none, false => .ok ([(spec, none)], rest)
  | none, true =>
    match rest with
    | .word value :: rest => .ok ([(spec, some value)], rest)
    | _ => .error .misuse

/-- Puts a setting into the arguments. Help and the version end the reading. -/
def Arguments.put (arguments : Arguments) : Setting → Except Stop Arguments
  | (spec, some value) =>
    if spec.accepts value then
      .ok { arguments with values := Dictionary.set spec.key value arguments.values }
    else .error .misuse
  | (spec, none) =>
    if spec.key = "help" then .error .helpWanted
    else if spec.key = "version" then .error .versionWanted
    else .ok { arguments with flags := spec.key :: arguments.flags }

theorem Grammar.length_settings_le {grammar : Grammar} {spec : OptionSpec} {spelling : Text}
    {attached : Option Text} {rest after : List Token} {found : List Setting}
    (read : grammar.settings spec spelling attached rest = .ok (found, after)) :
    after.length ≤ rest.length := by
  unfold Grammar.settings at read
  split at read
  · simp only [Except.ok.injEq, Prod.mk.injEq] at read
    exact read.2 ▸ Nat.le_refl _
  · next text _ =>
    cases joined : grammar.joined spec (spelling[1]? != some '-') text with
    | error stop =>
      rw [joined] at read
      cases read
    | ok settings =>
      rw [joined] at read
      cases read
      exact Nat.le_refl _
  · simp only [Except.ok.injEq, Prod.mk.injEq] at read
    exact read.2 ▸ Nat.le_refl _
  · split at read
    · simp only [Except.ok.injEq, Prod.mk.injEq] at read
      rw [← read.2, List.length_cons]
      exact Nat.le_succ _
    · cases read

/-! ## Words -/

def dropSeparators : List Token → List Token
  | .separator :: rest => dropSeparators rest
  | tokens => tokens

def takeWord? (tokens : List Token) : Option (Text × List Token) :=
  match dropSeparators tokens with
  | .word text :: rest => some (text, dropSeparators rest)
  | _ => none

theorem length_dropSeparators_le (tokens : List Token) :
    (dropSeparators tokens).length ≤ tokens.length := by
  fun_induction dropSeparators tokens with
  | case1 rest induction => exact Nat.le_succ_of_le induction
  | case2 => exact Nat.le_refl _

theorem length_takeWord?_lt {tokens rest : List Token} {text : Text}
    (taken : takeWord? tokens = some (text, rest)) : rest.length < tokens.length := by
  unfold takeWord? at taken
  split at taken
  · next word inner found =>
    have whole := length_dropSeparators_le tokens
    have part := length_dropSeparators_le inner
    rw [found, List.length_cons] at whole
    simp only [Option.some.injEq, Prod.mk.injEq] at taken
    rw [← taken.2]
    omega
  · cases taken

/-! ## Reading -/

/-- Reads tokens. Words go to the words of the grammar in order; what is left over is unknown. -/
def Grammar.readTokens (grammar : Grammar) (words : List WordSpec) (tokens : List Token)
    (arguments : Arguments) : Except Stop Arguments :=
  match tokens with
  | [] => if words.isEmpty then .ok arguments else .error .misuse
  | .option spec spelling attached :: rest =>
    match _ : grammar.settings spec spelling attached rest with
    | .error stop => .error stop
    | .ok (settings, after) => do
      grammar.readTokens words after (← settings.foldlM Arguments.put arguments)
  | .unknownOption :: rest => grammar.readTokens words rest { arguments with hasUnknown := true }
  | head :: rest =>
    match words, _ : takeWord? (head :: rest) with
    | spec :: others, some (text, after) =>
      if spec.accepts text then
        grammar.readTokens others after
          { arguments with values := Dictionary.set spec.key text arguments.values }
      else .error .misuse
    | words, _ => grammar.readTokens words rest { arguments with hasUnknown := true }
termination_by tokens.length
decreasing_by
  · exact Nat.lt_succ_of_le (Grammar.length_settings_le (by assumption))
  · exact Nat.lt_succ_self _
  · exact length_takeWord?_lt (by assumption)
  · exact Nat.lt_succ_self _

/-- Reads all arguments by a grammar. Unknown ones are noted, and do not stop the reading. -/
def Grammar.read (grammar : Grammar) (texts : List Text) : Except Stop Arguments := do
  let tokens ← grammar.tokens texts
  grammar.readTokens grammar.words (tokens.map (·.1)) {}

end SymbolScript.CommandLine
