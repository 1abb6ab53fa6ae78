import SymbolScript.CommandLine.Command
import SymbolScript.Proofs.Decimal.Reading

/-!
Numerals among the arguments of a command. A numeral with a minus sign starts as options do, but it
is a word, since no option is spelled with a digit.
-/

namespace SymbolScript.CommandLine

open Decimal

/-! ## Tokens -/

section Token

variable {digits : Text} (plain : ∀ c ∈ digits, isPlainDigit c = true) (filled : digits ≠ [])

include plain filled in
theorem isNegativeNumber_of_digits : isNegativeNumber ('-' :: digits) = true := by
  have allDigits : digits.all Text.isDigit = true :=
    List.all_eq_true.mpr fun c member => isDigit_of_isPlainDigit (plain c member)
  have noBreak : digits.getLast? ≠ some '\n' := fun last =>
    absurd (plain '\n' (List.mem_of_getLast? last)) (by decide)
  have noPoint : '.' ∉ digits := fun member => absurd (plain '.' member) (by decide)
  rw [isNegativeNumber]
  simp only [if_neg noBreak, Text.cutAt_of_not_mem noPoint, allDigits, Bool.and_true,
    List.isEmpty_eq_false_iff.mpr filled, Bool.not_false]

def Grammar.HasNoDigits (grammar : Grammar) : Prop :=
  ∀ entry ∈ grammar.spelled, entry.2[1]?.any isPlainDigit = false

instance (grammar : Grammar) : Decidable grammar.HasNoDigits :=
  inferInstanceAs (Decidable (∀ entry ∈ grammar.spelled, entry.2[1]?.any isPlainDigit = false))

section Options

variable {grammar : Grammar} (noDigits : grammar.HasNoDigits) {first : Char}
  (digit : isPlainDigit first = true)

include noDigits digit

theorem Grammar.getElem?_spelled_ne {entry : OptionSpec × Text}
    (isSpelled : entry ∈ grammar.spelled) : entry.2[1]? ≠ some first := by
  intro inside
  have noDigit := noDigits entry isSpelled
  rw [inside, Option.any_some, digit] at noDigit
  cases noDigit

theorem Grammar.spelled?_of_digit (rest : Text) :
    grammar.spelled? ('-' :: first :: rest) = none := by
  rw [spelled?, Option.map_eq_none_iff, List.find?_eq_none]
  intro entry isSpelled equal
  exact getElem?_spelled_ne noDigits digit isSpelled (by rw [eq_of_beq equal]; rfl)

theorem Grammar.candidates_of_digit (rest : Text) :
    grammar.candidates ('-' :: first :: rest) = [] := by
  have short : "--".toList.isPrefixOf ('-' :: first :: rest) = false := by
    rw [Bool.eq_false_iff, Ne, List.isPrefixOf_iff_prefix]
    rintro ⟨more, equal⟩
    cases equal
    cases digit
  rw [candidates, short]
  simp only [Bool.false_eq_true, if_false]
  rw [List.filterMap_eq_nil_iff]
  rintro ⟨spec, spelling⟩ isSpelled
  have unlike : spelling[1]? ≠ some first := getElem?_spelled_ne noDigits digit isSpelled
  have notJoined : (spelling == ['-', first]) = false :=
    beq_false_of_ne fun equal => unlike (by rw [equal]; rfl)
  have notShort : ('-' :: first :: rest).isPrefixOf spelling = false := by
    rw [Bool.eq_false_iff, Ne, List.isPrefixOf_iff_prefix]
    rintro ⟨more, rfl⟩
    exact unlike rfl
  simp only [List.take_succ_cons, List.take_zero, notJoined, notShort, Bool.false_eq_true, if_false]

end Options

include plain filled in
theorem Grammar.token_of_digits {grammar : Grammar} (noDigits : grammar.HasNoDigits)
    (negative : Bool) :
    grammar.token (signText negative ++ digits) = .ok (.word (signText negative ++ digits)) := by
  rcases List.exists_cons_of_ne_nil filled with ⟨first, rest, equal⟩
  have digit := plain first (equal ▸ List.mem_cons_self)
  cases negative with
  | false =>
      have noHyphen : (signText false ++ digits).head? ≠ some '-' := by
        rw [equal]
        rintro hyphen
        cases hyphen
        cases digit
      rw [token, if_pos noHyphen]
  | true =>
      have negativeNumber := isNegativeNumber_of_digits plain filled
      have noValue : '=' ∉ '-' :: digits :=
        not_mem_of_isPointed (isPointed_digits plain true) (by decide)
      change grammar.token ('-' :: digits) = .ok (.word ('-' :: digits))
      rw [equal] at negativeNumber noValue ⊢
      simp [token, Grammar.spelled?_of_digit noDigits digit, Text.cutAt_of_not_mem noValue,
        Grammar.candidates_of_digit noDigits digit, negativeNumber]

end Token

/-! ## Commands -/

def formatName (format? : Option Action.NumberFormat) : Option Text :=
  format?.map fun format => format.spelling.toList

def formatArguments (format? : Option Action.NumberFormat) : List Text :=
  (format?.map fun format => ["--format".toList, format.spelling.toList]).getD []

def encodeArguments (value : Text) (format? : Option Action.NumberFormat) : List Text :=
  "number".toList :: "encode".toList :: value :: formatArguments format?

theorem hasNoDigits_frontGrammar : frontGrammar.HasNoDigits := by
  decide

theorem hasNoDigits_numberGrammar : numberGrammar.HasNoDigits := by
  decide

theorem Grammar.tokens_cons {grammar : Grammar} {text : Text} {token : Token} {rest : List Text}
    {tokens : List (Token × Text)} (noSeparator : text ≠ "--".toList)
    (first : grammar.token text = .ok token) (later : grammar.tokens rest = .ok tokens) :
    grammar.tokens (text :: rest) = .ok ((token, text) :: tokens) := by
  rw [Grammar.tokens, if_neg noSeparator, first, later]
  rfl

section Read

variable {value : Text} (noSeparator : value ≠ "--".toList)
  (word : numberGrammar.token value = .ok (.word value)) (format? : Option Action.NumberFormat)

include noSeparator word

theorem read_numberGrammar :
    numberGrammar.read ("encode".toList :: value :: formatArguments format?) = .ok {
      values := ("direction", "encode".toList) :: ("value", value) ::
        (format?.map fun format => ("format", format.spelling.toList)).toList } := by
  have rest : ∃ found, numberGrammar.tokens (formatArguments format?) = .ok found ∧
      numberGrammar.readTokens numberGrammar.words
        (.word "encode".toList :: .word value :: found.map (·.1)) {} = .ok {
          values := ("direction", "encode".toList) :: ("value", value) ::
            (format?.map fun format => ("format", format.spelling.toList)).toList } := by
    rcases format? with _ | _ | _ <;> exact ⟨_, rfl, by with_unfolding_all rfl⟩
  rcases rest with ⟨found, tokens, read⟩
  have all := Grammar.tokens_cons (by decide) (show numberGrammar.token "encode".toList = _ from rfl)
    (Grammar.tokens_cons noSeparator word tokens)
  rw [Grammar.read, all]
  exact read

theorem readCommand_encodeArguments (front : frontGrammar.token value = .ok (.word value)) :
    readCommand (encodeArguments value format?) =
      .ok (.encodeNumber value (formatName format?)) := by
  have rest : ∃ found, frontGrammar.tokens (formatArguments format?) = .ok found ∧
      found.map (·.2) = formatArguments format? := by
    rcases format? with _ | _ | _ <;> exact ⟨_, rfl, rfl⟩
  rcases rest with ⟨found, tokens, texts⟩
  have all := Grammar.tokens_cons (by decide) (show frontGrammar.token "number".toList = _ from rfl)
    (Grammar.tokens_cons (by decide) (show frontGrammar.token "encode".toList = _ from rfl)
      (Grammar.tokens_cons noSeparator front tokens))
  have read := read_numberGrammar noSeparator word format?
  have command : readCommand (encodeArguments value format?) =
      readNamed "number".toList ("encode".toList :: value :: found.map (·.2)) false := by
    rw [readCommand, encodeArguments, all]
    rfl
  have known : (commands.find? fun command => command.1.toList == "number".toList) =
      some ("number", numberGrammar, numberCommand) := rfl
  rw [command, texts, readNamed, known]
  dsimp only
  rw [read]
  rcases format? with _ | _ | _ <;> rfl

end Read

theorem readCommand_encode_digits {digits : Text} (plain : ∀ c ∈ digits, isPlainDigit c = true)
    (filled : digits ≠ []) (negative : Bool) (format? : Option Action.NumberFormat) :
    readCommand (encodeArguments (signText negative ++ digits) format?) =
      .ok (.encodeNumber (signText negative ++ digits) (formatName format?)) := by
  have noSeparator : signText negative ++ digits ≠ "--".toList := by
    rcases List.exists_cons_of_ne_nil filled with ⟨first, rest, rfl⟩
    have digit := plain first List.mem_cons_self
    cases negative <;> intro equal <;> cases equal <;> cases digit
  exact readCommand_encodeArguments noSeparator
    (Grammar.token_of_digits plain filled hasNoDigits_numberGrammar negative) format?
    (Grammar.token_of_digits plain filled hasNoDigits_frontGrammar negative)

end SymbolScript.CommandLine
