import SymbolScript.CommandLine.Run
import SymbolScript.Proofs.Action.TokenCost
import SymbolScript.Proofs.Decimal.Numeral
import SymbolScript.Proofs.TokenCost
import SymbolScript.Proofs.Value

/-!
How the commands end that an action answers: with the answer printed, or with the reason why there
is none. Two things are left that no command is ready for, and then the failure is not the
command's own: a text that is no number where one is to be encoded, and a literal of an integer
that is too long to be written.
-/

namespace SymbolScript.CommandLine

open SymbolScript.Action

/-! ## Requests of commands -/

namespace Command

/-- The commands that an action answers without a vocabulary. -/
def IsAnswered : Command → Prop
  | encodeNumber _ _ | decodeNumber _ _ | expand _ _ | compress _ _ => True
  | tokens _ _ method _ => method = "ratio".toList
  | compile _ _ | report _ _ => False

/-- The request that a command makes. A text that is no number makes none. -/
def request? (input : Text) : Command → Option Request
  | encodeNumber value format => (readNumber value).toOption.map (encodeRequest · format)
  | decodeNumber literal format => some (decodeRequest literal format)
  | expand text mode => some (rewriteRequest "expand" (textOrInput input text) mode)
  | compress text mode => some (rewriteRequest "compress" (textOrInput input text) mode)
  | tokens text traditional method charactersPerToken =>
    some (costRequest (textOrInput input text) traditional method charactersPerToken)
  | compile _ _ | report _ _ => none

def shown : Command → Request → Except Failure Text
  | encodeNumber _ _ => fieldLine "literal"
  | decodeNumber _ _ => fieldLine "value"
  | expand _ _ | compress _ _ => fieldLine "text"
  | tokens _ _ _ _ => costLines
  | compile _ _ | report _ _ => fun _ => .ok []

/-- The format that a literal is read in. -/
def literalFormat? (literal : Text) (name? : Option Text) : Option NumberFormat :=
  match name?.filter fun name => !name.isEmpty with
  | none => some (NumberFormat.detect literal)
  | some name => NumberFormat.find? (.text name)

/-- What no command is ready for: a text that is no number where one is to be encoded, and a literal
of an integer beyond the digit limit. -/
inductive Overstrains : Command → Prop
  | noNumber {value : Text} {format : Option Text}
      (notWhole : ∀ number, Decimal.readInt value ≠ .ok number)
      (notReal : Decimal.readFloat? value = none) : Overstrains (encodeNumber value format)
  | longInteger {literal : Text} {name? : Option Text} {format : NumberFormat} {number : Int}
      (chosen : literalFormat? literal name? = some format)
      (decoded : decodeIn format literal = .ok (.whole number))
      (long : Decimal.isWritable number = false) : Overstrains (decodeNumber literal name?)

end Command

/-- How a run ends that answers a request: with what it prints of the answer, or with the reason why
there is none. -/
inductive Answers (store : Store) (input : Text) (command : Command) : Run → Prop
  | printed {request fields : Request} {text : Text} (asked : command.request? input = some request)
      (success : dispatch request = .success fields) (shown : command.shown fields = .ok text) :
      Answers store input command { ending := .finished 0 [], printed := text, store }
  | refused {request : Request} {message : Text} (asked : command.request? input = some request)
      (noSuccess : (dispatch request).isSuccess = false)
      (reason : (dispatch request).entries = [entry "error" (.text message)]) :
      Answers store input command
        { ending := .finished 1 (lines ["error: ".toList ++ message]), store }

/-! ## Answers that are printed -/

section Requests

variable {store : Store} {input : Text} {command : Command} {request : Request}

theorem answers_of_shown (asked : command.request? input = some request)
    (shown : AnswersWith (fun fields => ∃ text, command.shown fields = .ok text)
      (answerWith none request)) :
    Answers store input command (runRequest store request command.shown) := by
  rw [runRequest]
  cases answered : answerWith none request with
  | error cause =>
      have response := dispatch_of_error answered
      rw [response]
      exact .refused asked (by rw [response]; rfl) (by rw [response]; rfl)
  | ok reply =>
      cases reply with
      | refusal message =>
          have response := dispatch_of_refusal answered
          rw [response]
          exact .refused asked (by rw [response]; rfl) (by rw [response]; rfl)
      | fields entries =>
          have response := dispatch_of_fields answered
          rcases shown entries answered with ⟨text, printed⟩
          rw [response]
          dsimp only
          rw [printed]
          exact .printed asked response printed

theorem runRequest_of_unshown {fields : Request} {cause : Failure}
    {print : Request → Except Failure Text}
    (answered : answerWith none request = .ok (.fields fields))
    (unshown : print fields = .error cause) (foreign : cause.isOwn = false) :
    runRequest store request print = { ending := .failed cause, store } := by
  rw [runRequest, dispatch_of_fields answered]
  dsimp only
  rw [unshown, conclude, foreign]
  rfl

end Requests

/-! ## Texts and literals -/

section FieldLine

variable {fields : Request} {name : String} {value : Value}

theorem fieldLine_of_plain {text : Text} (found : fields.fieldOr name .null = value)
    (plain : value.plain = .ok text) : fieldLine name fields = .ok (lines [text]) := by
  rw [fieldLine, found, plain]
  rfl

theorem fieldLine_of_error {cause : Failure} (found : fields.fieldOr name .null = value)
    (unwritten : value.plain = .error cause) : fieldLine name fields = .error cause := by
  rw [fieldLine, found, unwritten]
  rfl

theorem fieldLine_of_text {text : Text} (found : fields.fieldOr name .null = .text text) :
    ∃ line, fieldLine name fields = .ok line :=
  ⟨_, fieldLine_of_plain found rfl⟩

end FieldLine

theorem answersWith_text_rewriteWith (modes : List Mode) (request : Request) :
    AnswersWith (fun fields => ∃ text, fieldLine "text" fields = .ok text)
      (rewriteWith modes request) :=
  answersWith_rewriteWith fun _ _ => fieldLine_of_text rfl

theorem answersWith_literal_encodeNumber (request : Request) :
    AnswersWith (fun fields => ∃ text, fieldLine "literal" fields = .ok text)
      (encodeNumber request) :=
  answersWith_encodeNumber fun _ _ literal => @fieldLine_of_text _ _ literal rfl

/-! ## Token costs -/

theorem plain_wholeOf_eq (number : Int) : (wholeOf number).plain = Decimal.write number := rfl

theorem plain_wholeOf {number : Int} (writable : Decimal.isWritable number = true) :
    (wholeOf number).plain = .ok (Decimal.ofInt number) := by
  rw [plain_wholeOf_eq, Decimal.write, if_pos writable]

theorem isWritable_of_isCost {ratio : Float} {value : Value} {length : Nat} {tokens : Int}
    (cost : IsCost (estimateValue ratio) value length tokens) :
    Decimal.isWritable length = true ∧ Decimal.isWritable tokens = true := by
  rcases exists_of_estimateValue cost.counted with ⟨same, found, estimated⟩
  cases cost.found.symm.trans found
  exact ⟨Decimal.isWritable_of_log2_le (TokenCost.log2_length_le estimated),
    Decimal.isWritable_of_log2_le (TokenCost.log2_natAbs_le estimated)⟩

theorem percentage_of_roundedReduction {before after : Int} {value : Value}
    (rounded : roundedReduction before after = .ok value) :
    ∃ text, percentage value = .ok text := by
  rcases exists_of_roundedReduction rounded with ⟨percent, _, rfl⟩
  exact ⟨_, rfl⟩

theorem exists_costLines {fields : Request} {length tokens : Int} {method : Text}
    (chars : fields.fieldOr "chars" .null = wholeOf length)
    (counted : fields.fieldOr "tokens" .null = wholeOf tokens)
    (named : fields.fieldOr "method" .null = .text method)
    (writable : Decimal.isWritable length = true ∧ Decimal.isWritable tokens = true)
    (compared : fields.field? "traditional_tokens" = none ∨
      ∃ (otherLength otherTokens : Int) (lengthShown tokensShown : Text),
        fields.field? "traditional_tokens" = some (wholeOf otherTokens) ∧
        fields.fieldOr "traditional_chars" .null = wholeOf otherLength ∧
        (Decimal.isWritable otherLength = true ∧ Decimal.isWritable otherTokens = true) ∧
        percentage (fields.fieldOr "char_reduction" .null) = .ok lengthShown ∧
        percentage (fields.fieldOr "token_reduction" .null) = .ok tokensShown) :
    ∃ text, costLines fields = .ok text := by
  have methodPlain : (Value.text method).plain = .ok method := rfl
  rcases compared with none | ⟨otherLength, otherTokens, lengthShown, tokensShown, other,
    otherChars, otherWritable, lengthPercent, tokensPercent⟩
  · simp only [costLines, chars, counted, named, plain_wholeOf writable.1,
      plain_wholeOf writable.2, methodPlain, none, bind, Except.bind, pure, Except.pure,
      Except.ok.injEq, exists_eq']
  · simp only [costLines, chars, counted, named, plain_wholeOf writable.1,
      plain_wholeOf writable.2, methodPlain, other, otherChars, plain_wholeOf otherWritable.1,
      plain_wholeOf otherWritable.2, lengthPercent, tokensPercent, bind, Except.bind, pure,
      Except.pure, Except.ok.injEq, exists_eq']

theorem answersWith_costLines_costByRatio (request : Request) (method : Text) (source : Value) :
    AnswersWith (fun fields => ∃ text, costLines fields = .ok text)
      (costByRatio request (.text method) source) := by
  refine answersWith_costByRatio fun ratio => answersWith_costBy ?_ ?_
  · intro length tokens cost
    exact exists_costLines rfl rfl rfl (isWritable_of_isCost cost) (.inl rfl)
  · intro length tokens traditional otherLength otherTokens lengthReduction tokenReduction cost _
      otherCost lengthReduced tokensReduced
    rcases percentage_of_roundedReduction lengthReduced with ⟨lengthShown, lengthPercent⟩
    rcases percentage_of_roundedReduction tokensReduced with ⟨tokensShown, tokensPercent⟩
    exact exists_costLines rfl rfl rfl (isWritable_of_isCost cost) (.inr ⟨otherLength, otherTokens,
      lengthShown, tokensShown, rfl, rfl, isWritable_of_isCost otherCost, lengthPercent,
      tokensPercent⟩)

/-! ## Decoding -/

theorem decodeNumber_decodeRequest {literal : Text} (filled : literal ≠ []) (name? : Option Text) :
    decodeNumber (decodeRequest literal name?) =
      match Command.literalFormat? literal name? with
      | none => .error (.number (.unknownFormat (Text.quoted (name?.getD []))))
      | some format => do
        let number ← decodeIn format literal
        return .fields [entry "format" (textOf format.spelling), entry "literal" (.text literal),
          entry "value" (← answerNumber number)] := by
  have given : (decodeRequest literal name?).fieldOr "literal" .null = .text literal := rfl
  have named : (decodeRequest literal name?).fieldOr "format" .null =
      (name?.map Value.text).getD .null := by
    cases name? <;> rfl
  have isTrue : (Value.text literal).isTrue = true := by
    simpa [Value.isTrue] using filled
  rw [decodeNumber, given, named, Command.literalFormat?]
  simp only [isTrue]
  cases name? with
  | none => rfl
  | some name =>
      cases name with
      | nil => rfl
      | cons c rest =>
          have filled : Value.isTrue (.text (c :: rest)) = true := rfl
          have kept : (some (c :: rest)).filter (fun name => !name.isEmpty) =
            some (c :: rest) := rfl
          simp only [Option.map_some, Option.getD_some, filled, kept]
          cases NumberFormat.find? (.text (c :: rest)) <;> rfl

theorem decodeIn_nil (format : NumberFormat) (number : Number) :
    decodeIn format [] ≠ .ok number := by
  cases format <;> intro decoded <;> cases decoded

theorem answersWith_value_decodeNumber {literal : Text} {name? : Option Text}
    (ready : ¬(Command.decodeNumber literal name?).Overstrains) :
    AnswersWith (fun fields => ∃ text, fieldLine "value" fields = .ok text)
      (decodeNumber (decodeRequest literal name?)) := by
  by_cases empty : literal = []
  · subst empty
    exact .refusal _
  rw [decodeNumber_decodeRequest empty]
  cases chosen : Command.literalFormat? literal name? with
  | none => exact .error _
  | some format =>
      refine .bind fun number decoded => .bind fun value answered =>
        (AnswersWith.fields_iff _).mpr ?_
      rcases answerNumber_cases answered with ⟨text, rfl⟩ | ⟨rfl, _⟩
      · exact fieldLine_of_text rfl
      · cases number with
        | whole number =>
            have writable : Decimal.isWritable number = true := by
              by_contra long
              exact ready (.longInteger chosen decoded (Bool.eq_false_iff.mpr long))
            exact ⟨_, fieldLine_of_plain rfl (plain_wholeOf writable)⟩
        | real x => exact ⟨_, fieldLine_of_plain rfl rfl⟩

/-! ## Encoding -/

theorem readNumber_cases (value : Text) :
    (∃ number, readNumber value = .ok number) ∨
      (∀ number, Decimal.readInt value ≠ .ok number) ∧ Decimal.readFloat? value = none := by
  unfold readNumber Decimal.readFloat
  cases Decimal.readInt value with
  | ok number => exact .inl ⟨.whole number, rfl⟩
  | error cause =>
      cases Decimal.readFloat? value with
      | some x => exact .inl ⟨.real x, rfl⟩
      | none =>
          refine .inr ⟨fun number read => ?_, rfl⟩
          cases read

theorem readNumber_of_unreadable {value : Text}
    (notWhole : ∀ number, Decimal.readInt value ≠ .ok number)
    (notReal : Decimal.readFloat? value = none) :
    readNumber value = .error (.value (.notADecimal value)) := by
  unfold readNumber Decimal.readFloat
  cases read : Decimal.readInt value with
  | ok number => exact absurd read (notWhole number)
  | error cause =>
      rw [notReal]
      rfl

/-! ## Runs -/

theorem runCommand_of_request {input : Text} {command : Command} {request : Request}
    (asked : command.request? input = some request) (store : Store) :
    runCommand store input command = runRequest store request command.shown := by
  cases command with
  | encodeNumber value format =>
      rcases Option.map_eq_some_iff.mp asked with ⟨number, read, rfl⟩
      rw [runCommand, runEncode]
      cases found : readNumber value with
      | error cause => simp [found, Except.toOption] at read
      | ok other =>
          rw [found] at read
          cases read
          rfl
  | decodeNumber literal format => cases asked; rfl
  | expand text mode => cases asked; rfl
  | compress text mode => cases asked; rfl
  | tokens text traditional method charactersPerToken => cases asked; rfl
  | compile path options => cases asked
  | report topic picture => cases asked

theorem exists_request_of_ready {input : Text} {command : Command} (answered : command.IsAnswered)
    (ready : ¬command.Overstrains) : ∃ request, command.request? input = some request := by
  cases command with
  | encodeNumber value format =>
      rw [Command.request?]
      rcases readNumber_cases value with ⟨number, read⟩ | ⟨notWhole, notReal⟩
      · rw [read]
        exact ⟨_, rfl⟩
      · exact absurd (.noNumber notWhole notReal) ready
  | decodeNumber literal format => exact ⟨_, rfl⟩
  | expand text mode => exact ⟨_, rfl⟩
  | compress text mode => exact ⟨_, rfl⟩
  | tokens text traditional method charactersPerToken => exact ⟨_, rfl⟩
  | compile path options => exact answered.elim
  | report topic picture => exact answered.elim

theorem answersWith_shown {input : Text} {command : Command} {request : Request}
    (answered : command.IsAnswered) (ready : ¬command.Overstrains)
    (asked : command.request? input = some request) :
    AnswersWith (fun fields => ∃ text, command.shown fields = .ok text)
      (answerWith none request) := by
  cases command with
  | encodeNumber value format =>
      rcases Option.map_eq_some_iff.mp asked with ⟨number, read, rfl⟩
      exact answersWith_literal_encodeNumber (encodeRequest number format)
  | decodeNumber literal format =>
      cases asked
      exact answersWith_value_decodeNumber ready
  | expand text mode =>
      cases asked
      exact answersWith_text_rewriteWith Mode.expanding (rewriteRequest "expand" _ mode)
  | compress text mode =>
      cases asked
      exact answersWith_text_rewriteWith Mode.compressing (rewriteRequest "compress" _ mode)
  | tokens text traditional method charactersPerToken =>
      cases asked
      cases answered
      exact answersWith_costLines_costByRatio _ _ _
  | compile path options => cases asked
  | report topic picture => cases asked

/-- A command that an action answers ends with the answer or with the reason why there is none,
exactly if it is ready for what it is given. -/
theorem run_of_readCommand {arguments : List Text} {command : Command}
    (read : readCommand arguments = .ok command) (answered : command.IsAnswered) (input : Text)
    (store : Store) :
    (¬command.Overstrains → Answers store input command (run arguments input store)) ∧
      (command.Overstrains →
        ∃ cause, run arguments input store = { ending := .failed cause, store }) := by
  rw [run, read]
  constructor
  · intro ready
    rcases exists_request_of_ready answered ready with ⟨request, asked⟩
    dsimp only
    rw [runCommand_of_request asked]
    exact answers_of_shown asked (answersWith_shown answered ready asked)
  · intro overstrains
    cases overstrains with
    | @noNumber value format notWhole notReal =>
        refine ⟨.value (.notADecimal value), ?_⟩
        dsimp only [runCommand, runEncode]
        rw [readNumber_of_unreadable notWhole notReal]
    | @longInteger literal name? format number chosen decoded long =>
        have filled : literal ≠ [] := by
          rintro rfl
          exact decodeIn_nil format _ decoded
        have response := decodeNumber_decodeRequest filled name?
        simp only [chosen, decoded] at response
        have unwritten : (wholeOf number).plain = .error (.value .tooManyDigitsToWrite) := by
          rw [plain_wholeOf_eq, Decimal.write, long]
          rfl
        exact ⟨_, runRequest_of_unshown response (fieldLine_of_error rfl unwritten) rfl⟩

def estimateArguments : List Text :=
  ["tokens", "-", "--traditional", "const", "--method=ratio"].map String.toList

def estimateCommand : Command :=
  .tokens ['-'] (some "const".toList) "ratio".toList ((Decimal.readFloat? "4".toList).getD 4)

theorem run_of_readCommand_estimate :
    readCommand estimateArguments = .ok estimateCommand ∧ estimateCommand.IsAnswered ∧
      ¬estimateCommand.Overstrains ∧
      Answers {} "⊗αβ".toList estimateCommand (run estimateArguments "⊗αβ".toList {}) := by
  have read : readCommand estimateArguments = .ok estimateCommand := by with_unfolding_all rfl
  have ready : ¬estimateCommand.Overstrains := by
    rw [estimateCommand]
    intro overstrains
    cases overstrains
  exact ⟨read, rfl, ready, (run_of_readCommand read rfl _ _).1 ready⟩

/-- A text that is no number ends the run of a command that encodes it. -/
theorem run_encode_noNumber :
    (run (["number", "encode", "abc"].map String.toList) [] {}).ending =
      .failed (.value (.notADecimal "abc".toList)) := by
  decide +kernel

end SymbolScript.CommandLine
