import SymbolScript.Proofs.Base64Number.Canonical

/-!
The first literal of a text is the one that is read, whatever stands around it. An opening in front
of it that is not completed, such as a lone number sign or digits without their closing bracket,
takes nothing away from it, because a literal holds a number sign at its front only.
-/

namespace SymbolScript.Base64Number

/-- Whether a complete literal stands somewhere in a text. -/
def HoldsLiteral (text : Text) : Prop :=
  ∃ digits, digits ≠ [] ∧ (∀ c ∈ digits, c ∈ alphabet) ∧ literal digits <:+: text

theorem holdsLiteral_of_take {left right digits rest : Text}
    (taken : takeLiteral? right = some (digits, rest)) : HoldsLiteral (left ++ right) := by
  rcases takeLiteral?_parts taken with ⟨rfl, inside⟩
  refine ⟨digits, takeLiteral?_filled taken, fun c member => isDigit_iff.mp (inside c member), ?_⟩
  exact ⟨left, rest, List.append_assoc _ _ _⟩

theorem first?_eq_none_iff_not_holds (text : Text) :
    literals.first? text = none ↔ ¬HoldsLiteral text := by
  rw [literals.first?_eq_none_iff]
  constructor
  · rintro missing ⟨digits, filled, inside, left, rest, rfl⟩
    have taken := takeLiteral?_of_digits filled
      (fun c member => isDigit_iff.mpr (inside c member)) rest
    have untaken := missing left (literal digits ++ rest) (List.append_assoc _ _ _)
    exact absurd (taken.symm.trans untaken) (by simp)
  · rintro absent left right rfl
    cases taken : takeLiteral? right with
    | none => exact taken
    | some found => exact absurd (holdsLiteral_of_take taken) absent

theorem sign_not_mem_tail {digits : Text} (inside : ∀ c ∈ digits, isDigit c = true) :
    '#' ∉ '⟨' :: digits ++ ['⟩'] := by
  have noDigit : isDigit '#' = false := by
    rw [isDigit_eq_false_iff, alphabet_eq]
    decide
  have absent : '#' ∉ digits := by
    intro member
    rw [inside '#' member] at noDigit
    cases noDigit
  simp [absent]

theorem takeLiteral?_in_front_of_sign {left right : Text} {c : Char}
    (absent : ¬HoldsLiteral (left ++ c :: right)) (after : Text) :
    takeLiteral? (c :: (right ++ '#' :: after)) = none := by
  cases taken : takeLiteral? (c :: (right ++ '#' :: after)) with
  | none => rfl
  | some found =>
      rcases found with ⟨digits, rest⟩
      rcases takeLiteral?_parts taken with ⟨whole, inside⟩
      have notInText : ∀ others, c :: right ≠ literal digits ++ others := by
        intro others equal
        refine absent (equal ▸ holdsLiteral_of_take (takeLiteral?_of_digits ?_ inside others))
        exact takeLiteral?_filled taken
      rw [← List.cons_append, List.append_eq_append_iff] at whole
      rcases whole with ⟨others, equal, next⟩ | ⟨others, equal, _⟩
      · cases others with
        | nil =>
            rw [List.append_nil] at equal
            exact absurd (by rw [equal, List.append_nil]) (notInText [])
        | cons d others =>
            -- The literal goes on behind the text, so it holds the number sign there.
            have isSign : '#' = d := (List.cons.inj next).1
            rw [literal, List.cons_append, List.cons_append, List.cons_append] at equal
            have tail := (List.cons.inj equal).2
            refine absurd ?_ (sign_not_mem_tail inside)
            rw [List.cons_append, tail, ← isSign]
            simp
      · exact absurd equal (notInText others)

theorem first?_of_literal {before digits : Text} (absent : ¬HoldsLiteral before)
    (filled : digits ≠ []) (inside : ∀ c ∈ digits, isDigit c = true) (after : Text) :
    literals.first? (before ++ (literal digits ++ after)) = some digits := by
  have signFirst : literal digits ++ after = '#' :: ('⟨' :: digits ++ ['⟩'] ++ after) := rfl
  rw [literals.first?_append_of_plain]
  · exact literals.first?_of_found (takeLiteral?_of_digits filled inside after)
  · rintro left c right rfl
    rw [signFirst]
    exact takeLiteral?_in_front_of_sign absent _

theorem exists_decodeLiteral {text : Text} (holds : HoldsLiteral text) :
    ∃ number : Nat, decodeLiteral text = .ok number := by
  cases first : literals.first? text with
  | none => exact absurd holds ((first?_eq_none_iff_not_holds text).mp first)
  | some digits =>
      rcases literals.exists_take_of_mem_all text (literals.first?_mem_all first) with
        ⟨rest, after, taken⟩
      have inside := (takeLiteral?_parts taken).2
      rcases exists_decode (takeLiteral?_filled taken)
        (fun c member => isDigit_iff.mp (inside c member)) with ⟨number, read, _⟩
      refine ⟨number, ?_⟩
      rw [decodeLiteral, first]
      exact read

theorem decodeLiteral_of_not_holds {text : Text} (absent : ¬HoldsLiteral text) :
    decodeLiteral text = .error (.number (.noBase64Literal text)) := by
  rw [decodeLiteral, (first?_eq_none_iff_not_holds text).mpr absent]

/-- The literal of a natural number is read back behind any text without a complete literal and in
front of any text, and reading fails exactly if there is no complete literal. -/
theorem decodeLiteral_first :
    (∀ (before : Text) (number : Nat) (after : Text), ¬HoldsLiteral before →
      ∃ shown, encodeLiteral number = .ok shown ∧
        decodeLiteral (before ++ shown ++ after) = .ok number) ∧
    ∀ text, ((∃ fault, decodeLiteral text = .error (.number fault)) ↔ ¬HoldsLiteral text) ∧
      (HoldsLiteral text → ∃ number : Nat, decodeLiteral text = .ok number) := by
  refine ⟨?_, fun text => ⟨⟨?_, ?_⟩, exists_decodeLiteral⟩⟩
  · intro before number after absent
    refine ⟨literal (ofNat number), encodeLiteral_of_natural (Int.natCast_nonneg number), ?_⟩
    have first := first?_of_literal absent (ofNat_ne_nil number)
      (fun _ member => isDigit_of_mem_ofNat member) after
    rw [List.append_assoc, decodeLiteral, first]
    exact decode_ofNat number
  · rintro ⟨fault, failed⟩ holds
    rcases exists_decodeLiteral holds with ⟨number, read⟩
    rw [read] at failed
    cases failed
  · exact fun absent => ⟨_, decodeLiteral_of_not_holds absent⟩

theorem decodeLiteral_first_behind_openings :
    ¬HoldsLiteral "#⟨⟩#⟨A-⟩#⟨ABC".toList ∧
      (∃ shown, encodeLiteral (1000 : Nat) = .ok shown ∧
        decodeLiteral ("#⟨⟩#⟨A-⟩#⟨ABC".toList ++ shown ++ "#⟨B⟩".toList) = .ok 1000) ∧
      HoldsLiteral (literal ['B']) ∧
      ∃ number : Nat, decodeLiteral (literal ['B']) = .ok number := by
  have openings : ¬HoldsLiteral "#⟨⟩#⟨A-⟩#⟨ABC".toList := by
    rw [← first?_eq_none_iff_not_holds]
    decide +kernel
  have complete : HoldsLiteral (literal ['B']) :=
    ⟨['B'], by decide, by decide, [], [], by decide⟩
  exact ⟨openings, decodeLiteral_first.1 _ 1000 _ openings, complete,
    (decodeLiteral_first.2 _).2 complete⟩

end SymbolScript.Base64Number
