import Formula.Proofs.NestingBalance

/-! The errors there are. Each says something about the tokens in front of the one that
it blames, and has a set of tokens that would be blamed in the same place. -/

namespace Formula

def Reason.ofOperand (found : Option Token) : Reason :=
  match (found.getD .endOfInput).kind with
  | .number => .numeralInvalid
  | .const => .keywordMisplaced
  | .openParen => .nestedTooDeeply
  | _ => .unexpected

def Reason.subject : Reason → Option Kind
  | numeralInvalid => some .number
  | keywordMisplaced => some .const
  | nestedTooDeeply => some .openParen
  | _ => none

/-- Behind a token of these kinds a phrase is not complete. -/
def Kind.leadsOn : Kind → Bool
  | .binaryOperator | .equals | .openParen | .const => true
  | _ => false

/-- The tokens close no group from before them, and a phrase goes on behind them. -/
structure LeadsOn (lead : List Token) : Prop where
  level : 0 ≤ balance lead
  last : ∀ sign ∈ lead.getLast?, sign.kind.leadsOn = true

/-- An error, and the front of the phrase that it ends. -/
inductive Diagnosis : List Token → ParseError → Prop where
  | first {found : Option Token} : Diagnosis [] ⟨.ofOperand found, found, none⟩
  | operand {lead : List Token} {sign : Token} {found : Option Token} (leadsOn : sign.kind.leadsOn = true) :
      Diagnosis (lead ++ [sign]) ⟨.ofOperand found, found, none⟩
  | name {lead : List Token} {word : Token} {found : Option Token} (isConst : word.kind = .const) :
      Diagnosis (lead ++ [word]) ⟨.nameMissing, found, some .identifier⟩
  | equals {lead : List Token} {name : Token} {found : Option Token} (isName : name.kind = .identifier) :
      Diagnosis (lead ++ [name]) ⟨.equalsMissing, found, some .equals⟩
  | closing {front : List Token} {found : Option Token} (isOpen : 0 < balance front) :
      Diagnosis front ⟨.groupUnclosed, found, some .closeParen⟩

/-- The error is the same, but for the token that it names, when `next` comes instead. An
operator closes no group either, but it goes on with what is inside. -/
def ParseError.Recurs (error : ParseError) (next : Option Token) : Prop :=
  match error.expected with
  | none => next = error.found
  | some kind => ∀ token ∈ next, token.kind ≠ kind ∧ (kind = .closeParen → token.operator? = none)

theorem ParseError.recurs_iff {error : ParseError} {kind : Kind} (expected : error.expected = some kind)
    {next : Option Token} :
    error.Recurs next ↔ ∀ token ∈ next, token.kind ≠ kind ∧ (kind = .closeParen → token.operator? = none) := by
  rw [Recurs, expected]

/-- Apart from the wordings that a caller brings along no two reasons read the same. -/
theorem Reason.message_injective {reason reason' : Reason} (own : ∀ text, reason ≠ .stated text)
    (own' : ∀ text, reason' ≠ .stated text) (same : reason.message = reason'.message) : reason = reason' := by
  cases reason with
  | stated text => exact absurd rfl (own text)
  | _ =>
    cases reason' with
    | stated text => exact absurd rfl (own' text)
    | _ => first | rfl | exact absurd same (by decide)

private theorem Reason.ofOperand_ne_stated {found : Option Token} (text : String) :
    Reason.ofOperand found ≠ .stated text := by
  unfold ofOperand
  split <;> nofun

theorem Reason.exists_of_subject_ofOperand {found : Option Token} {kind : Kind}
    (about : (Reason.ofOperand found).subject = some kind) : ∃ token, found = some token ∧ token.kind = kind := by
  cases found with
  | none => cases about
  | some token =>
    refine ⟨token, rfl, ?_⟩
    rw [ofOperand, Option.getD_some] at about
    cases same : token.kind <;> simp_all [subject]

theorem LeadsOn.nil : LeadsOn [] := ⟨Int.le_refl _, nofun⟩

theorem LeadsOn.append_sign {lead : List Token} {sign : Token} (level : 0 ≤ balance (lead ++ [sign]))
    (leadsOn : sign.kind.leadsOn = true) : LeadsOn (lead ++ [sign]) := by
  refine ⟨level, fun last isLast => ?_⟩
  rw [List.getLast?_concat, Option.mem_some_iff] at isLast
  exact isLast ▸ leadsOn

namespace Diagnosis

variable {lead front back rest : List Token} {error : ParseError}

theorem behind (diagnosis : Diagnosis front error) (leadsOn : LeadsOn lead) : Diagnosis (lead ++ front) error := by
  cases diagnosis with
  | first =>
    rw [List.append_nil]
    rcases List.eq_nil_or_concat lead with rfl | ⟨before, sign, rfl⟩
    · exact .first
    · rw [List.concat_eq_append] at leadsOn ⊢
      exact .operand (leadsOn.last sign (by simp))
  | operand further => exact List.append_assoc .. ▸ .operand further
  | name isConst => exact List.append_assoc .. ▸ .name isConst
  | equals isName => exact List.append_assoc .. ▸ .equals isName
  | closing isOpen =>
    have level := leadsOn.level
    refine .closing ?_
    rw [balance_append]
    omega

theorem ne_nil (diagnosis : Diagnosis front error) {kind : Kind} (expected : error.expected = some kind) :
    front ≠ [] := by
  cases diagnosis with
  | first | operand => cases expected
  | name | equals => exact List.concat_ne_nil _ _
  | closing isOpen =>
    rintro rfl
    cases isOpen

theorem head?_eq (diagnosis : Diagnosis front error) (found : error.found = back.head?)
    (recurs : error.Recurs rest.head?) : (front ++ rest).head? = (front ++ back).head? := by
  cases front with
  | cons token front => rfl
  | nil =>
    cases missing : error.expected with
    | some kind => exact absurd rfl (diagnosis.ne_nil missing)
    | none =>
      rw [ParseError.Recurs, missing] at recurs
      exact recurs.trans found

theorem expected_cases (diagnosis : Diagnosis front error) {kind : Kind} (expected : error.expected = some kind) :
    kind = .identifier ∨ kind = .equals ∨ kind = .closeParen := by
  cases diagnosis with
  | first | operand => cases expected
  | name | equals | closing =>
    obtain rfl := Option.some.inj expected
    decide

/-- Where no kind is expected an operand is, and the token there says why it is none. -/
theorem reason_eq (diagnosis : Diagnosis front error) (expected : error.expected = none) :
    error.reason = .ofOperand error.found := by
  cases diagnosis with
  | first | operand => rfl
  | name | equals | closing => cases expected

theorem exists_keyword (diagnosis : Diagnosis front error) (expected : error.expected = some .identifier) :
    ∃ lead word, front = lead ++ [word] ∧ word.kind = .const := by
  cases diagnosis with
  | name isConst => exact ⟨_, _, rfl, isConst⟩
  | first | operand | equals | closing => cases expected

theorem exists_name (diagnosis : Diagnosis front error) (expected : error.expected = some .equals) :
    ∃ lead name, front = lead ++ [name] ∧ name.kind = .identifier := by
  cases diagnosis with
  | equals isName => exact ⟨_, _, rfl, isName⟩
  | first | operand | name | closing => cases expected

theorem balance_pos (diagnosis : Diagnosis front error) (expected : error.expected = some .closeParen) :
    0 < balance front := by
  cases diagnosis with
  | closing isOpen => exact isOpen
  | first | operand | name | equals => cases expected

theorem ne_stated (diagnosis : Diagnosis front error) (text : String) : error.reason ≠ .stated text := by
  cases diagnosis with
  | first | operand => exact Reason.ofOperand_ne_stated text
  | name | equals | closing => nofun

private theorem exists_subject (diagnosis : Diagnosis front error) {kind : Kind}
    (about : error.reason.subject = some kind) : ∃ token, error.found = some token ∧ token.kind = kind := by
  cases diagnosis with
  | first | operand => exact Reason.exists_of_subject_ofOperand about
  | name | equals | closing => cases about

theorem exists_of_message (diagnosis : Diagnosis front error) (reason : Reason) {kind : Kind}
    (about : reason.subject = some kind) (said : error.reason.message = reason.message) :
    ∃ token, error.found = some token ∧ token.kind = kind := by
  have own : ∀ text, reason ≠ .stated text := by
    rintro text rfl
    cases about
  have same := Reason.message_injective diagnosis.ne_stated own said
  exact diagnosis.exists_subject (same ▸ about)

end Diagnosis
end Formula
