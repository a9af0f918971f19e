import Formula.Proofs.GrammarBlame

/-! Where the text of a number is at fault. Only one rule looks at it, and it refuses it
only if no number can be read from it. The other rules fail for reasons of their own, or
hand on the errors of their parts. -/

namespace Formula

/-- If the text of a number is said to be at fault, then it is that of the token blamed. -/
def ParseError.IsJudged (error : ParseError) : Prop :=
  error.reason = .numeralInvalid →
    ∃ token, error.found = some token ∧ token.kind = .number ∧ Binary64.read? token.text = none

namespace Rule

def FailsWith (such : ParseError → Prop) (rule : Rule α) : Prop := ∀ s error, rule.Fails s error → such error

variable {such : ParseError → Prop} {rule : Rule α}

private theorem failsWith_expect {kind : Kind} {reason : Reason}
    (all : ∀ found, such ⟨reason, found, some kind⟩) :
    (expect kind reason).FailsWith such := by
  intro s error fails
  obtain ⟨-, rfl⟩ := expect_fails_iff.mp fails
  exact all s.current

private theorem failsWith_fail {reason : Reason} (all : ∀ found, such ⟨reason, found, none⟩) :
    (fail reason : Rule α).FailsWith such := by
  intro s error fails
  obtain rfl := fail_fails_iff.mp fails
  exact all s.current

theorem FailsWith.map (fails : rule.FailsWith such) (f : α → β) : (rule.map f).FailsWith such := by
  intro s error failed
  exact fails s error (map_fails_iff.mp failed)

theorem FailsWith.deeper (fails : rule.FailsWith such) : rule.deeper.FailsWith such := by
  intro s error failed
  exact fails _ error (deeper_fails_iff.mp failed)

theorem FailsWith.andThen {next : α → Rule β} (fails : rule.FailsWith such)
    (later : ∀ meaning, (next meaning).FailsWith such) : (rule.andThen next).FailsWith such := by
  intro s error failed
  rcases andThen_fails_iff.mp failed with first | ⟨meaning, middle, -, second⟩
  · exact fails s error first
  · exact later meaning middle error second

private theorem foldOnto_failsWith {operand : Rule Expr} {level : Operator → Bool}
    (fails : operand.FailsWith such)
    {left : Expr} {s : State} {error : ParseError} (failed : (foldOnto operand level left s).1 = .error error) :
    such error := by
  fun_induction foldOnto operand level left s with
  | case1 left s ended => cases failed
  | case2 left s op next right middle ran ih => exact ih failed
  | case3 left s op next other middle ran =>
    obtain rfl := Except.error.inj failed
    exact fails s.advance other (congrArg Prod.fst ran)

theorem FailsWith.chain {operand : Rule Expr} (fails : operand.FailsWith such) (level : Operator → Bool) :
    (chain operand level).FailsWith such := by
  intro s error failed
  rcases chain_fails_iff.mp failed with first | ⟨left, middle, -, folds⟩
  · exact fails s error first
  · exact foldOnto_failsWith fails folds

end Rule

open Rule

namespace Grammar

variable {rule : Rule Expr}

theorem judged_expect (kind : Kind) {reason : Reason} (other : reason ≠ .numeralInvalid) :
    (expect kind reason).FailsWith ParseError.IsJudged :=
  failsWith_expect fun _ same => absurd same other

theorem judged_fail {reason : Reason} (other : reason ≠ .numeralInvalid) :
    (fail reason : Rule α).FailsWith ParseError.IsJudged :=
  failsWith_fail fun _ same => absurd same other

private theorem judged_numeral : numeral.FailsWith ParseError.IsJudged := by
  intro s error failed
  rcases refine_fails_iff.mp failed with noNumber | ⟨token, after, reads, refused⟩
  · exact judged_expect .number (by decide) s error noNumber
  · obtain ⟨-, isNumber⟩ := expect_reads_iff.mp reads
    cases value : Binary64.read? token.text with
    | some value => simp [value] at refused
    | none =>
      rw [value] at refused
      obtain rfl := Except.error.inj refused
      exact fun _ => ⟨token, rfl, isNumber, value⟩

private theorem judged_primary (judged : rule.FailsWith ParseError.IsJudged) :
    (primary rule).FailsWith ParseError.IsJudged := by
  intro s error failed
  simp only [primary, choose_fails_iff] at failed
  split at failed
  · exact judged_numeral s error failed
  · exact (judged_expect .identifier (by decide)).map _ s error failed
  · exact judged_fail (by decide) s error failed
  · exact judged s error failed
  · exact judged_fail (by decide) s error failed

theorem judged_additive (judged : rule.FailsWith ParseError.IsJudged) :
    (additive rule).FailsWith ParseError.IsJudged :=
  ((judged_primary judged).chain Operator.isMultiplicative).chain Operator.isAdditive

private theorem judged_binding (judged : rule.FailsWith ParseError.IsJudged) :
    (binding rule).FailsWith ParseError.IsJudged :=
  (judged_expect .identifier (by decide)).andThen fun _ =>
    (judged_expect .equals (by decide)).andThen fun _ => (judged_additive judged).map _

theorem judged_statement (judged : rule.FailsWith ParseError.IsJudged) :
    (statement rule).FailsWith ParseError.IsJudged := by
  have binds := judged_binding judged
  have word : keyword.FailsWith ParseError.IsJudged := (judged_expect .const (by decide)).map _
  intro s error failed
  simp only [statement, choose_fails_iff] at failed
  split at failed
  · exact word.andThen (fun _ => binds.map _) s error failed
  · exact binds.map _ s error failed
  · exact judged_additive judged s error failed

private theorem judged_group (room : Nat) : (group room).FailsWith ParseError.IsJudged := by
  induction room with
  | zero => exact judged_fail (by decide)
  | succ room ih =>
    apply (judged_expect .openParen (by decide)).andThen
    intro opening
    apply (judged_statement ih).deeper.andThen
    intro expr
    exact (judged_expect .closeParen (by decide)).map _

end Grammar

theorem isJudged_of_failed {limit : Nat} {tokens : List Token} {error : ParseError}
    (failed : parseWithin limit tokens = .error error) : error.IsJudged := by
  obtain ⟨-, after, -, -, -, fails⟩ :=
    Grammar.statement_of_failure (Nat.sub_zero limit) (parseWithin_eq_error_iff.mp failed)
  exact Grammar.judged_statement (Grammar.judged_group limit) after error fails

end Formula
