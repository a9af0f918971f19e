import Formula.Proofs.NestingLimit

/-! What an error says can be relied on. A kind that it expects is missing where it says,
would do there and, unless a group is to be closed, nothing else would. What its message
says of the tokens in front of that place, or of the one that stands there, is so. -/

namespace Formula

/-- What the error says about the tokens, of which it blames the one at `i`, is so. -/
structure Truthful (tokens : List Token) (error : ParseError) (i : Nat) : Prop where
  kinds : ∀ kind, error.expected = some kind → kind = .identifier ∨ kind = .equals ∨ kind = .closeParen
  missing : ∀ kind, error.expected = some kind → ∀ token, tokens[i]? = some token → token.kind ≠ kind
  welcome : ∀ kind, error.expected = some kind → ∀ token, token.kind = kind →
    ∃ more program, parseTokens (tokens.take i ++ [token] ++ more) = .ok program
  only : ∀ kind, error.expected = some kind → kind ≠ .closeParen → ∀ token, token.kind ≠ kind →
    ∀ more program, parseTokens (tokens.take i ++ [token] ++ more) ≠ .ok program
  behindKeyword : error.expected = some .identifier →
    ∃ j word, i = j + 1 ∧ tokens[j]? = some word ∧ word.kind = .const
  behindName : error.expected = some .equals →
    ∃ j name, i = j + 1 ∧ tokens[j]? = some name ∧ name.kind = .identifier
  insideGroup : error.expected = some .closeParen →
    (tokens.take i).countP (·.kind = .closeParen) < (tokens.take i).countP (·.kind = .openParen)
  operand : error.expected = none → error.reason = .ofOperand tokens[i]?
  keyword : error.reason.message = "Keyword const can only begin a declaration" →
    ∃ token, tokens[i]? = some token ∧ token.kind = .const
  tooDeep : error.reason.message = "Expression nested too deeply" →
    ∃ token, tokens[i]? = some token ∧ token.kind = .openParen
  numeral : error.reason.message = "Expected a valid numeric literal" →
    ∃ token, tokens[i]? = some token ∧ token.kind = .number

namespace Breakdown

variable {tokens : List Token} {error : ParseError} {limit : Nat}

theorem getElem?_last (parts : Breakdown limit tokens error) {lead : List Token} {last : Token}
    (front : parts.front = lead ++ [last]) :
    ∃ j, parts.before.length = j + 1 ∧ tokens[j]? = some last := by
  obtain ⟨start, whole⟩ : ∃ start, parts.before = start ++ [last] :=
    ⟨parts.statements.flatMap (Phrases.statement (.group limit)).tokens ++ lead, by
      rw [before, front, List.append_assoc]⟩
  refine ⟨start.length, by rw [whole, List.length_append, List.length_singleton], ?_⟩
  calc
    _ = (parts.before ++ parts.back)[start.length]? := congrArg (·[start.length]?) parts.tokens_eq
    _ = some last := by simp [whole]

private theorem balance_before (parts : Breakdown limit tokens error) :
    balance parts.before = balance parts.front := by
  have closed : Closed limit (parts.statements.flatMap (Phrases.statement (.group limit)).tokens) :=
    .flatMap fun d _ => Phrases.nests_statement (Phrases.nests_group limit) d
  rw [before, balance_append, closed.level, Int.zero_add]

theorem truthful (parts : Breakdown Grammar.maxDepth tokens error) :
    Truthful tokens error parts.before.length where
  kinds kind := parts.blame.diagnosis.expected_cases
  missing kind expected token here := by
    rw [parts.getElem?_before] at here
    exact ((ParseError.recurs_iff expected).mp parts.blame.recurs token here).1
  welcome kind expected token isKind := by
    have completed := parts.viable (parts.blame.welcome token (isKind ▸ expected))
    rw [← List.append_assoc] at completed
    rw [parts.take_before]
    exact completed
  only kind expected noClosing token other more program accepted := by
    have again : error.Recurs (token :: more).head? := by
      refine (ParseError.recurs_iff expected).mpr fun next first => ?_
      obtain rfl := Option.some.inj first
      exact ⟨other, fun closing => absurd closing noClosing⟩
    have failed := parts.fails again
    rw [parts.take_before, List.append_assoc] at accepted
    cases failed.symm.trans accepted
  behindKeyword expected := by
    obtain ⟨lead, word, front, isConst⟩ := parts.blame.diagnosis.exists_keyword expected
    obtain ⟨j, place, here⟩ := parts.getElem?_last front
    exact ⟨j, word, place, here, isConst⟩
  behindName expected := by
    obtain ⟨lead, name, front, isName⟩ := parts.blame.diagnosis.exists_name expected
    obtain ⟨j, place, here⟩ := parts.getElem?_last front
    exact ⟨j, name, place, here, isName⟩
  insideGroup expected := by
    have isOpen := parts.blame.diagnosis.balance_pos expected
    rw [← parts.balance_before, balance_eq_count] at isOpen
    rw [parts.take_before]
    omega
  operand expected := by
    rw [parts.getElem?_before]
    exact parts.blame.diagnosis.reason_eq expected
  keyword said := by
    rw [parts.getElem?_before]
    exact parts.blame.diagnosis.exists_of_message .keywordMisplaced rfl said
  tooDeep said := by
    rw [parts.getElem?_before]
    exact parts.blame.diagnosis.exists_of_message .nestedTooDeeply rfl said
  numeral said := by
    rw [parts.getElem?_before]
    exact parts.blame.diagnosis.exists_of_message .numeralInvalid rfl said

end Breakdown

/-- Where a list of tokens is refused there is just one token to blame, or the lack of one,
and what the error says of it and of what stands in front is so. -/
theorem parseTokens_eq_error_truthful {tokens : List Token} {error : ParseError}
    (failed : parseTokens tokens = .error error) :
    ∃ i, Offends parseTokens tokens error i ∧ (∀ j, Offends parseTokens tokens error j → j = i) ∧
      (error.found = none → i = tokens.length) ∧ Truthful tokens error i := by
  obtain ⟨parts⟩ := exists_breakdown failed
  have offends := parts.offends
  refine ⟨_, offends, fun j offends' => offends'.unique offends, fun missing => ?_, parts.truthful⟩
  have past := offends.found
  rw [missing, eq_comm, List.getElem?_eq_none_iff] at past
  exact Nat.le_antisymm offends.inside past

/-- A declaration without a name, behind a complete statement. -/
def nameless : List Token :=
  [⟨.number, "1", .empty⟩, ⟨.const, "const", .empty⟩, ⟨.equals, "=", .empty⟩, ⟨.number, "5", .empty⟩]

theorem nameless_truthful :
    parseTokens nameless = .error ⟨.nameMissing, some ⟨.equals, "=", .empty⟩, some .identifier⟩ ∧
      ∃ i, Offends parseTokens nameless ⟨.nameMissing, some ⟨.equals, "=", .empty⟩, some .identifier⟩ i ∧
        (∀ j, Offends parseTokens nameless
          ⟨.nameMissing, some ⟨.equals, "=", .empty⟩, some .identifier⟩ j → j = i) ∧
        Truthful nameless ⟨.nameMissing, some ⟨.equals, "=", .empty⟩, some .identifier⟩ i := by
  have failed : parseTokens nameless =
      .error ⟨.nameMissing, some ⟨.equals, "=", .empty⟩, some .identifier⟩ :=
    parseWithin_eq_error_iff.mpr (by decide +kernel)
  obtain ⟨i, offends, unique, -, truthful⟩ := parseTokens_eq_error_truthful failed
  exact ⟨failed, i, offends, unique, truthful⟩

end Formula
