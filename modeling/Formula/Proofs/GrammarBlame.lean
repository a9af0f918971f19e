import Formula.Proofs.GrammarFaults

/-! Which token of a list an error blames. What stands in front of it is a run of statements
and the front of another one, and that is where the rule for statements fails. -/

namespace Formula

open Rule

namespace Grammar

theorem statement_of_failure {limit room : Nat} {done : List Expr} {s : State} {error : ParseError}
    (left : limit - s.depth = room) (failed : (statementsOnto limit done s).failure = some error) :
    ∃ (ds : List (Phrases.statement (.group room)).Derivation) (after : State),
      s = ⟨ds.flatMap (Phrases.statement (.group room)).tokens ++ after.rest, after.depth⟩ ∧
        (ds = [] ∨ after.Rests fun _ => true) ∧ after.isAt .endOfInput = false ∧
        (statement (group room)).Fails after error := by
  fun_induction statementsOnto limit done s with
  | case1 done s ended => cases failed
  | case2 done s going expr middle ran ih =>
    obtain ⟨d, rfl, rfl, rests⟩ := (within_reads_iff left).mp ran
    obtain ⟨ds, after, rfl, behind, open_, fails⟩ := ih left failed
    refine ⟨d :: ds, after, by simp, .inr ?_, open_, fails⟩
    rcases behind with rfl | behind
    · exact rests
    · exact behind
  | case3 done s going other after ran =>
    obtain rfl := Option.some.inj failed
    exact ⟨[], s, rfl, .inl rfl, by simpa using going,
      (within_fails_iff left).mp (congrArg Prod.fst ran)⟩

private theorem failure_of_statement {limit room : Nat} (done : List Expr)
    (ds : List (Phrases.statement (.group room)).Derivation) (after : State) {error : ParseError}
    (left : limit - after.depth = room) (behind : ds = [] ∨ after.Rests fun _ => true)
    (going : after.isAt .endOfInput = false) (fails : (statement (group room)).Fails after error) :
    (statementsOnto limit done
      ⟨ds.flatMap (Phrases.statement (.group room)).tokens ++ after.rest, after.depth⟩).failure =
        some error := by
  have stops := (within_fails_iff left).mpr fails
  rcases behind with rfl | rests
  · exact statementsOnto_of_fails done going stops
  · rw [statementsOnto_statements done ds left rests]
    exact statementsOnto_of_fails _ going stops

end Grammar

/-- The error is put down to the token at `i`, or to the lack of one. The tokens in front
of it can be completed to a program; with it behind them nothing can change the error. -/
structure Offends (parse : List Token → Except ParseError Program) (tokens : List Token)
    (error : ParseError) (i : Nat) : Prop where
  failed : parse tokens = .error error
  inside : i ≤ tokens.length
  found : error.found = tokens[i]?
  viable : ∃ more program, parse (tokens.take i ++ more) = .ok program
  final : i < tokens.length → ∀ more, parse (tokens.take (i + 1) ++ more) = .error error

theorem Offends.le {parse : List Token → Except ParseError Program} {tokens : List Token}
    {error error' : ParseError} {i j : Nat} (offends : Offends parse tokens error i)
    (offends' : Offends parse tokens error' j) : j ≤ i := by
  refine Nat.le_of_not_lt fun before => ?_
  obtain ⟨more, program, accepted⟩ := offends'.viable
  obtain ⟨between, split⟩ := List.take_prefix_take_left (l := tokens) before
  rw [← split, List.append_assoc, offends.final (Nat.lt_of_lt_of_le before offends'.inside)] at accepted
  cases accepted

theorem Offends.unique {parse : List Token → Except ParseError Program} {tokens : List Token}
    {error error' : ParseError} {i j : Nat} (offends : Offends parse tokens error i)
    (offends' : Offends parse tokens error' j) : i = j :=
  Nat.le_antisymm (offends'.le offends) (offends.le offends')

/-- Tokens with an error: statements, and behind them the front of one that is at fault. -/
structure Breakdown (limit : Nat) (tokens : List Token) (error : ParseError) where
  statements : List (Phrases.statement (.group limit)).Derivation
  front : List Token
  back : List Token
  spelled : tokens = statements.flatMap (Phrases.statement (.group limit)).tokens ++ (front ++ back)
  behind : statements = [] ∨ State.Rests (fun _ => true) ⟨front ++ back, 0⟩
  going : State.isAt ⟨front ++ back, 0⟩ .endOfInput = false
  blame : Blame (Grammar.statement (Grammar.group limit)) (Phrases.statement (.group limit)).Begins error front back

theorem exists_breakdown {limit : Nat} {tokens : List Token} {error : ParseError}
    (failed : parseWithin limit tokens = .error error) : Nonempty (Breakdown limit tokens error) := by
  obtain ⟨ds, ⟨rest, depth⟩, spelled, behind, going, fails⟩ :=
    Grammar.statement_of_failure (Nat.sub_zero limit) (parseWithin_eq_error_iff.mp failed)
  obtain ⟨rfl, rfl⟩ : tokens = ds.flatMap (Phrases.statement (.group _)).tokens ++ rest ∧ 0 = depth := by
    simpa using spelled
  have blames := Grammar.blames_statement (Grammar.recognises_group limit) (Phrases.leads_group _)
    (Phrases.nests_group _) (Grammar.blames_group _)
  obtain ⟨front, back, rfl, blame⟩ := blames _ _ fails
  exact ⟨ds, front, back, rfl, behind, going, blame⟩

namespace Breakdown

variable {limit : Nat} {tokens : List Token} {error : ParseError}

def before (parts : Breakdown limit tokens error) : List Token :=
  parts.statements.flatMap (Phrases.statement (.group limit)).tokens ++ parts.front

theorem tokens_eq (parts : Breakdown limit tokens error) : tokens = parts.before ++ parts.back := by
  rw [before, List.append_assoc]
  exact parts.spelled

/-- The statements, and another one that begins like this, are a program. -/
theorem viable (parts : Breakdown limit tokens error) {front : List Token}
    (begins : (Phrases.statement (.group limit)).Begins front) :
    ∃ more program, parseWithin limit
      (parts.statements.flatMap (Phrases.statement (.group limit)).tokens ++ front ++ more) = .ok program := by
  obtain ⟨d, more, completed⟩ := begins
  have accepted := parseWithin_statements (parts.statements ++ [d])
  rw [List.flatMap_append, List.flatMap_singleton, completed, ← List.append_assoc] at accepted
  exact ⟨more, _, accepted⟩

theorem fails (parts : Breakdown limit tokens error) {rest : List Token} (recurs : error.Recurs rest.head?) :
    parseWithin limit (parts.before ++ rest) = .error { error with found := rest.head? } := by
  have same : State.peek ⟨parts.front ++ rest, 0⟩ = State.peek ⟨parts.front ++ parts.back, 0⟩ := by
    simp only [State.peek, State.current, parts.blame.diagnosis.head?_eq parts.blame.found recurs]
  rw [parseWithin_eq_error_iff, before, List.append_assoc]
  apply Grammar.failure_of_statement [] parts.statements ⟨parts.front ++ rest, 0⟩ (Nat.sub_zero _)
  · simpa only [State.Rests, State.operator?, same] using parts.behind
  · simpa only [State.isAt, same] using parts.going
  · exact parts.blame.final rest 0 recurs

theorem take_before (parts : Breakdown limit tokens error) : tokens.take parts.before.length = parts.before := by
  have whole := congrArg (List.take parts.before.length) parts.tokens_eq
  rwa [List.take_left] at whole

theorem getElem?_before (parts : Breakdown limit tokens error) : tokens[parts.before.length]? = error.found := by
  calc
    _ = (parts.before ++ parts.back)[parts.before.length]? := congrArg (·[parts.before.length]?) parts.tokens_eq
    _ = parts.back[0]? := by rw [List.getElem?_append_right (Nat.le_refl _), Nat.sub_self]
    _ = error.found := by rw [parts.blame.found, List.head?_eq_getElem?]

theorem offends (parts : Breakdown limit tokens error) :
    Offends (parseWithin limit) tokens error parts.before.length := by
  have again {rest : List Token} (first : rest.head? = error.found) :
      parseWithin limit (parts.before ++ rest) = .error error := by
    have failed := parts.fails (first ▸ parts.blame.recurs)
    rwa [first] at failed
  have size := congrArg List.length parts.tokens_eq
  rw [List.length_append] at size
  refine ⟨?_, by omega, parts.getElem?_before.symm, ?_, fun short more => ?_⟩
  · rw [parts.tokens_eq]
    exact again parts.blame.found.symm
  · rw [parts.take_before]
    exact parts.viable parts.blame.begins
  · have here := parts.getElem?_before
    rw [List.getElem?_eq_getElem short] at here
    rw [List.take_add_one, parts.take_before, parts.getElem?_before, List.append_assoc]
    exact again (by rw [← here]; rfl)

end Breakdown

theorem exists_offends {limit : Nat} {tokens : List Token} {error : ParseError}
    (failed : parseWithin limit tokens = .error error) : ∃ i, Offends (parseWithin limit) tokens error i := by
  obtain ⟨parts⟩ := exists_breakdown failed
  exact ⟨_, parts.offends⟩

/-- An error blames one token, or the lack of one. What stands in front of it can be
completed to a program; what follows it cannot change the error. -/
theorem parseTokens_eq_error_blames {tokens : List Token} {error : ParseError}
    (failed : parseTokens tokens = .error error) :
    ∃ i ≤ tokens.length, error.found = tokens[i]? ∧
      (∃ more program, parseTokens (tokens.take i ++ more) = .ok program) ∧
      (i < tokens.length → ∀ more, parseTokens (tokens.take (i + 1) ++ more) = .error error) := by
  obtain ⟨i, offends⟩ := exists_offends failed
  exact ⟨i, offends.inside, offends.found, offends.viable, offends.final⟩

/-- A group that a semicolon ends, and a statement behind it. -/
def unclosedGroup : List Token :=
  [⟨.openParen, "(", .empty⟩, ⟨.number, "1", .empty⟩, ⟨.binaryOperator, "+", .empty⟩,
    ⟨.number, "2", .empty⟩, ⟨.semicolon, ";", .empty⟩, ⟨.number, "3", .empty⟩]

theorem unclosedGroup_blames :
    parseTokens unclosedGroup =
        .error ⟨.groupUnclosed, some ⟨.semicolon, ";", .empty⟩, some .closeParen⟩ ∧
      ∃ i ≤ unclosedGroup.length, some ⟨.semicolon, ";", .empty⟩ = unclosedGroup[i]? ∧
        (∃ more program, parseTokens (unclosedGroup.take i ++ more) = .ok program) ∧
        (i < unclosedGroup.length → ∀ more, parseTokens (unclosedGroup.take (i + 1) ++ more) =
          .error ⟨.groupUnclosed, some ⟨.semicolon, ";", .empty⟩, some .closeParen⟩) := by
  have failed : parseTokens unclosedGroup =
      .error ⟨.groupUnclosed, some ⟨.semicolon, ";", .empty⟩, some .closeParen⟩ :=
    parseWithin_eq_error_iff.mpr (by decide +kernel)
  exact ⟨failed, parseTokens_eq_error_blames failed⟩

end Formula
