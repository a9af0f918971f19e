import Formula.Parser
import Formula.Proofs.GrammarPrograms
import Formula.Proofs.RuleCourse

/-! Calls to one parser, in any order and after any failures. A call never changes the
tokens, never goes back and leaves no group open; what it accepts it has taken, and where
it fails it stops at the token at fault or right behind it. It gets there move by move, and
at no state on the way are fewer groups open than before or more than may be. Since this
holds of one call from any place, it holds of every run of calls. -/

namespace Formula

open Rule

namespace Grammar

variable {limit : Nat}

theorem orderly_limited (limit : Nat) (s : State) : (within limit statement).OrderlyAt limit s :=
  orderly_within orderly_statement s

def statementsCourse (limit : Nat) (s : State) : List State :=
  if s.isAt .endOfInput then []
  else
    (within limit statement).course s ++
      match _ran : (within limit statement).run s with
      | (.ok _, after) => statementsCourse limit after
      | (.error _, _) => []
termination_by s.rest.length
decreasing_by
  have used := (within limit statement).consumes (congrArg Prod.fst _ran)
  rwa [_ran] at used

theorem statementsCourse_of_going {s : State} (going : ¬ s.isAt .endOfInput = true) :
    statementsCourse limit s = (within limit statement).course s ++
      match (within limit statement).run s with
      | (.ok _, after) => statementsCourse limit after
      | (.error _, _) => [] := by
  rw [statementsCourse, if_neg going]
  split <;> simp only [*]

private theorem statementsOnto_path (limit : Nat) (done : List Expr) (s : State) :
    Path s (statementsCourse limit s) (statementsOnto limit done s).state := by
  fun_induction statementsOnto limit done s with
  | case1 done s ended =>
    rw [statementsCourse, if_pos ended]
    exact .here
  | case2 done s going expr after ran ih =>
    have front := (within limit statement).path s
    rw [statementsCourse_of_going going]
    rw [ran] at front ⊢
    exact front.append ih
  | case3 done s going error after ran =>
    have front := (within limit statement).path s
    rw [statementsCourse_of_going going]
    rw [ran] at front ⊢
    exact front.append .here

private theorem statementsOnto_orderly (limit : Nat) (done : List Expr) (s : State) :
    Orderly limit s ((statementsOnto limit done s).result, (statementsOnto limit done s).state)
      (statementsCourse limit s) := by
  fun_induction statementsOnto limit done s with
  | case1 done s ended =>
    rw [statementsCourse, if_pos ended]
    exact .still s _
  | case2 done s going expr after ran ih =>
    have front := orderly_limited limit s
    have suffix := (within limit statement).suffix s
    rw [statementsCourse_of_going going]
    rw [OrderlyAt, ran] at front
    rw [ran] at suffix ⊢
    exact front.onward suffix ih
  | case3 done s going error after ran =>
    have front := orderly_limited limit s
    rw [statementsCourse_of_going going]
    rw [OrderlyAt, ran] at front
    rw [ran, List.append_nil]
    exact front.failed

/-- A program that is read to its end is all that stands in front of the end. -/
private theorem statementsOnto_beforeEnd (limit : Nat) (done : List Expr) (s : State)
    (fine : (statementsOnto limit done s).failure = none) :
    s.rest = beforeEnd s.rest ++ (statementsOnto limit done s).state.rest := by
  fun_induction statementsOnto limit done s with
  | case1 done s ended =>
    have nothing : beforeEnd ([] ++ s.rest) = [] := beforeEnd_append s (by simp) ended
    rw [List.nil_append] at nothing
    rw [nothing, List.nil_append]
  | case2 done s going expr after ran ih =>
    obtain ⟨d, spelled, -⟩ := (within_reads_iff rfl).mp ran
    have rest : s.rest = (Phrases.statement (.group (limit - s.depth))).tokens d ++ after.rest :=
      congrArg State.rest spelled
    have inside : ∀ token ∈ (Phrases.statement (.group (limit - s.depth))).tokens d,
        token.kind ≠ .endOfInput := by
      intro token member isEnd
      have proper := Phrases.proper_statement (Phrases.proper_group (limit - s.depth)) d token member
      simp [isEnd, Kind.inPhrases] at proper
    rw [rest, beforeEnd, List.takeWhile_append_of_pos (by simpa using inside), ← beforeEnd, List.append_assoc,
      ← ih fine]
  | case3 done s going error after ran => cases fine

end Grammar

namespace Parser

/-- Calls that only look. -/
def Call.looks : Call → Bool
  | .current | .peek | .check _ | .operator => true
  | .next | .expect _ _ | .program | .keyword | .statement | .declaration | .assignment | .additive
  | .multiplicative | .primary => false

/-- What was asked for has been taken. A program may have nothing to take. -/
def Reply.takes : Reply → Bool
  | .expected (.ok _) | .keyword (.ok _) | .expr (.ok _) => true
  | _ => false

def Reply.failure? : Reply → Option ParseError
  | .expected (.error error) | .program (.error error) | .keyword (.error error) | .expr (.error error) =>
    some error
  | _ => none

/-- Where a failure leaves the parser: at the end if the tokens had run out, and otherwise
at the token at fault, or right behind it if that has been taken. -/
def Stops (before after : Parser) (error : ParseError) : Prop :=
  match error.found with
  | none => after.cursor = after.tokens.length
  | some token => ∃ place, before.cursor ≤ place ∧ before.tokens[place]? = some token ∧
      after.cursor = if error.taken then place + 1 else place

def course (parser : Parser) : Call → List State
  | .current | .peek | .check _ | .operator => []
  | .next => [parser.state.advance]
  | .expect kind reason => (Rule.expect kind reason).course parser.state
  | .program => Grammar.statementsCourse Grammar.maxDepth parser.state
  | .keyword => Grammar.keyword.course parser.state
  | .statement => (Grammar.within Grammar.maxDepth Grammar.statement).course parser.state
  | .declaration => (Grammar.within Grammar.maxDepth Grammar.declaration).course parser.state
  | .assignment => (Grammar.within Grammar.maxDepth Grammar.assignment).course parser.state
  | .additive => (Grammar.within Grammar.maxDepth Grammar.additive).course parser.state
  | .multiplicative => (Grammar.within Grammar.maxDepth Grammar.multiplicative).course parser.state
  | .primary => (Grammar.within Grammar.maxDepth Grammar.primary).course parser.state

/-- The law of one call: what its reply, the states it comes to and the parser it leaves
have to do with the parser it was made to. -/
structure Keeps (before : Parser) (call : Call) (reply : Reply) (after : Parser) : Prop where
  tokens : after.tokens = before.tokens
  forward : before.cursor ≤ after.cursor
  depth : after.depth = before.depth
  looks : call.looks = true → after = before
  takes : reply.takes = true → before.cursor < after.cursor
  program : ∀ program, reply = .program (.ok program) →
    after.cursor = before.cursor + (beforeEnd (before.tokens.drop before.cursor)).length
  stops : ∀ error, reply.failure? = some error → before.Stops after error
  path : Path before.state (before.course call) after.state
  stays : ∀ s ∈ before.course call, before.depth ≤ s.depth ∧ s.depth ≤ max before.depth Grammar.maxDepth

/-- Each call is made to the parser that the one in front of it has left. -/
inductive Runs : Parser → List Call → List (Reply × Parser) → Prop where
  | nil {parser : Parser} : Runs parser [] []
  | cons {before after : Parser} {call : Call} {calls : List Call} {reply : Reply}
      {replies : List (Reply × Parser)} (keeps : before.Keeps call reply after)
      (onward : Runs after calls replies) : Runs before (call :: calls) ((reply, after) :: replies)

variable {parser : Parser} {s : State}

theorem cursor_moveTo {front : List Token} (spelled : parser.state.rest = front ++ s.rest) :
    (parser.moveTo s).cursor = parser.cursor + front.length := by
  have length := congrArg List.length spelled
  have inside := parser.inside
  simp only [state, List.length_drop, List.length_append] at length
  simp only [moveTo]
  omega

theorem le_cursor_moveTo (suffix : s.rest <:+ parser.state.rest) :
    parser.cursor ≤ (parser.moveTo s).cursor := by
  obtain ⟨front, spelled⟩ := suffix
  rw [cursor_moveTo spelled.symm]
  exact Nat.le_add_right _ _

private theorem lt_cursor_moveTo (suffix : s.rest <:+ parser.state.rest)
    (used : s.rest.length < parser.state.rest.length) :
    parser.cursor < (parser.moveTo s).cursor := by
  obtain ⟨front, spelled⟩ := suffix
  rw [cursor_moveTo spelled.symm]
  rw [← spelled, List.length_append] at used
  omega

theorem getElem?_behind {front rest : List Token} {token : Token}
    (spelled : parser.state.rest = front ++ token :: rest) :
    parser.tokens[parser.cursor + front.length]? = some token := by
  have here : parser.tokens.drop parser.cursor = front ++ token :: rest := spelled
  rw [← List.getElem?_drop, here, List.getElem?_append_right (Nat.le_refl _), Nat.sub_self,
    List.getElem?_cons_zero]

private theorem stops_moveTo {error : ParseError} (suffix : s.rest <:+ parser.state.rest)
    (halts : error.Halts parser.state.rest s.rest) : parser.Stops (parser.moveTo s) error := by
  obtain ⟨front, spelled⟩ := suffix
  obtain ⟨rest, depth⟩ := s
  unfold Stops
  cases halts with
  | ranOut nothing =>
    rw [nothing]
    rfl
  | @behind front' rest token found isTaken spelled' =>
    have whole : parser.state.rest = (front' ++ [token]) ++ rest := by simpa using spelled'
    have cursor := cursor_moveTo (s := ⟨rest, depth⟩) whole
    simp only [found, isTaken, if_true]
    refine ⟨parser.cursor + front'.length, Nat.le_add_right _ _, getElem?_behind spelled', ?_⟩
    rw [cursor, List.length_append, List.length_singleton, Nat.add_assoc]
  | @here rest token found isLeft =>
    have cursor := cursor_moveTo (s := ⟨token :: rest, depth⟩) spelled.symm
    simp only [found, isLeft]
    exact ⟨parser.cursor + front.length, Nat.le_add_right _ _, getElem?_behind spelled.symm, by simpa using cursor⟩

theorem state_moveTo (suffix : s.rest <:+ parser.state.rest) : (parser.moveTo s).state = s := by
  have whole : s.rest <:+ parser.tokens := suffix.trans (List.drop_suffix _ _)
  simp only [state, moveTo, ← List.suffix_iff_eq_drop.mp whole]

theorem keeps_outcome {outcome : Except ParseError α × State} {call : Call}
    (reply : Except ParseError α → Reply)
    (accepted : ∀ meaning, (reply (.ok meaning)).failure? = none)
    (failed : ∀ error, (reply (.error error)).failure? = some error)
    (path : Path parser.state (parser.course call) outcome.2)
    (orderly : Orderly Grammar.maxDepth parser.state outcome (parser.course call)) (moves : call.looks = false)
    (takes : (reply outcome.1).takes = true → outcome.2.rest.length < parser.state.rest.length)
    (program : ∀ program, reply outcome.1 = .program (.ok program) →
      parser.state.rest = beforeEnd parser.state.rest ++ outcome.2.rest) :
    parser.Keeps call (reply outcome.1) (parser.moveTo outcome.2) := by
  refine ⟨rfl, le_cursor_moveTo path.suffix, orderly.level, ?_, ?_, ?_, ?_, ?_, orderly.stays⟩
  · intro looks
    rw [moves] at looks
    cases looks
  · exact fun taken => lt_cursor_moveTo path.suffix (takes taken)
  · exact fun read same => cursor_moveTo (program read same)
  · intro error failure
    cases answered : outcome.1 with
    | ok meaning =>
      rw [answered, accepted] at failure
      cases failure
    | error other =>
      rw [answered, failed] at failure
      obtain rfl := Option.some.inj failure
      exact stops_moveTo path.suffix (orderly.halts other answered)
  · rwa [state_moveTo path.suffix]

/-- A reply that is no program carries what a rule has answered. -/
structure Carries (reply : Except ParseError α → Reply) : Prop where
  takes : ∀ error, (reply (.error error)).takes = false
  accepted : ∀ meaning, (reply (.ok meaning)).failure? = none
  failed : ∀ error, (reply (.error error)).failure? = some error
  other : ∀ outcome program, reply outcome ≠ .program program

private theorem carries_expected : Carries Reply.expected :=
  ⟨fun _ => rfl, fun _ => rfl, fun _ => rfl, by simp⟩

private theorem carries_keyword : Carries Reply.keyword :=
  ⟨fun _ => rfl, fun _ => rfl, fun _ => rfl, by simp⟩

private theorem carries_expr : Carries Reply.expr :=
  ⟨fun _ => rfl, fun _ => rfl, fun _ => rfl, by simp⟩

theorem keeps_run {rule : Rule α} {call : Call} (reply : Except ParseError α → Reply) (carries : Carries reply)
    (orderly : rule.OrderlyAt Grammar.maxDepth parser.state)
    (course : parser.course call = rule.course parser.state) (moves : call.looks = false) :
    parser.Keeps call (reply (parser.run rule).1) (parser.run rule).2 := by
  have path := rule.path parser.state
  rw [OrderlyAt] at orderly
  rw [← course] at path orderly
  refine keeps_outcome reply carries.accepted carries.failed path orderly moves ?_
    fun program same => absurd same (carries.other _ _)
  cases outcome : (rule.run parser.state).1 with
  | error error => simp [carries.takes]
  | ok meaning => exact fun _ => rule.consumes outcome

theorem keeps_runExpr {sort : Rule Expr → Rule Expr} {call : Call}
    (orderly : ∀ {group : Rule Expr}, (∀ s, group.OrderlyAt Grammar.maxDepth s) →
      ∀ s, (sort group).OrderlyAt Grammar.maxDepth s)
    (course : parser.course call = (Grammar.within Grammar.maxDepth sort).course parser.state)
    (moves : call.looks = false) : parser.Keeps call (parser.runExpr sort).1 (parser.runExpr sort).2 := by
  have limited := Grammar.orderly_within orderly parser.state
  -- The rule is named before the goal is met: else the two are compared by unfolding the limit.
  have keeps := keeps_run .expr carries_expr limited course moves
  exact keeps

theorem keeps_looks (call : Call) (reply : Reply) (course : parser.course call = [])
    (takes : reply.takes = false) (failure : reply.failure? = none)
    (other : ∀ outcome, reply ≠ .program outcome) :
    parser.Keeps call reply parser := by
  refine ⟨rfl, Nat.le_refl _, rfl, fun _ => rfl, by simp [takes], fun _ same => absurd same (other _),
    by simp [failure], ?_, ?_⟩
  · rw [course]
    exact .here
  · rw [course]
    nofun

private theorem keeps_program (parser : Parser) :
    parser.Keeps .program (parser.answer .program).1 (parser.answer .program).2 := by
  have path := Grammar.statementsOnto_path Grammar.maxDepth [] parser.state
  have orderly := Grammar.statementsOnto_orderly Grammar.maxDepth [] parser.state
  have going : Call.program.looks = false := rfl
  refine keeps_outcome .program (fun _ => rfl) (fun _ => rfl) path orderly going nofun fun program read => ?_
  apply Grammar.statementsOnto_beforeEnd
  have fine := Reply.program.inj read
  cases failure : (Grammar.statementsOnto Grammar.maxDepth [] parser.state).failure with
  | none => rfl
  | some error => simp [Progress.result, failure] at fine

private theorem keeps_answer (parser : Parser) (call : Call) :
    parser.Keeps call (parser.answer call).1 (parser.answer call).2 := by
  cases call with
  | current => exact keeps_looks .current (.present _) rfl rfl rfl (by simp)
  | peek => exact keeps_looks .peek (.token _) rfl rfl rfl (by simp)
  | check kind => exact keeps_looks (.check kind) (.holds _) rfl rfl rfl (by simp)
  | operator => exact keeps_looks .operator (.operator _) rfl rfl rfl (by simp)
  | next =>
    have forward := le_cursor_moveTo parser.state.advance_suffix
    refine ⟨rfl, forward, rfl, nofun, nofun, by simp [answer], by simp [answer, Reply.failure?], ?_, ?_⟩
    · simp only [answer, state_moveTo parser.state.advance_suffix]
      exact .single .take
    · exact (Orderly.advance parser.state).stays
  | expect kind reason =>
    have keeps := keeps_run .expected carries_expected (orderly_expect kind reason parser.state)
      (show parser.course (.expect kind reason) = _ from rfl) rfl
    exact keeps
  | keyword =>
    have keeps := keeps_run .keyword carries_keyword (Grammar.orderly_keyword parser.state)
      (show parser.course .keyword = _ from rfl) rfl
    exact keeps
  | program => exact keeps_program parser
  | statement => exact keeps_runExpr Grammar.orderly_statement rfl rfl
  | declaration => exact keeps_runExpr Grammar.orderly_declaration rfl rfl
  | assignment => exact keeps_runExpr Grammar.orderly_assignment rfl rfl
  | additive => exact keeps_runExpr Grammar.orderly_additive rfl rfl
  | multiplicative => exact keeps_runExpr Grammar.orderly_multiplicative rfl rfl
  | primary => exact keeps_runExpr Grammar.orderly_primary rfl rfl

theorem runs_answers (parser : Parser) (calls : List Call) : Runs parser calls (parser.answers calls) := by
  induction calls generalizing parser with
  | nil => exact .nil
  | cons call calls ih => exact .cons (keeps_answer parser call) (ih _)

theorem Runs.kept {calls : List Call} {replies : List (Reply × Parser)} (runs : Runs parser calls replies) :
    ∀ answered ∈ replies, answered.2.tokens = parser.tokens ∧ answered.2.depth = parser.depth := by
  induction runs with
  | nil => simp
  | cons keeps onward ih =>
    intro answered inside
    rcases List.mem_cons.mp inside with rfl | inside
    · exact ⟨keeps.tokens, keeps.depth⟩
    · obtain ⟨tokens, depth⟩ := ih answered inside
      exact ⟨tokens.trans keeps.tokens, depth.trans keeps.depth⟩

/-- Every call keeps its law, from wherever the parser stands and whatever has failed
before. So a parser that begins with a list of tokens holds this list through all calls,
stands inside it, and has no group open between them. -/
theorem answers_keep_place :
    (∀ (parser : Parser) (calls : List Call), Runs parser calls (parser.answers calls)) ∧
    ∀ (tokens : List Token) (calls : List Call), ∀ answered ∈ (ofTokens tokens).answers calls,
      answered.2.tokens = tokens ∧ answered.2.cursor ≤ tokens.length ∧ answered.2.depth = 0 := by
  refine ⟨runs_answers, fun tokens calls answered inside => ?_⟩
  obtain ⟨same, depth⟩ := (runs_answers (ofTokens tokens) calls).kept answered inside
  have place := answered.2.inside
  rw [same] at place
  exact ⟨same, place, depth⟩

/-- A group in which an operand is missing, and a number behind it. -/
def brokenGroup : List Token :=
  [⟨.openParen, "(", .empty⟩, ⟨.number, "1", .empty⟩, ⟨.binaryOperator, "+", .empty⟩, ⟨.closeParen, ")", .empty⟩,
    ⟨.number, "2", .empty⟩]

/-- The parser stops at the parenthesis that stands for the operand, with the group given
up. So the rest is read as if there had been none. -/
theorem answers_keep_brokenGroup :
    Runs (ofTokens brokenGroup) [.statement, .next, .program]
        ((ofTokens brokenGroup).answers [.statement, .next, .program]) ∧
      ∃ answered ∈ (ofTokens brokenGroup).answers [.statement, .next, .program],
        answered.1.failure? = some ⟨.unexpected, some ⟨.closeParen, ")", .empty⟩, none⟩ ∧
          answered.2.cursor = 3 ∧ answered.2.tokens = brokenGroup ∧ answered.2.cursor ≤ brokenGroup.length ∧
          answered.2.depth = 0 := by
  have runs := answers_keep_place.1 (ofTokens brokenGroup) [.statement, .next, .program]
  have first : (ofTokens brokenGroup).answer .statement ∈
      (ofTokens brokenGroup).answers [.statement, .next, .program] := List.mem_cons_self
  have stopped : ((ofTokens brokenGroup).answer .statement).1.failure? =
      some ⟨.unexpected, some ⟨.closeParen, ")", .empty⟩, none⟩ := by decide +kernel
  have place : ((ofTokens brokenGroup).answer .statement).2.cursor = 3 := by decide +kernel
  obtain ⟨tokens, inside, depth⟩ := answers_keep_place.2 brokenGroup [.statement, .next, .program]
    ((ofTokens brokenGroup).answer .statement) first
  exact ⟨runs, (ofTokens brokenGroup).answer .statement, first, stopped, place, tokens, inside, depth⟩

end Parser

end Formula
