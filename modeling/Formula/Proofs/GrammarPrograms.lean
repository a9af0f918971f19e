import Formula.Proofs.GrammarUniqueness

/-! The programs that are accepted. The tokens in front of the end of the input are a
program when they fall into statements of the grammar, and they do so in one way. -/

namespace Formula

open Rule

/-- The tokens in front of the first one that ends the input. -/
def beforeEnd (tokens : List Token) : List Token := tokens.takeWhile (·.kind ≠ .endOfInput)

namespace Grammar

variable {limit room : Nat}

theorem statementsOnto_of_isAt {s : State} (done : List Expr) (ended : s.isAt .endOfInput = true) :
    statementsOnto limit done s = ⟨done.reverse, none, s⟩ := by
  rw [statementsOnto, if_pos ended]

theorem statementsOnto_of_going {s : State} (done : List Expr) (going : s.isAt .endOfInput = false) :
    statementsOnto limit done s =
      match (within limit statement).run s with
      | (.ok expr, after) => statementsOnto limit (expr :: done) after
      | (.error error, after) => ⟨done.reverse, some error, after⟩ := by
  rw [statementsOnto, if_neg (by simp [going])]
  split
  · next expr after ran => rw [ran]
  · next error after ran => rw [ran]

theorem statementsOnto_of_reads {s after : State} {expr : Expr} (done : List Expr)
    (going : s.isAt .endOfInput = false) (reads : (within limit statement).Reads s expr after) :
    statementsOnto limit done s = statementsOnto limit (expr :: done) after := by
  rw [statementsOnto_of_going done going, show (within limit statement).run s = _ from reads]

theorem statementsOnto_of_fails {s : State} {error : ParseError} (done : List Expr)
    (going : s.isAt .endOfInput = false) (fails : (within limit statement).Fails s error) :
    (statementsOnto limit done s).failure = some error := by
  rw [statementsOnto_of_going done going]
  rcases outcome : (within limit statement).run s with ⟨_ | expr, after⟩ <;> simp_all [Fails]

theorem within_reads_iff {s after : State} {expr : Expr} (left : limit - s.depth = room) :
    (within limit statement).Reads s expr after ↔
      ∃ d, s = ⟨(Phrases.statement (.group room)).tokens d ++ after.rest, after.depth⟩ ∧
        (Phrases.statement (.group room)).meaning d = expr ∧ after.Rests fun _ => true := by
  rw [Reads, run_within congruent_statement, left]
  exact (recognises_statement (recognises_group room) (Phrases.leads_group room)).reads_iff

theorem within_fails_iff {s : State} {error : ParseError} (left : limit - s.depth = room) :
    (within limit statement).Fails s error ↔ (statement (group room)).Fails s error := by
  rw [Fails, Fails, run_within congruent_statement, left]

theorem rests_statements (ds : List (Phrases.statement (.group room)).Derivation) {after : State}
    (rests : after.Rests fun _ => true) :
    State.Rests (fun _ => true)
      ⟨ds.flatMap (Phrases.statement (.group room)).tokens ++ after.rest, after.depth⟩ := by
  cases ds with
  | nil => exact rests
  | cons d ds =>
    rw [List.flatMap_cons, List.append_assoc]
    exact State.rests_append (Phrases.leads_statement (Phrases.leads_group room)) rfl d _ _

private theorem isAt_statement (d : (Phrases.statement (.group room)).Derivation) (rest : List Token)
    (depth : Nat) :
    State.isAt ⟨(Phrases.statement (.group room)).tokens d ++ rest, depth⟩ .endOfInput = false := by
  obtain ⟨token, more, first, begins⟩ := Phrases.leads_statement (Phrases.leads_group room) d
  rw [first]
  cases kind : token.kind <;>
    simp_all [Kind.beginsStatement, Kind.beginsOperand, State.isAt, State.peek, State.current]

theorem statementsOnto_statements (done : List Expr)
    (ds : List (Phrases.statement (.group room)).Derivation) {after : State}
    (left : limit - after.depth = room) (rests : after.Rests fun _ => true) :
    statementsOnto limit done
        ⟨ds.flatMap (Phrases.statement (.group room)).tokens ++ after.rest, after.depth⟩ =
      statementsOnto limit ((ds.map (Phrases.statement (.group room)).meaning).reverse ++ done) after := by
  induction ds generalizing done with
  | nil => rfl
  | cons d ds ih =>
    have reads := (within_reads_iff (s := ⟨(Phrases.statement (.group room)).tokens d ++
      (ds.flatMap (Phrases.statement (.group room)).tokens ++ after.rest), after.depth⟩) left).mpr
      ⟨d, rfl, rfl, rests_statements ds rests⟩
    rw [List.flatMap_cons, List.append_assoc,
      statementsOnto_of_reads done (isAt_statement d _ _) reads, ih]
    simp

/-- What reading a program has read when it comes to the end. -/
private theorem statements_of_statementsOnto {done : List Expr} {s : State}
    (left : limit - s.depth = room) (fine : (statementsOnto limit done s).failure = none) :
    ∃ (ds : List (Phrases.statement (.group room)).Derivation) (after : State),
      s = ⟨ds.flatMap (Phrases.statement (.group room)).tokens ++ after.rest, after.depth⟩ ∧
        (statementsOnto limit done s).body =
          done.reverse ++ ds.map (Phrases.statement (.group room)).meaning ∧
        after.isAt .endOfInput = true := by
  fun_induction statementsOnto limit done s with
  | case1 done s ended => exact ⟨[], s, rfl, by simp, ended⟩
  | case2 done s going expr middle ran ih =>
    obtain ⟨d, rfl, rfl, -⟩ := (within_reads_iff left).mp ran
    obtain ⟨ds, after, same, body, ended⟩ := ih left fine
    refine ⟨d :: ds, after, ?_, by simp [body], ended⟩
    rw [same, List.flatMap_cons, List.append_assoc]
  | case3 done s going error after ran => cases fine

end Grammar

theorem beforeEnd_append {front : List Token} (after : State)
    (inside : ∀ token ∈ front, token.kind ≠ .endOfInput) (ended : after.isAt .endOfInput = true) :
    beforeEnd (front ++ after.rest) = front := by
  have nothing : beforeEnd after.rest = [] := by
    obtain ⟨rest, depth⟩ := after
    cases rest with
    | nil => rfl
    | cons token rest =>
      have isEnd : token.kind = .endOfInput := of_decide_eq_true ended
      simp [beforeEnd, isEnd]
  rw [beforeEnd] at nothing ⊢
  rw [List.takeWhile_append_of_pos (by simpa using inside), nothing, List.append_nil]

theorem beforeEnd_eq_self {tokens : List Token} (inside : ∀ token ∈ tokens, token.kind ≠ .endOfInput) :
    beforeEnd tokens = tokens := by
  simpa using beforeEnd_append ⟨[], 0⟩ inside rfl

theorem isAt_behind (tokens : List Token) (depth : Nat) :
    State.isAt ⟨tokens.dropWhile (·.kind ≠ .endOfInput), depth⟩ .endOfInput = true := by
  induction tokens with
  | nil => rfl
  | cons token tokens ih =>
    by_cases isEnd : token.kind = .endOfInput
    · simp [isEnd, State.isAt, State.peek, State.current]
    · simpa [isEnd] using ih

theorem rests_behind {level : Operator → Bool} (tokens : List Token) (depth : Nat) :
    State.Rests level ⟨tokens.dropWhile (·.kind ≠ .endOfInput), depth⟩ := by
  apply State.rests_of_peek
  rw [of_decide_eq_true (isAt_behind tokens depth)]
  nofun

namespace Derivation

variable {limit : Nat} {tokens : List Token} {program : Program}

theorem inside (d : Derivation limit tokens program) {token : Token} (member : token ∈ tokens) :
    token.kind ≠ .endOfInput := by
  rw [← d.spelled] at member
  obtain ⟨statement, -, member⟩ := List.mem_flatMap.mp member
  have proper := Phrases.proper_statement (Phrases.proper_group limit) statement token member
  intro isEnd
  simp [isEnd, Kind.inPhrases] at proper

end Derivation

theorem result_statements_iff {limit : Nat} {tokens : List Token} {program : Program} :
    (Grammar.statements limit ⟨tokens, 0⟩).result = .ok program ↔
      Nonempty (Derivation limit (beforeEnd tokens) program) := by
  have outcome : (Grammar.statements limit ⟨tokens, 0⟩).result = .ok program ↔
      (Grammar.statements limit ⟨tokens, 0⟩).failure = none ∧
        (Grammar.statements limit ⟨tokens, 0⟩).body = program.body := by
    obtain ⟨body⟩ := program
    unfold Progress.result
    cases (Grammar.statements limit ⟨tokens, 0⟩).failure <;> simp
  rw [outcome, Grammar.statements]
  constructor
  · rintro ⟨fine, body⟩
    obtain ⟨ds, after, same, read, ended⟩ := Grammar.statements_of_statementsOnto rfl fine
    simp only [State.mk.injEq, Nat.sub_zero] at same
    rw [read] at body
    let whole : Derivation limit _ program := ⟨ds, rfl, by simpa using body⟩
    rw [same.1, beforeEnd_append after (fun _ member => whole.inside member) ended]
    exact ⟨whole⟩
  · rintro ⟨ds, spelled, meant⟩
    have read := Grammar.statementsOnto_statements [] ds (Nat.sub_zero limit) (rests_behind tokens 0)
    have whole : tokens = ds.flatMap (Phrases.statement (.group limit)).tokens ++
        tokens.dropWhile (·.kind ≠ .endOfInput) := by
      rw [spelled, beforeEnd, List.takeWhile_append_dropWhile]
    rw [← whole, Grammar.statementsOnto_of_isAt _ (isAt_behind tokens 0)] at read
    simp [read, meant]

def parseWithin (limit : Nat) (tokens : List Token) : Except ParseError Program :=
  (Grammar.statements limit ⟨tokens, 0⟩).result

theorem parseWithin_eq_error_iff {limit : Nat} {tokens : List Token} {error : ParseError} :
    parseWithin limit tokens = .error error ↔
      (Grammar.statements limit ⟨tokens, 0⟩).failure = some error := by
  unfold parseWithin Progress.result
  cases (Grammar.statements limit ⟨tokens, 0⟩).failure <;> simp

/-- The end of the input is no part of the program, so it may as well be missing. -/
theorem parseTokens_before_end {front : List Token} (back : List Token) {stop : Token}
    (isEnd : stop.kind = .endOfInput) (inside : ∀ token ∈ front, token.kind ≠ .endOfInput)
    (program : Program) :
    parseTokens (front ++ stop :: back) = .ok program ↔ parseTokens front = .ok program := by
  have ended : State.isAt ⟨stop :: back, 0⟩ .endOfInput = true := decide_eq_true isEnd
  have here := beforeEnd_append ⟨stop :: back, 0⟩ inside ended
  rw [parseTokens, parseTokens, result_statements_iff, result_statements_iff, here, beforeEnd_eq_self inside]

theorem parseStrict_eq_ok_iff {source : String} {program : Program} :
    Source.parseStrict source = .ok program ↔
      ∃ tokens, Source.tryTokenize source = .ok tokens ∧
        Nonempty (Derivation Grammar.maxDepth (beforeEnd tokens) program) := by
  unfold Source.parseStrict
  cases Source.tryTokenize source with
  | error unknown => simp
  | ok tokens =>
    simp only [Except.ok.injEq, exists_eq_left', ← result_statements_iff]
    rw [← parseTokens]
    cases parseTokens tokens with
    | error error => exact iff_of_false (fun accepted => by cases accepted) (fun accepted => by cases accepted)
    | ok read => exact ⟨fun accepted => by cases accepted; rfl, fun accepted => by cases accepted; rfl⟩

theorem parseWithin_statements {limit : Nat} (ds : List (Phrases.statement (.group limit)).Derivation) :
    parseWithin limit (ds.flatMap (Phrases.statement (.group limit)).tokens) =
      .ok ⟨ds.map (Phrases.statement (.group limit)).meaning⟩ := by
  let whole : Derivation limit _ ⟨ds.map (Phrases.statement (.group _)).meaning⟩ := ⟨ds, rfl, rfl⟩
  apply result_statements_iff.mpr
  rw [beforeEnd_eq_self fun _ member => whole.inside member]
  exact ⟨whole⟩

/-- A list of tokens is accepted with a program just when what stands before its end is
derived as that program, and there is at most one derivation. -/
theorem parseTokens_eq_ok_iff_derivation :
    (∀ tokens program, parseTokens tokens = .ok program ↔
      Nonempty (Derivation Grammar.maxDepth (beforeEnd tokens) program)) ∧
    ∀ tokens program program' (d : Derivation Grammar.maxDepth tokens program)
      (d' : Derivation Grammar.maxDepth tokens program'), d.statements = d'.statements :=
  ⟨fun _ _ => result_statements_iff,
    fun _ _ _ d d' => Phrases.statements_unique _ (d.spelled.trans d'.spelled.symm)⟩

end Formula
