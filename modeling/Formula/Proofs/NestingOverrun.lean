import Formula.Proofs.GrammarBlame
import Formula.Proofs.NestingBalance

/-! The grammar read twice, once with little room for groups and once with more. Both
readings do the same, step by step, until the narrow one comes to a group that it has no
room for. It gives up there, and only there, while what it has read, with the parenthesis
behind it, still begins a phrase where there is more room. -/

namespace Formula

open Rule

/-- The narrow reading comes to `opening` with all of its room used up. -/
structure Overrun (room : Int) (begins : List Token → Prop) (front : List Token) (opening : Token) : Prop where
  isOpening : opening.kind = .openParen
  level : balance front = room
  shallow : Shallow room front
  begins : begins (front ++ [opening])

/-- What the narrow reading of the tokens gives, beside what the wide one gives. -/
inductive Narrowing (room : Int) (begins : List Token → Prop) (tokens : List Token)
    (outcome outcome' : Except ParseError α × State) : Prop where
  | same (equal : outcome = outcome')
      (fine : ∀ error, outcome.1 = .error error → error.reason ≠ .nestedTooDeeply)
  | overrun {front back : List Token} {opening : Token} (spelled : tokens = front ++ opening :: back)
      (reached : Overrun room begins front opening)
      (failed : outcome.1 = .error ⟨.nestedTooDeeply, some opening, none⟩)

def Rule.Narrows (room : Int) (begins : List Token → Prop) (rule rule' : Rule α) : Prop :=
  ∀ s, Narrowing room begins s.rest (rule.run s) (rule'.run s)

namespace Narrowing

variable {room room' : Int} {begins wider : List Token → Prop} {tokens rest : List Token}
variable {rule rule' : Rule α} {s : State}

theorem behind {outcome outcome' : Except ParseError α × State} (lead : List Token)
    (narrowing : Narrowing room begins rest outcome outcome') (level : room = room' - balance lead)
    (shallow : Shallow room' lead) (starts : ∀ front, begins front → wider (lead ++ front)) :
    Narrowing room' wider (lead ++ rest) outcome outcome' := by
  cases narrowing with
  | same equal fine => exact .same equal fine
  | @overrun front back opening spelled reached failed =>
    have whole : lead ++ rest = lead ++ front ++ opening :: back := by rw [spelled, List.append_assoc]
    refine .overrun whole ⟨reached.isOpening, ?_, ?_, ?_⟩ failed
    · rw [balance_append, reached.level, level]
      omega
    · rw [shallow_append_iff, ← level]
      exact ⟨shallow, reached.shallow⟩
    · rw [List.append_assoc]
      exact starts _ reached.begins

theorem after {outcome outcome' : Except ParseError α × State} {lead : List Token}
    (narrowing : Narrowing room begins rest outcome outcome') (closed : Closed room lead)
    (starts : ∀ front, begins front → wider (lead ++ front)) :
    Narrowing room wider (lead ++ rest) outcome outcome' :=
  narrowing.behind lead (by rw [closed.level, Int.sub_zero]) closed.shallow starts

theorem map {f : α → β} (narrowing : Narrowing room begins tokens (rule.run s) (rule'.run s)) :
    Narrowing room begins tokens ((rule.map f).run s) ((rule'.map f).run s) := by
  cases narrowing with
  | same equal fine =>
    exact .same (by simp only [Rule.map, Rule.refine, equal]) fun error failed => fine error (map_fails_iff.mp failed)
  | overrun spelled reached failed => exact .overrun spelled reached (map_fails_iff.mpr failed)

theorem deeper (s : State) (narrowing : Narrowing room begins s.rest (rule.run ⟨s.rest, s.depth + 1⟩)
    (rule'.run ⟨s.rest, s.depth + 1⟩)) :
    Narrowing room begins s.rest (rule.deeper.run s) (rule'.deeper.run s) := by
  cases narrowing with
  | same equal fine =>
    exact .same (by simp only [Rule.deeper, equal]) fun error failed => fine error (deeper_fails_iff.mp failed)
  | overrun spelled reached failed => exact .overrun spelled reached (deeper_fails_iff.mpr failed)

theorem andThen {next next' : α → Rule β} (narrowing : Narrowing room begins tokens (rule.run s) (rule'.run s))
    (goesOn : ∀ meaning after, rule.Reads s meaning after →
      Narrowing room begins tokens ((next meaning).run after) ((next' meaning).run after)) :
    Narrowing room begins tokens ((rule.andThen next).run s) ((rule'.andThen next').run s) := by
  cases narrowing with
  | overrun spelled reached failed => exact .overrun spelled reached (andThen_fails_iff.mpr (.inl failed))
  | same equal fine =>
    rcases outcome : rule.run s with ⟨error | meaning, after⟩
    · simp only [Rule.andThen, ← equal, outcome]
      rw [outcome] at fine
      exact .same rfl fun other failed => Except.error.inj failed ▸ fine error rfl
    · have further := goesOn meaning after outcome
      simpa only [Rule.andThen, ← equal, outcome] using further

theorem expect {kind : Kind} {reason : Reason} (other : reason ≠ .nestedTooDeeply) :
    Narrowing room begins tokens ((Rule.expect kind reason).run s) ((Rule.expect kind reason).run s) := by
  refine .same rfl fun error failed => ?_
  obtain ⟨-, rfl⟩ := expect_fails_iff.mp failed
  exact other

end Narrowing

namespace Rule

variable {operand operand' : Rule Expr} {phrases phrases' : Phrases Expr} {inner level : Operator → Bool}
  {room : Int}

/-- What both readings have read is a phrase where there is more room, and it is as
shallow as the narrow one. -/
theorem Reads.exists_closed {s after : State} {expr : Expr} (recognises : Recognises operand phrases inner)
    (recognises' : Recognises operand' phrases' inner) (nests : phrases.Nests room)
    (reads : operand.Reads s expr after) (reads' : operand'.Reads s expr after) :
    ∃ d, s.rest = phrases'.tokens d ++ after.rest ∧ Closed room (phrases'.tokens d) := by
  obtain ⟨d, spelled, -⟩ := recognises.reads_iff.mp reads
  obtain ⟨d', spelled', -⟩ := recognises'.reads_iff.mp reads'
  have same : phrases.tokens d = phrases'.tokens d' := by
    rw [spelled, State.mk.injEq] at spelled'
    exact List.append_cancel_right spelled'.1
  exact ⟨d', by rw [spelled'], same ▸ nests d⟩

private theorem foldOnto_narrowing (recognises : Recognises operand phrases inner)
    (recognises' : Recognises operand' phrases' inner) (nests : phrases.Nests room)
    (narrows : Narrows room phrases'.Begins operand operand') (left : Expr) (s : State)
    (read : Phrases.Chain phrases' level) :
    Narrowing room (fun front => (phrases'.chain level).Begins ((phrases'.chain level).tokens read ++ front))
      s.rest (foldOnto operand level left s) (foldOnto operand' level left s) := by
  -- `read` is the chain in front of `s`; every link that both readings read makes it longer.
  fun_induction foldOnto operand level left s generalizing read with
  | case1 left s ended =>
    rw [foldOnto_of_rests left ended]
    exact .same rfl fun _ failed => by cases failed
  | case2 left s op next right after ran ih =>
    obtain ⟨found, inside⟩ := Option.filter_eq_some_iff.mp next
    obtain ⟨sign, spelled, isOperator, isSymbol⟩ := State.exists_sign found
    rw [foldOnto_of_operator left found inside]
    cases narrows s.advance with
    | overrun _ _ failed =>
      rw [ran] at failed
      cases failed
    | same equal fine =>
      obtain ⟨d, phrase, closed⟩ := Reads.exists_closed recognises recognises' nests ran (equal.symm.trans ran)
      have further := ih ⟨read.first, read.links ++ [⟨sign, op, isOperator, isSymbol, inside, d⟩]⟩
      have tokens : s.rest = sign :: phrases'.tokens d ++ after.rest := by
        rw [spelled, phrase, List.cons_append]
      rw [← equal, ran, tokens]
      apply further.after (.cons (by rw [isOperator]; rfl) closed)
      intro front begins
      simpa [Phrases.chain, Phrases.Link.tokens] using begins
  | case3 left s op next error after ran =>
    obtain ⟨found, inside⟩ := Option.filter_eq_some_iff.mp next
    obtain ⟨sign, spelled, isOperator, isSymbol⟩ := State.exists_sign found
    have tokens : s.rest = [sign] ++ s.advance.rest := congrArg State.rest spelled
    have here : Narrowing room phrases'.Begins s.advance.rest (.error error, after)
        (foldOnto operand' level left s) := by
      cases narrows s.advance with
      | same equal fine =>
        rw [ran] at fine
        rw [foldOnto_of_operator left found inside, ← equal, ran]
        exact .same rfl fine
      | overrun spelled reached failed =>
        rw [ran] at failed
        exact .overrun spelled reached failed
    rw [tokens]
    apply here.after (.cons (by rw [isOperator]; rfl) .nil)
    intro front begins
    exact Phrases.Begins.chain_link read.first read.links isOperator isSymbol inside begins

theorem narrows_chain (level : Operator → Bool) (recognises : Recognises operand phrases inner)
    (recognises' : Recognises operand' phrases' inner) (nests : phrases.Nests room)
    (narrows : Narrows room phrases'.Begins operand operand') :
    Narrows room (phrases'.chain level).Begins (chain operand level) (chain operand' level) := by
  intro s
  cases narrows s with
  | overrun spelled reached failed =>
    exact .overrun spelled { reached with begins := reached.begins.chain_first } (chain_fails_iff.mpr (.inl failed))
  | same equal fine =>
    rcases outcome : operand.run s with ⟨error | left, middle⟩
    · simp only [chain, ← equal, outcome]
      rw [outcome] at fine
      exact .same rfl fine
    · obtain ⟨d, phrase, closed⟩ := Reads.exists_closed recognises recognises' nests outcome
        (equal.symm.trans outcome)
      have further := foldOnto_narrowing recognises recognises' nests narrows left middle
        (⟨d, []⟩ : Phrases.Chain phrases' level)
      simp only [chain, ← equal, outcome]
      rw [phrase]
      apply further.after closed
      intro front begins
      simpa [Phrases.chain] using begins

end Rule

namespace Grammar

/-- What is asked of the rules for groups, the narrow and the wide one. -/
structure Compared (room : Int) (rule rule' : Rule Expr) (phrases phrases' : Phrases Expr) : Prop where
  recognises : Recognises rule phrases fun _ => false
  recognises' : Recognises rule' phrases' fun _ => false
  leads : phrases.Leads (· = .openParen)
  leads' : phrases'.Leads (· = .openParen)
  nests : phrases.Nests room
  opens : ∀ s, s.peek.kind = .openParen →
    Narrowing room (Phrases.primary phrases').Begins s.rest (rule.run s) (rule'.run s)

variable {room : Int} {rule rule' : Rule Expr} {phrases phrases' : Phrases Expr}

private theorem primary_fine {s : State} (other : s.peek.kind ≠ .openParen) {error : ParseError}
    (fails : (primary rule).Fails s error) : error.reason ≠ .nestedTooDeeply := by
  obtain rfl := eq_ofOperand_of_primary_fails other fails
  intro same
  have about : (Reason.ofOperand s.current).subject = some .openParen := congrArg Reason.subject same
  obtain ⟨token, found, isOpening⟩ := Reason.exists_of_subject_ofOperand about
  exact other (by rw [State.peek, found, Option.getD_some, isOpening])

private theorem narrows_primary (compared : Compared room rule rule' phrases phrases') :
    Narrows room (Phrases.primary phrases').Begins (primary rule) (primary rule') := by
  intro s
  by_cases opening : s.peek.kind = .openParen
  · have here := compared.opens s opening
    simpa only [primary, choose, opening] using here
  · have same : (primary rule).run s = (primary rule').run s := by
      cases kind : s.peek.kind with
      | openParen => exact absurd kind opening
      | _ => simp only [primary, choose, kind]
    exact .same same fun error failed => primary_fine opening failed

theorem narrows_additive (compared : Compared room rule rule' phrases phrases') :
    Narrows room (Phrases.additive phrases').Begins (additive rule) (additive rule') := by
  have products := narrows_chain Operator.isMultiplicative (recognises_primary compared.recognises compared.leads)
    (recognises_primary compared.recognises' compared.leads') (Phrases.nests_primary compared.nests)
    (narrows_primary compared)
  exact narrows_chain Operator.isAdditive (recognises_multiplicative compared.recognises compared.leads)
    (recognises_multiplicative compared.recognises' compared.leads')
    (Phrases.nests_chain (Phrases.nests_primary compared.nests)) products

private theorem narrows_binding (compared : Compared room rule rule' phrases phrases') :
    Narrows room (Phrases.binding phrases').Begins (binding rule) (binding rule') := by
  intro s
  refine Narrowing.andThen (.expect (by nofun)) fun name middle first => ?_
  refine Narrowing.andThen (.expect (by nofun)) fun equals last second => ?_
  obtain ⟨rfl, isName⟩ := expect_reads_iff.mp first
  obtain ⟨rfl, isEquals⟩ := expect_reads_iff.mp second
  have closed : Closed room [name, equals] :=
    .cons (by rw [isName]; rfl) (.cons (by rw [isEquals]; rfl) .nil)
  exact (narrows_additive compared last).map.after closed
    fun front => Phrases.begins_binding_equals isName isEquals

theorem narrows_statement (compared : Compared room rule rule' phrases phrases') :
    Narrows room (Phrases.statement phrases').Begins (statement rule) (statement rule') := by
  have binds := narrows_binding compared
  intro s
  by_cases isConst : s.peek.kind = .const
  · have declares : Narrowing room (Phrases.statement phrases').Begins s.rest
        ((declaration rule).run s) ((declaration rule').run s) := by
      refine Narrowing.andThen (Narrowing.map (.expect (by nofun))) fun word middle reads => ?_
      obtain ⟨token, rfl, isWord, rfl⟩ := keyword_reads_iff.mp reads
      exact (binds middle).map.after (.cons (by rw [isWord]; rfl) .nil)
        fun front => Phrases.Begins.declaration isWord
    simpa only [statement, choose, isConst] using declares
  by_cases isName : s.peek.kind = .identifier
  · have assigns : Narrowing room (Phrases.statement phrases').Begins s.rest
        ((assignment rule).run s) ((assignment rule').run s) :=
      (binds s).map.after .nil fun front => Phrases.Begins.assignment
    simpa only [statement, choose, isName] using assigns
  · have values : Narrowing room (Phrases.statement phrases').Begins s.rest
        ((additive rule).run s) ((additive rule').run s) := by
      cases narrows_additive compared s with
      | same equal fine => exact .same equal fine
      | @overrun front back opening spelled reached failed =>
        refine .overrun spelled { reached with begins := reached.begins.plain fun token first => ?_ } failed
        have head : s.current = some token := by
          rw [State.current, spelled, ← first]
          cases front <;> rfl
        simpa [State.peek, head] using isName
    simpa only [statement, choose] using values

theorem compared_of_opens {room wide : Nat} (opens : ∀ s : State, s.peek.kind = .openParen →
    Narrowing room (Phrases.primary (.group wide)).Begins s.rest ((group room).run s) ((group wide).run s)) :
    Compared room (group room) (group wide) (.group room) (.group wide) :=
  ⟨recognises_group room, recognises_group wide, Phrases.leads_group room, Phrases.leads_group wide,
    Phrases.nests_group room, opens⟩

private theorem narrows_group {room wide : Nat} (less : room < wide) {s : State}
    (opening : s.peek.kind = .openParen) :
    Narrowing room (Phrases.primary (.group wide)).Begins s.rest ((group room).run s) ((group wide).run s) := by
  induction room generalizing wide s with
  | zero =>
    -- The narrow reading gives up at once, while the wide one takes the parenthesis.
    obtain ⟨wide, rfl⟩ := Nat.exists_eq_succ_of_ne_zero (Nat.ne_of_gt less)
    obtain ⟨rest, depth⟩ := s
    cases rest with
    | nil => cases opening
    | cons token rest =>
      have isOpening : token.kind = .openParen := opening
      have begins := Phrases.Begins.parenthesised isOpening (@Phrases.begins_statement_nil (.group wide))
      have spelled : token :: rest = [] ++ token :: rest := rfl
      exact .overrun spelled ⟨isOpening, rfl, trivial, begins⟩ rfl
  | succ room ih =>
    obtain ⟨wide, rfl⟩ := Nat.exists_eq_succ_of_ne_zero (Nat.ne_zero_of_lt less)
    have inner := compared_of_opens fun s => ih (s := s) (Nat.lt_of_succ_lt_succ less)
    refine Narrowing.andThen (.expect (by nofun)) fun token middle first => ?_
    obtain ⟨rfl, isOpening⟩ := expect_reads_iff.mp first
    have inside := Narrowing.deeper middle (narrows_statement inner ⟨middle.rest, middle.depth + 1⟩)
    refine Narrowing.behind [token] (inside.andThen fun expr after _ => Narrowing.map (.expect (by nofun)))
      ?_ ?_ fun front => Phrases.Begins.parenthesised isOpening
    · rw [balance, balance, isOpening, Kind.step]
      omega
    · exact ⟨fun _ => by omega, trivial⟩

private theorem compared_group {room wide : Nat} (less : room < wide) :
    Compared room (group room) (group wide) (.group room) (.group wide) :=
  compared_of_opens fun _ => narrows_group less

/-- Outside all groups the whole limit is the room there is. -/
theorem run_within_outside {limit : Nat} {s : State} (outside : s.depth = 0) :
    (within limit statement).run s = (statement (group limit)).run s := by
  rw [run_within congruent_statement, outside, Nat.sub_zero]

def BeginsProgram (limit : Nat) (front : List Token) : Prop :=
  ∃ (ds : List (Phrases.statement (.group limit)).Derivation) (more : List Token),
    ds.flatMap (Phrases.statement (.group limit)).tokens = front ++ more

private theorem statementsOnto_narrowing {room wide : Nat} (less : room < wide) (done : List Expr) {s : State}
    (outside : s.depth = 0) :
    Narrowing room (BeginsProgram wide) s.rest
      ((statementsOnto room done s).result, (statementsOnto room done s).state)
      ((statementsOnto wide done s).result, (statementsOnto wide done s).state) := by
  have narrows := narrows_statement (compared_group less)
  fun_induction statementsOnto room done s with
  | case1 done s ended =>
    rw [statementsOnto_of_isAt done ended]
    exact .same rfl fun _ failed => by cases failed
  | case2 done s going expr after ran ih =>
    rw [run_within_outside outside] at ran
    cases narrows s with
    | overrun _ _ failed =>
      rw [ran] at failed
      cases failed
    | same equal fine =>
      have ran' := equal.symm.trans ran
      have room_recognises := recognises_statement (recognises_group room) (Phrases.leads_group room)
      have wide_recognises := recognises_statement (recognises_group wide) (Phrases.leads_group wide)
      obtain ⟨d, phrase, closed⟩ := Reads.exists_closed room_recognises wide_recognises
        (Phrases.nests_statement (Phrases.nests_group room)) ran ran'
      have outside' : after.depth = 0 := by
        obtain ⟨_, spelled, -⟩ := wide_recognises.reads_iff.mp ran'
        rw [← outside, spelled]
      rw [statementsOnto_of_reads done (by simpa using going) ((run_within_outside outside).trans ran'), phrase]
      apply (ih outside').after closed
      intro front begins
      obtain ⟨ds, more, begins⟩ := begins
      exact ⟨d :: ds, more, by rw [List.flatMap_cons, begins, List.append_assoc]⟩
  | case3 done s going error after ran =>
    rw [run_within_outside outside] at ran
    rw [statementsOnto_of_going done (by simpa using going), run_within_outside outside]
    have narrowing := narrows s
    rw [ran] at narrowing
    cases narrowing with
    | same equal fine =>
      exact .same (by rw [← equal]) fun other failed => Except.error.inj failed ▸ fine error rfl
    | overrun spelled reached failed =>
      obtain ⟨d, more, begins⟩ := reached.begins
      obtain rfl := Except.error.inj failed
      exact .overrun spelled { reached with begins := ⟨[d], more, by simpa using begins⟩ } rfl

end Grammar

/-- With less room a list of tokens is read as with more, or else there is a parenthesis
in it at which all the room is used up. -/
theorem parseWithin_narrowing {room wide : Nat} (less : room < wide) (tokens : List Token) :
    (parseWithin room tokens = parseWithin wide tokens ∧
      ∀ error, parseWithin room tokens = .error error → error.reason ≠ .nestedTooDeeply) ∨
    ∃ front opening back, tokens = front ++ opening :: back ∧
      Overrun room (Grammar.BeginsProgram wide) front opening ∧
      parseWithin room tokens = .error ⟨.nestedTooDeeply, some opening, none⟩ := by
  cases Grammar.statementsOnto_narrowing less [] (s := ⟨tokens, 0⟩) rfl with
  | same equal fine => exact .inl ⟨congrArg Prod.fst equal, fine⟩
  | overrun spelled reached failed => exact .inr ⟨_, _, _, spelled, reached, failed⟩

end Formula
