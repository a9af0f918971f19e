import Formula.Source
import Formula.Proofs.GrammarPhrases
import Formula.Proofs.GrammarRoom

/-! Every rule of the grammar reads the phrases of its sort and no others. How far a
chain goes depends on what follows it: a phrase is read where no operator stands
behind it that would carry it on. -/

namespace Formula

open Rule

/-- The rule reads exactly the phrases of the sort, and stops before what is no
operator of the level. -/
structure Recognises (rule : Rule α) (phrases : Phrases α) (level : Operator → Bool) : Prop where
  reads_iff : ∀ {s meaning after}, rule.Reads s meaning after ↔
    ∃ d, s = ⟨phrases.tokens d ++ after.rest, after.depth⟩ ∧ phrases.meaning d = meaning ∧
      after.Rests level

namespace Recognises

variable {rule : Rule α} {phrases : Phrases α} {level : Operator → Bool}

theorem reads (recognises : Recognises rule phrases level) (d : phrases.Derivation) {after : State}
    (rests : after.Rests level) :
    rule.Reads ⟨phrases.tokens d ++ after.rest, after.depth⟩ (phrases.meaning d) after :=
  recognises.reads_iff.mpr ⟨d, rfl, rfl, rests⟩

end Recognises

namespace State

/-- What stands behind a phrase that has a first token follows from that token. -/
theorem rests_append {phrases : Phrases α} {kinds : Kind → Bool} {level : Operator → Bool}
    (leads : phrases.Leads kinds) (others : kinds .binaryOperator = false) (d : phrases.Derivation)
    (rest : List Token) (depth : Nat) : State.Rests level ⟨phrases.tokens d ++ rest, depth⟩ := by
  obtain ⟨token, more, first, kind⟩ := leads d
  rw [first]
  apply rests_of_kind
  intro same
  rw [same, others] at kind
  cases kind

end State

namespace Phrases

variable {operand : Phrases Expr} {level : Operator → Bool}

/-- Behind an operand of a chain there is an operator of the chain, or its end. -/
theorem rests_links {inner : Operator → Bool} (apart : ∀ op, level op = true → inner op = false)
    (links : List (Link operand level)) (after : State) (rests : after.Rests inner) :
    State.Rests inner ⟨links.flatMap Link.tokens ++ after.rest, after.depth⟩ := by
  cases links with
  | nil => exact rests
  | cons link links =>
    apply State.rests_cons_iff.mpr
    intro op next
    rw [link.operator?_sign, Option.some.injEq] at next
    exact next ▸ apart link.op link.inside

end Phrases

namespace Recognises

variable {operand : Rule Expr} {phrases : Phrases Expr} {inner level : Operator → Bool}

theorem foldOnto_links (recognises : Recognises operand phrases inner)
    (apart : ∀ op, level op = true → inner op = false) (left : Expr)
    (links : List (Phrases.Link phrases level)) (after : State) (rests : after.Rests inner) :
    foldOnto operand level left ⟨links.flatMap Phrases.Link.tokens ++ after.rest, after.depth⟩ =
      foldOnto operand level (Phrases.fold left links) after := by
  induction links generalizing left with
  | nil => rfl
  | cons link links ih =>
    have behind := Phrases.rests_links apart links after rests
    have reads := recognises.reads link.right behind
    have step : foldOnto operand level left
          ⟨(link :: links).flatMap Phrases.Link.tokens ++ after.rest, after.depth⟩ =
        foldOnto operand level (.binary left link.op (phrases.meaning link.right))
          ⟨links.flatMap Phrases.Link.tokens ++ after.rest, after.depth⟩ := by
      refine foldOnto_of_reads left _ ?_ link.inside ?_
      · exact link.operator?_sign
      · simpa [State.advance, Phrases.Link.tokens] using reads
    exact step.trans (ih _)

/-- What a chain folds in, read backwards from its outcome. -/
private theorem links_of_foldOnto (recognises : Recognises operand phrases inner) {left expr : Expr}
    {s after : State} (folded : foldOnto operand level left s = (.ok expr, after))
    (rests : s.Rests inner) :
    ∃ links : List (Phrases.Link phrases level),
      s = ⟨links.flatMap Phrases.Link.tokens ++ after.rest, after.depth⟩ ∧
        Phrases.fold left links = expr ∧ after.Rests inner ∧ after.Rests level := by
  fun_induction foldOnto operand level left s with
  | case1 left s ended =>
    obtain ⟨rfl, rfl⟩ : left = expr ∧ s = after := by simpa using folded
    exact ⟨[], rfl, rfl, rests, ended⟩
  | case2 left s op next right middle ran ih =>
    obtain ⟨found, inside⟩ := Option.filter_eq_some_iff.mp next
    obtain ⟨d, spelled, meant, behind⟩ := recognises.reads_iff.mp ran
    obtain ⟨links, same, fold, ends⟩ := ih folded behind
    obtain ⟨sign, next, isOperator, isSymbol⟩ := State.exists_sign found
    refine ⟨⟨sign, op, isOperator, isSymbol, inside, d⟩ :: links, ?_, ?_, ends⟩
    · have depth : s.depth = after.depth := by
        rw [show s.depth = s.advance.depth from rfl, spelled, same]
      rw [next, spelled, same, depth]
      simp [Phrases.Link.tokens]
    · rw [← fold, ← meant]
      rfl
  | case3 left s op next error middle ran => simp at folded

theorem chain (level : Operator → Bool) (recognises : Recognises operand phrases inner)
    (apart : ∀ op, level op = true → inner op = false) :
    Recognises (Rule.chain operand level) (phrases.chain level) (fun op => inner op || level op) := by
  refine ⟨fun {s expr after} => ?_⟩
  rw [chain_reads_iff]
  constructor
  · rintro ⟨left, middle, first, folded⟩
    obtain ⟨d, rfl, rfl, behind⟩ := recognises.reads_iff.mp first
    obtain ⟨links, rfl, fold, ends⟩ := recognises.links_of_foldOnto folded behind
    exact ⟨⟨d, links⟩, by simp [Phrases.chain], fold, State.rests_or_iff.mpr ends⟩
  · rintro ⟨d, rfl, rfl, rests⟩
    obtain ⟨inside, outside⟩ := State.rests_or_iff.mp rests
    refine ⟨phrases.meaning d.first, ⟨d.links.flatMap Phrases.Link.tokens ++ after.rest, after.depth⟩,
      ?_, ?_⟩
    · simpa [Phrases.chain] using
        recognises.reads d.first (Phrases.rests_links apart d.links _ inside)
    · rw [recognises.foldOnto_links apart _ _ _ inside, foldOnto_of_rests _ outside]
      rfl

end Recognises

namespace Grammar

theorem numeral_reads_iff {s after : State} {expr : Expr} :
    numeral.Reads s expr after ↔ ∃ token value, s = ⟨token :: after.rest, after.depth⟩ ∧
      token.kind = .number ∧ Binary64.read? token.text = some value ∧ expr = .number value := by
  simp only [numeral, refine_reads_iff, expect_reads_iff]
  constructor
  · rintro ⟨token, ⟨spelled, isNumber⟩, judged⟩
    cases value : Binary64.read? token.text with
    | none => simp [value] at judged
    | some value' =>
      simp only [value, Except.ok.injEq] at judged
      exact ⟨token, value', spelled, isNumber, value, judged.symm⟩
  · rintro ⟨token, value, spelled, isNumber, isNumeral, rfl⟩
    exact ⟨token, ⟨spelled, isNumber⟩, by simp [isNumeral]⟩

theorem reference_reads_iff {s after : State} {expr : Expr} :
    reference.Reads s expr after ↔ ∃ token, s = ⟨token :: after.rest, after.depth⟩ ∧
      token.kind = .identifier ∧ .reference token.text = expr := by
  simp only [reference, map_reads_iff, expect_reads_iff, and_assoc]

variable {rule : Rule Expr} {phrases : Phrases Expr}

/-- A group, where one is allowed, begins with a parenthesis; the other operands are
told apart from it and from each other by the kind of their one token. -/
theorem recognises_primary (recognises : Recognises rule phrases fun _ => false)
    (leads : phrases.Leads (· = .openParen)) :
    Recognises (primary rule) (.primary phrases) fun _ => false := by
  refine ⟨fun {s expr after} => ?_⟩
  constructor
  · intro reads
    simp only [primary, choose_reads_iff] at reads
    split at reads
    · obtain ⟨token, value, spelled, isNumber, isNumeral, rfl⟩ := numeral_reads_iff.mp reads
      exact ⟨.number token value isNumber isNumeral, spelled, rfl, by simp [State.rests_iff]⟩
    · obtain ⟨token, spelled, isName, rfl⟩ := reference_reads_iff.mp reads
      exact ⟨.name token isName, spelled, rfl, by simp [State.rests_iff]⟩
    · exact absurd reads not_fail_reads
    · obtain ⟨d, spelled, meant, rests⟩ := recognises.reads_iff.mp reads
      exact ⟨.group d, spelled, meant, rests⟩
    · exact absurd reads not_fail_reads
  · rintro ⟨d, rfl, rfl, rests⟩
    cases d with
    | number token value isNumber isNumeral =>
      have reads : numeral.Reads ⟨token :: after.rest, after.depth⟩ (.number value) after :=
        numeral_reads_iff.mpr ⟨token, value, rfl, isNumber, isNumeral, rfl⟩
      simpa [primary, choose_reads_iff, State.peek, State.current, Phrases.primary, isNumber] using reads
    | name token isName =>
      have reads : reference.Reads ⟨token :: after.rest, after.depth⟩ (.reference token.text) after :=
        reference_reads_iff.mpr ⟨token, rfl, isName, rfl⟩
      simpa [primary, choose_reads_iff, State.peek, State.current, Phrases.primary, isName] using reads
    | group d =>
      obtain ⟨token, rest, first, isOpening⟩ := leads d
      have reads := recognises.reads d rests
      simpa [primary, choose_reads_iff, State.peek, State.current, Phrases.primary, first,
        of_decide_eq_true isOpening] using reads

theorem recognises_multiplicative (recognises : Recognises rule phrases fun _ => false)
    (leads : phrases.Leads (· = .openParen)) :
    Recognises (multiplicative rule) (.multiplicative phrases) Operator.isMultiplicative := by
  have product := (recognises_primary recognises leads).chain Operator.isMultiplicative
    (fun _ _ => rfl)
  simpa [multiplicative, Phrases.multiplicative] using product

theorem recognises_additive (recognises : Recognises rule phrases fun _ => false)
    (leads : phrases.Leads (· = .openParen)) :
    Recognises (additive rule) (.additive phrases) fun _ => true := by
  have sum := (recognises_multiplicative recognises leads).chain Operator.isAdditive
    (fun op inside => by simp [Operator.isMultiplicative_eq_not, inside])
  simpa [additive, Phrases.additive, Operator.isMultiplicative_eq_not] using sum

theorem recognises_binding (recognises : Recognises rule phrases fun _ => false)
    (leads : phrases.Leads (· = .openParen)) :
    Recognises (binding rule) (.binding phrases) fun _ => true := by
  refine ⟨fun {s bound after} => ?_⟩
  simp only [binding, andThen_reads_iff, map_reads_iff, expect_reads_iff]
  constructor
  · rintro ⟨name, middle, ⟨rfl, isName⟩, equals, last, ⟨same, isEquals⟩, init, reads, rfl⟩
    obtain ⟨d, rfl, rfl, rests⟩ := (recognises_additive recognises leads).reads_iff.mp reads
    subst same
    exact ⟨⟨name, isName, equals, isEquals, d⟩, rfl, rfl, rests⟩
  · rintro ⟨d, rfl, rfl, rests⟩
    exact ⟨d.name, _, ⟨rfl, d.isName⟩, d.equals, _, ⟨rfl, d.isEquals⟩, _,
      (recognises_additive recognises leads).reads d.init rests, rfl⟩

theorem keyword_reads_iff {s after : State} {word : String} :
    keyword.Reads s word after ↔ ∃ token, s = ⟨token :: after.rest, after.depth⟩ ∧
      token.kind = .const ∧ token.text = word := by
  simp only [keyword, map_reads_iff, expect_reads_iff, and_assoc]

theorem recognises_statement (recognises : Recognises rule phrases fun _ => false)
    (leads : phrases.Leads (· = .openParen)) :
    Recognises (statement rule) (.statement phrases) fun _ => true := by
  have binds := recognises_binding recognises leads
  have sums := recognises_additive recognises leads
  refine ⟨fun {s expr after} => ?_⟩
  constructor
  · intro reads
    simp only [statement, choose_reads_iff] at reads
    split at reads
    · simp only [declaration, andThen_reads_iff, map_reads_iff, keyword_reads_iff] at reads
      obtain ⟨word, middle, ⟨token, rfl, isConst, rfl⟩, bound, reads, rfl⟩ := reads
      obtain ⟨d, rfl, rfl, rests⟩ := binds.reads_iff.mp reads
      exact ⟨.declaration token isConst d, rfl, rfl, rests⟩
    · simp only [assignment, map_reads_iff] at reads
      obtain ⟨bound, reads, rfl⟩ := reads
      obtain ⟨d, rfl, rfl, rests⟩ := binds.reads_iff.mp reads
      exact ⟨.assignment d, rfl, rfl, rests⟩
    · next noConst noName =>
      obtain ⟨d, rfl, rfl, rests⟩ := sums.reads_iff.mp reads
      refine ⟨.plain d ?_, rfl, rfl, rests⟩
      intro token first isName
      apply noName
      obtain ⟨head, rest, spelled, -⟩ := Phrases.leads_additive leads d
      simp only [spelled, List.head?_cons, Option.mem_def, Option.some.injEq] at first
      simpa [State.peek, State.current, spelled, first] using isName
  · rintro ⟨d, rfl, rfl, rests⟩
    cases d with
    | declaration word isConst d =>
      have reads : (declaration rule).Reads
          ⟨word :: ((Phrases.binding phrases).tokens d ++ after.rest), after.depth⟩ _ after :=
        andThen_reads_iff.mpr ⟨word.text, _, keyword_reads_iff.mpr ⟨word, rfl, isConst, rfl⟩,
          map_reads_iff.mpr ⟨_, binds.reads d rests, rfl⟩⟩
      simpa [statement, choose_reads_iff, State.peek, State.current, Phrases.statement, isConst] using reads
    | assignment d =>
      have reads : (assignment rule).Reads _ _ after := map_reads_iff.mpr ⟨_, binds.reads d rests, rfl⟩
      simpa [statement, choose_reads_iff, State.peek, State.current, Phrases.statement,
        Phrases.binding, d.isName] using reads
    | plain d noName =>
      have reads := sums.reads d rests
      obtain ⟨head, rest, spelled, begins⟩ := Phrases.leads_additive leads d
      have other : head.kind ≠ .identifier := noName head (by simp [spelled])
      simp only [statement, choose_reads_iff, Phrases.statement, spelled, State.peek, State.current,
        List.cons_append, List.head?_cons, Option.getD_some]
      rw [spelled] at reads
      cases kind : head.kind <;> simp_all [Kind.beginsOperand]

/-- What is inside parentheses is read one group deeper, and the parentheses end it. -/
theorem recognises_group (room : Nat) :
    Recognises (group room) (.group room) fun _ => false := by
  induction room with
  | zero =>
    refine ⟨fun {s expr after} => ?_⟩
    exact ⟨fun reads => absurd reads not_fail_reads, fun ⟨d, _⟩ => d.elim⟩
  | succ room ih =>
    have inner := recognises_statement ih (Phrases.leads_group room)
    refine ⟨fun {s expr after} => ?_⟩
    simp only [group, andThen_reads_iff, map_reads_iff, expect_reads_iff, deeper_reads_iff]
    constructor
    · rintro ⟨opening, middle, ⟨rfl, isOpening⟩, meaning, last, ⟨deep, reads, rfl⟩, closing,
        ⟨same, isClosing⟩, rfl⟩
      obtain ⟨d, spelled, rfl, -⟩ := inner.reads_iff.mp reads
      simp only [State.mk.injEq] at spelled same
      refine ⟨⟨opening, isOpening, d, closing, isClosing⟩, ?_, rfl, by simp [State.rests_iff]⟩
      simp only [Phrases.group, Phrases.parenthesised, State.mk.injEq]
      refine ⟨by simp [spelled.1, same.1], ?_⟩
      omega
    · rintro ⟨d, rfl, rfl, -⟩
      have behind : State.Rests (fun _ => true) ⟨d.closing :: after.rest, after.depth + 1⟩ :=
        State.rests_of_kind (by simp [d.isClosing])
      have whole : (Phrases.group (room + 1)).tokens d ++ after.rest =
          d.opening :: ((Phrases.statement (.group room)).tokens d.inside ++ d.closing :: after.rest) := by
        simp [Phrases.group, Phrases.parenthesised]
      rw [whole]
      exact ⟨d.opening, ⟨_, after.depth⟩, ⟨rfl, d.isOpening⟩, _, _, ⟨_, inner.reads d.inside behind, rfl⟩,
        d.closing, ⟨rfl, d.isClosing⟩, rfl⟩

end Grammar
end Formula
