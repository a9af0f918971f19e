import Formula.Proofs.GrammarBeginnings
import Formula.Proofs.GrammarDiagnosis

/-! Where the rules of the grammar fail. The tokens in front of that place begin a phrase,
so none of them is at fault; and with the next token behind them the error is certain,
whatever else comes, because no rule looks further ahead than to one token. -/

namespace Formula

open Rule

/-- An error that is settled by the tokens `front` and the first of `back`. A token of the
kind that is missing could stand behind `front`; no other would be any better. -/
structure Blame (rule : Rule α) (begins : List Token → Prop) (error : ParseError)
    (front back : List Token) : Prop where
  found : error.found = back.head?
  diagnosis : Diagnosis front error
  recurs : error.Recurs error.found
  welcome : ∀ token, error.expected = some token.kind → begins (front ++ [token])
  begins : begins front
  final : ∀ rest depth, error.Recurs rest.head? →
    rule.Fails ⟨front ++ rest, depth⟩ { error with found := rest.head? }

def Blames (rule : Rule α) (begins : List Token → Prop) : Prop :=
  ∀ s error, rule.Fails s error → ∃ front back, s.rest = front ++ back ∧ Blame rule begins error front back

/-- The same where a token of the kind comes first, as the rule is only used there. -/
def BlamesAt (kind : Kind) (rule : Rule α) (begins : List Token → Prop) : Prop :=
  ∀ s error, s.peek.kind = kind → rule.Fails s error →
    ∃ front back, s.rest = front ++ back ∧ Blame rule begins error front back

namespace Blame

variable {rule : Rule α} {outer : Rule β} {begins wider : List Token → Prop} {error : ParseError}
  {front back lead : List Token}

theorem here {s : State} (empty : begins [])
    (fails : ∀ s' : State, s'.current = s.current → rule.Fails s' ⟨.ofOperand s.current, s.current, none⟩) :
    Blame rule begins ⟨.ofOperand s.current, s.current, none⟩ [] s.rest where
  found := rfl
  diagnosis := .first
  recurs := rfl
  welcome := nofun
  begins := empty
  final rest depth recurs := by
    have same : rest.head? = s.current := recurs
    rw [same]
    exact fails ⟨rest, depth⟩ same

/-- A failure at the next token, which is of none of the kinds that could come. -/
theorem missing {reason : Reason} {kind : Kind} (diagnosis : Diagnosis front ⟨reason, back.head?, some kind⟩)
    (lacks : ∀ token ∈ back.head?, token.kind ≠ kind ∧ (kind = .closeParen → token.operator? = none))
    (empty : begins front) (welcome : ∀ token, token.kind = kind → begins (front ++ [token]))
    (fails : ∀ rest depth,
      (∀ token ∈ rest.head?, token.kind ≠ kind ∧ (kind = .closeParen → token.operator? = none)) →
        rule.Fails ⟨front ++ rest, depth⟩ ⟨reason, rest.head?, some kind⟩) :
    Blame rule begins ⟨reason, back.head?, some kind⟩ front back where
  found := rfl
  diagnosis := diagnosis
  recurs := lacks
  welcome token same := welcome token (Option.some.inj same).symm
  begins := empty
  final := fails

/-- A failure behind what the rule around it has read. -/
theorem behind (blame : Blame rule begins error front back) (leadsOn : LeadsOn lead)
    (starts : ∀ next, (front = [] → next = []) → begins (front ++ next) → wider (lead ++ (front ++ next)))
    (fails : ∀ error rest depth, rest.head? = (front ++ back).head? →
      (∀ depth, rule.Fails ⟨rest, depth⟩ error) → outer.Fails ⟨lead ++ rest, depth⟩ error) :
    Blame outer wider error (lead ++ front) back where
  found := blame.found
  diagnosis := blame.diagnosis.behind leadsOn
  recurs := blame.recurs
  welcome token expected := by
    rw [List.append_assoc]
    exact starts [token] (fun empty => absurd empty (blame.diagnosis.ne_nil expected)) (blame.welcome token expected)
  begins := by simpa using starts [] (fun _ => rfl) (by simpa using blame.begins)
  final rest depth recurs := by
    rw [List.append_assoc]
    apply fails
    · exact blame.diagnosis.head?_eq blame.found recurs
    · exact fun depth => blame.final rest depth recurs

/-- A failure of the rule around it, which has read nothing before. -/
theorem within (blame : Blame rule begins error front back)
    (starts : ∀ next, (front = [] → next = []) → begins (front ++ next) → wider (front ++ next))
    (fails : ∀ error rest depth, rest.head? = (front ++ back).head? →
      (∀ depth, rule.Fails ⟨rest, depth⟩ error) → outer.Fails ⟨rest, depth⟩ error) :
    Blame outer wider error front back :=
  blame.behind .nil starts fails

end Blame

namespace Grammar

variable {rule operand : Rule Expr} {phrases : Phrases Expr} {inner level : Operator → Bool} {room : Int}

theorem primary_fails_iff {s : State} {error : ParseError} :
    (primary rule).Fails s error ↔
      match s.peek.kind with
      | .number => (∀ token ∈ s.current, Binary64.read? token.text = none) ∧
          error = ⟨.numeralInvalid, s.current, none⟩
      | .identifier => False
      | .const => error = ⟨.keywordMisplaced, s.current, none⟩
      | .openParen => rule.Fails s error
      | _ => error = ⟨.unexpected, s.current, none⟩ := by
  simp only [primary, choose_fails_iff]
  obtain ⟨rest, depth⟩ := s
  cases rest with
  | nil => simp [State.peek, State.current, Token.endOfInput, fail_fails_iff]
  | cons token rest =>
    cases kind : token.kind <;>
      simp only [State.peek, State.current, List.head?_cons, Option.getD_some, kind, fail_fails_iff]
    case identifier => simp [reference, map_fails_iff, expect_fails_iff, State.current, kind]
    case number =>
      simp only [numeral, refine_fails_iff, expect_fails_iff, expect_reads_iff, State.current,
        List.head?_cons, Option.some.injEq, forall_eq', kind, ne_eq, not_true_eq_false, false_and,
        false_or, Option.mem_def]
      constructor
      · rintro ⟨found, after, ⟨spelled, -⟩, judged⟩
        simp only [State.mk.injEq, List.cons.injEq] at spelled
        obtain ⟨⟨rfl, -⟩, -⟩ := spelled
        cases value : Binary64.read? token.text <;> simp_all
      · rintro ⟨noNumeral, rfl⟩
        exact ⟨token, ⟨rest, depth⟩, ⟨rfl, kind⟩, by simp [noNumeral]⟩

theorem eq_ofOperand_of_primary_fails {s : State} {error : ParseError} (other : s.peek.kind ≠ .openParen)
    (fails : (primary rule).Fails s error) : error = ⟨.ofOperand s.current, s.current, none⟩ := by
  have fails := primary_fails_iff.mp fails
  rw [Reason.ofOperand, ← State.peek]
  cases kind : s.peek.kind <;> simp_all

private theorem blames_primary (blames : BlamesAt .openParen rule (Phrases.primary phrases).Begins) :
    Blames (primary rule) (Phrases.primary phrases).Begins := by
  intro s error fails
  by_cases opening : s.peek.kind = .openParen
  · have inside := primary_fails_iff.mp fails
    simp only [opening] at inside
    obtain ⟨front, back, spelled, blame⟩ := blames s error opening inside
    refine ⟨front, back, spelled, blame.within (fun _ _ => id) fun error rest depth first later => ?_⟩
    have same : State.peek ⟨rest, depth⟩ = s.peek := by
      simp [State.peek, State.current, first, spelled]
    rw [primary_fails_iff]
    simpa [same, opening] using later depth
  · obtain rfl := eq_ofOperand_of_primary_fails opening fails
    refine ⟨[], s.rest, rfl, .here Phrases.begins_primary_nil fun s' next => ?_⟩
    have same : s'.peek = s.peek := by simp [State.peek, next]
    rw [primary_fails_iff] at fails ⊢
    rw [same, next]
    cases kind : s.peek.kind <;> simp_all

/-- A failure in a later operand: what is folded so far ends at the operator before it. -/
private theorem blame_of_foldOnto (recognises : Recognises operand phrases inner)
    (blames : Blames operand phrases.Begins) {left : Expr} {s : State} {error : ParseError}
    (fails : (foldOnto operand level left s).1 = .error error) :
    ∃ (links : List (Phrases.Link phrases level)) (sign : Token) (op : Operator) (front back : List Token),
      s.rest = links.flatMap Phrases.Link.tokens ++ sign :: (front ++ back) ∧
        sign.kind = .binaryOperator ∧ sign.text = op.symbol ∧ level op = true ∧
        Blame operand phrases.Begins error front back := by
  fun_induction foldOnto operand level left s with
  | case1 left s ended => cases fails
  | case2 left s op next right middle ran ih =>
    obtain ⟨found, inside⟩ := Option.filter_eq_some_iff.mp next
    obtain ⟨d, spelled, meant, behind⟩ := recognises.reads_iff.mp ran
    obtain ⟨links, sign', op', front, back, same, isOperator', isSymbol', inside', blame⟩ := ih fails
    obtain ⟨sign, first, isOperator, isSymbol⟩ := State.exists_sign found
    refine ⟨⟨sign, op, isOperator, isSymbol, inside, d⟩ :: links, sign', op', front, back, ?_,
      isOperator', isSymbol', inside', blame⟩
    rw [first, spelled, same]
    simp [Phrases.Link.tokens]
  | case3 left s op next other middle ran =>
    obtain ⟨found, inside⟩ := Option.filter_eq_some_iff.mp next
    obtain rfl := Except.error.inj fails
    obtain ⟨sign, first, isOperator, isSymbol⟩ := State.exists_sign found
    obtain ⟨front, back, spelled, blame⟩ := blames _ _ (congrArg Prod.fst ran)
    exact ⟨[], sign, op, front, back, by rw [first, spelled]; rfl, isOperator, isSymbol, inside, blame⟩

private theorem blame_behind_links (recognises : Recognises operand phrases inner) (nests : phrases.Nests room)
    (apart : ∀ op, level op = true → inner op = false) (d : phrases.Derivation)
    (links : List (Phrases.Link phrases level)) {sign : Token} {op : Operator} {error : ParseError}
    {front back : List Token} (isOperator : sign.kind = .binaryOperator) (isSymbol : sign.text = op.symbol)
    (inside : level op = true) (blame : Blame operand phrases.Begins error front back) :
    Blame (chain operand level) (phrases.chain level).Begins error
      (phrases.tokens d ++ links.flatMap Phrases.Link.tokens ++ [sign] ++ front) back := by
  have next : sign.operator? = some op := Token.operator?_eq_some_iff.mpr ⟨isOperator, isSymbol⟩
  have closed : Closed room (phrases.tokens d ++ links.flatMap Phrases.Link.tokens ++ [sign]) :=
    ((nests d).append (.flatMap fun link _ => link.closed nests)).append (.cons (by rw [isOperator]; rfl) .nil)
  apply blame.behind (.append_sign (Int.le_of_eq closed.level.symm) (by rw [isOperator]; rfl))
  · intro more _ begins
    simpa using Phrases.Begins.chain_link d links isOperator isSymbol inside begins
  · intro error rest depth _ again
    have signed : State.Rests inner ⟨sign :: rest, depth⟩ := by
      apply State.rests_cons_iff.mpr
      intro op' next'
      obtain rfl := Option.some.inj (next.symm.trans next')
      exact apart op inside
    have first := recognises.reads d (Phrases.rests_links apart links ⟨sign :: rest, depth⟩ signed)
    refine chain_fails_iff.mpr (.inr ⟨_, _, by simpa using first, ?_⟩)
    have folded := recognises.foldOnto_links apart (phrases.meaning d) links ⟨sign :: rest, depth⟩ signed
    rw [folded]
    exact foldOnto_of_fails _ (s := ⟨sign :: rest, depth⟩) next inside (again depth)

theorem blames_chain (recognises : Recognises operand phrases inner) (nests : phrases.Nests room)
    (apart : ∀ op, level op = true → inner op = false) (blames : Blames operand phrases.Begins) :
    Blames (chain operand level) (phrases.chain level).Begins := by
  intro s error fails
  rcases chain_fails_iff.mp fails with first | ⟨left, middle, reads, folds⟩
  · obtain ⟨front, back, spelled, blame⟩ := blames s error first
    exact ⟨front, back, spelled, blame.within (fun _ _ => Phrases.Begins.chain_first)
      fun error rest depth _ again => chain_fails_iff.mpr (.inl (again depth))⟩
  · obtain ⟨d, rfl, rfl, rests⟩ := recognises.reads_iff.mp reads
    obtain ⟨links, sign, op, front, back, spelled, isOperator, isSymbol, inside, blame⟩ :=
      blame_of_foldOnto recognises blames folds
    have moved := blame_behind_links recognises nests apart d links isOperator isSymbol inside blame
    exact ⟨_, back, by simp [spelled], moved⟩

theorem binding_fails_iff_of_nameless {s : State} {error : ParseError}
    (other : ∀ token, s.current = some token → token.kind ≠ .identifier) :
    (binding rule).Fails s error ↔ error = ⟨.nameMissing, s.current, some .identifier⟩ := by
  simp only [binding, andThen_fails_iff, expect_fails_iff]
  constructor
  · rintro (⟨-, same⟩ | ⟨name, after, first, -⟩)
    · exact same
    · obtain ⟨rfl, isName⟩ := expect_reads_iff.mp first
      exact absurd isName (other name rfl)
  · exact fun same => .inl ⟨other, same⟩

theorem declaration_fails_iff {word : Token} {rest : List Token} {depth : Nat} {error : ParseError}
    (isConst : word.kind = .const) :
    (declaration rule).Fails ⟨word :: rest, depth⟩ error ↔ (binding rule).Fails ⟨rest, depth⟩ error := by
  have reads : keyword.Reads ⟨word :: rest, depth⟩ word.text ⟨rest, depth⟩ :=
    keyword_reads_iff.mpr ⟨word, rfl, isConst, rfl⟩
  rw [declaration, andThen_fails_iff_of_reads reads, map_fails_iff]

section Group

variable (recognises : Recognises rule phrases fun _ => false) (leads : phrases.Leads (· = .openParen))
  (nests : phrases.Nests room) (blames : BlamesAt .openParen rule (Phrases.primary phrases).Begins)

include recognises leads nests blames

theorem blames_additive : Blames (additive rule) (Phrases.additive phrases).Begins := by
  have products : Blames (multiplicative rule) (Phrases.multiplicative phrases).Begins :=
    blames_chain (recognises_primary recognises leads) (Phrases.nests_primary nests) (fun _ _ => rfl)
      (blames_primary blames)
  exact blames_chain (recognises_multiplicative recognises leads)
    (Phrases.nests_chain (Phrases.nests_primary nests))
    (fun op inside => by simp [Operator.isMultiplicative_eq_not, inside]) products

theorem blames_binding : BlamesAt .identifier (binding rule) (Phrases.binding phrases).Begins := by
  intro s error begins fails
  obtain ⟨name, rest, depth, rfl, isName⟩ := State.exists_next begins (by decide)
  have behindName := (expect_andThen_fails_iff isName).mp fails
  rcases andThen_fails_iff.mp behindName with noEquals | ⟨equals, last, second, noInit⟩
  · obtain ⟨other, rfl⟩ := expect_fails_iff.mp noEquals
    refine ⟨[name], rest, rfl, .missing (@Diagnosis.equals [] name _ isName) ?_
      (Phrases.begins_binding_name isName) ?_ ?_⟩
    · exact fun token found => ⟨other token found, fun closing => absurd closing (by decide)⟩
    · exact fun equals isEquals => Phrases.begins_binding_equals isName isEquals Phrases.begins_additive_nil
    · intro rest depth lacks
      refine (expect_andThen_fails_iff isName).mpr (andThen_fails_iff.mpr (.inl (expect_fails_iff.mpr ?_)))
      exact ⟨fun token found => (lacks token found).1, rfl⟩
  · obtain ⟨same, isEquals⟩ := expect_reads_iff.mp second
    cases same
    obtain ⟨front, back, spelled, blame⟩ :=
      blames_additive recognises leads nests blames _ _ (map_fails_iff.mp noInit)
    have leadsOn : LeadsOn ([name] ++ [equals]) :=
      .append_sign (by simp [balance, isName, isEquals, Kind.step]) (by rw [isEquals]; rfl)
    refine ⟨name :: equals :: front, back, by simp [spelled], blame.behind leadsOn
      (fun _ _ => Phrases.begins_binding_equals isName isEquals) fun error rest depth _ again => ?_⟩
    exact (expect_andThen_fails_iff isName).mpr
      ((expect_andThen_fails_iff isEquals).mpr (map_fails_iff.mpr (again depth)))

private theorem blames_declaration : BlamesAt .const (declaration rule) (Phrases.statement phrases).Begins := by
  intro s error begins fails
  obtain ⟨word, rest, depth, rfl, isWord⟩ := State.exists_next begins (by decide)
  have noBinding := (declaration_fails_iff isWord).mp fails
  by_cases isName : (State.peek ⟨rest, depth⟩).kind = .identifier
  · obtain ⟨front, back, spelled, blame⟩ := blames_binding recognises leads nests blames _ _ isName noBinding
    have leadsOn : LeadsOn ([] ++ [word]) :=
      .append_sign (by simp [balance, isWord, Kind.step]) (by rw [isWord]; rfl)
    exact ⟨word :: front, back, by simp [← spelled], blame.behind leadsOn
      (fun _ _ => Phrases.Begins.declaration isWord)
      fun error rest depth _ again => (declaration_fails_iff isWord).mpr (again depth)⟩
  · have other := State.kind_ne_of_peek isName
    obtain rfl := (binding_fails_iff_of_nameless other).mp noBinding
    refine ⟨[word], rest, rfl, .missing (@Diagnosis.name [] word _ isWord) ?_
      (Phrases.Begins.declaration isWord Phrases.begins_binding_nil) ?_ ?_⟩
    · exact fun token found => ⟨other token found, fun closing => absurd closing (by decide)⟩
    · exact fun name isName => Phrases.Begins.declaration isWord (Phrases.begins_binding_name isName)
    · intro rest depth lacks
      have nameless : ∀ token, State.current ⟨rest, depth⟩ = some token → token.kind ≠ .identifier :=
        fun token found => (lacks token found).1
      exact (declaration_fails_iff isWord).mpr ((binding_fails_iff_of_nameless nameless).mpr rfl)

theorem blames_statement : Blames (statement rule) (Phrases.statement phrases).Begins := by
  intro s error fails
  -- Which statement it is depends on the next token, and that stays the same.
  have same {rest : List Token} {depth : Nat} (first : rest.head? = s.rest.head?) :
      (State.peek ⟨rest, depth⟩).kind = s.peek.kind := by
    simp [State.peek, State.current, first]
  simp only [statement, choose_fails_iff] at fails
  split at fails
  · next isConst =>
    obtain ⟨front, back, spelled, blame⟩ := blames_declaration recognises leads nests blames _ _ isConst fails
    refine ⟨front, back, spelled, blame.within (fun _ _ => id) fun error rest depth first again => ?_⟩
    simp only [statement, choose_fails_iff, same (spelled ▸ first), isConst]
    exact again depth
  · next isName =>
    obtain ⟨front, back, spelled, blame⟩ :=
      blames_binding recognises leads nests blames _ _ isName (map_fails_iff.mp fails)
    refine ⟨front, back, spelled, blame.within (fun _ _ => Phrases.Begins.assignment)
      fun error rest depth first again => ?_⟩
    simp only [statement, choose_fails_iff, same (spelled ▸ first), isName]
    exact map_fails_iff.mpr (again depth)
  · next noConst noName =>
    obtain ⟨front, back, spelled, blame⟩ := blames_additive recognises leads nests blames _ _ fails
    refine ⟨front, back, spelled, blame.within
      (fun next empty => Phrases.Begins.plain fun token first isName => noName ?_)
      fun error rest depth first again => ?_⟩
    · cases front with
      | nil =>
        rw [empty rfl] at first
        cases first
      | cons head front =>
        obtain rfl := Option.some.inj first
        simpa [State.peek, State.current, spelled] using isName
    · simp only [statement, choose_fails_iff, same (spelled ▸ first)]
      exact again depth

end Group

/-- Where no further group may be opened another operand still may stand. -/
theorem blames_group (room : Nat) :
    BlamesAt .openParen (group room) (Phrases.primary (.group room)).Begins := by
  induction room with
  | zero =>
    intro s error opens fails
    obtain rfl := fail_fails_iff.mp fails
    have reason : Reason.nestedTooDeeply = .ofOperand s.current := by
      rw [Reason.ofOperand, ← State.peek, opens]
    rw [reason]
    exact ⟨[], s.rest, rfl, .here Phrases.begins_primary_nil fun s' next => fail_fails_iff.mpr (by rw [next, reason])⟩
  | succ room ih =>
    have inner := recognises_statement (recognises_group room) (Phrases.leads_group room)
    have nests := Phrases.nests_statement (Phrases.nests_group room)
    have blames := blames_statement (recognises_group room) (Phrases.leads_group room) (Phrases.nests_group room) ih
    intro s error opens fails
    obtain ⟨opening, rest, depth, rfl, isOpening⟩ := State.exists_next opens (by decide)
    have behindOpening := (expect_andThen_fails_iff isOpening).mp fails
    rcases andThen_fails_iff.mp behindOpening with noInside | ⟨expr, last, inside, noClosing⟩
    · obtain ⟨front, back, spelled, blame⟩ := blames _ _ (deeper_fails_iff.mp noInside)
      have leadsOn : LeadsOn ([] ++ [opening]) :=
        .append_sign (by simp [balance, isOpening, Kind.step]) (by rw [isOpening]; rfl)
      refine ⟨opening :: front, back, by simp [← spelled], blame.behind leadsOn
        (fun _ _ => Phrases.Begins.parenthesised isOpening) fun error rest depth _ again => ?_⟩
      exact (expect_andThen_fails_iff isOpening).mpr
        (andThen_fails_iff.mpr (.inl (deeper_fails_iff.mpr (again (depth + 1)))))
    · obtain ⟨deep, reads, rfl⟩ := deeper_reads_iff.mp inside
      obtain ⟨d, spelled, rfl, rests⟩ := inner.reads_iff.mp reads
      obtain ⟨other, rfl⟩ := expect_fails_iff.mp (map_fails_iff.mp noClosing)
      have tokens : rest = (Phrases.statement (.group room)).tokens d ++ deep.rest := (State.mk.inj spelled).1
      have level : balance (opening :: (Phrases.statement (.group room)).tokens d) = 1 := by
        rw [balance, (nests d).level, isOpening]
        rfl
      refine ⟨opening :: (Phrases.statement (.group room)).tokens d, deep.rest, by simp [tokens],
        .missing (.closing (by omega)) ?_ (Phrases.Begins.parenthesised isOpening ⟨d, [], by simp⟩) ?_ ?_⟩
      · exact fun token found => ⟨other token found, fun _ => State.rests_all_iff.mp rests token found⟩
      · intro closing isClosing
        let whole : Phrases.Parenthesised (.statement (.group room)) := ⟨opening, isOpening, d, closing, isClosing⟩
        exact ⟨.group whole, [], by simp [Phrases.primary, Phrases.group, Phrases.parenthesised, whole]⟩
      · intro rest depth lacks
        have stop : State.Rests (fun _ => true) ⟨rest, depth + 1⟩ :=
          State.rests_all_iff.mpr fun token found => (lacks token found).2 rfl
        have read : (statement (group room)).deeper.Reads
            ⟨(Phrases.statement (.group room)).tokens d ++ rest, depth⟩ _ ⟨rest, depth⟩ :=
          deeper_reads_iff.mpr ⟨⟨rest, depth + 1⟩, inner.reads d stop, rfl⟩
        refine (expect_andThen_fails_iff isOpening).mpr ((andThen_fails_iff_of_reads read).mpr
          (map_fails_iff.mpr (expect_fails_iff.mpr ?_)))
        exact ⟨fun token found => (lacks token found).1, rfl⟩

end Grammar
end Formula
