import Formula.Rule

/-! What a rule reads and where it fails, for each way of making rules. A reading
names the state it leaves; a failure names its error alone, because nothing is
read behind it. -/

namespace Formula

namespace State

theorem exists_sign {s : State} {op : Operator} (next : s.operator? = some op) :
    ∃ sign, s = ⟨sign :: s.advance.rest, s.depth⟩ ∧ sign.kind = .binaryOperator ∧ sign.text = op.symbol := by
  obtain ⟨tokens, depth⟩ := s
  cases tokens with
  | nil => cases (Token.operator?_eq_some_iff.mp next).1
  | cons sign tokens => exact ⟨sign, rfl, Token.operator?_eq_some_iff.mp next⟩

theorem exists_next {s : State} {kind : Kind} (next : s.peek.kind = kind) (inside : kind ≠ .endOfInput) :
    ∃ token rest depth, s = ⟨token :: rest, depth⟩ ∧ token.kind = kind := by
  obtain ⟨rest, depth⟩ := s
  cases rest with
  | nil => exact absurd next.symm inside
  | cons token rest => exact ⟨token, rest, depth, rfl, next⟩

theorem kind_ne_of_peek {s : State} {kind : Kind} (other : s.peek.kind ≠ kind) (token : Token)
    (next : s.current = some token) : token.kind ≠ kind := by
  rwa [peek, next] at other

/-- No operator of the level comes next. -/
def Rests (level : Operator → Bool) (s : State) : Prop := s.operator?.filter level = none

theorem rests_iff {level : Operator → Bool} {s : State} :
    s.Rests level ↔ ∀ op, s.operator? = some op → level op = false := by
  simp [Rests, Option.filter_eq_none_iff]

theorem rests_or_iff {first second : Operator → Bool} {s : State} :
    s.Rests (fun op => first op || second op) ↔ s.Rests first ∧ s.Rests second := by
  simp only [rests_iff, Bool.or_eq_false_iff]
  exact ⟨fun rests => ⟨fun op next => (rests op next).1, fun op next => (rests op next).2⟩,
    fun rests op next => ⟨rests.1 op next, rests.2 op next⟩⟩

theorem rests_cons_iff {level : Operator → Bool} {token : Token} {rest : List Token} {depth : Nat} :
    State.Rests level ⟨token :: rest, depth⟩ ↔ ∀ op, token.operator? = some op → level op = false :=
  rests_iff

theorem rests_of_peek {level : Operator → Bool} {s : State} (other : s.peek.kind ≠ .binaryOperator) :
    s.Rests level :=
  rests_iff.mpr fun _ next => absurd (Token.operator?_eq_some_iff.mp next).1 other

theorem rests_all_iff {s : State} :
    s.Rests (fun _ => true) ↔ ∀ token, s.current = some token → token.operator? = none := by
  obtain ⟨rest, depth⟩ := s
  cases rest with
  | nil => exact iff_of_true (rests_of_peek nofun) nofun
  | cons token rest => simp [rests_cons_iff, State.current, Option.eq_none_iff_forall_ne_some]

theorem rests_of_kind {level : Operator → Bool} {token : Token} {rest : List Token} {depth : Nat}
    (other : token.kind ≠ .binaryOperator) : State.Rests level ⟨token :: rest, depth⟩ :=
  rests_of_peek other

theorem rests_nil {level : Operator → Bool} {depth : Nat} : State.Rests level ⟨[], depth⟩ :=
  rests_of_peek nofun

end State

namespace Rule

/-- The rule accepts a phrase at `s`, with this meaning, and leaves `after`. -/
def Reads (rule : Rule α) (s : State) (meaning : α) (after : State) : Prop :=
  rule.run s = (.ok meaning, after)

/-- The rule accepts no phrase at `s`, and this is why. -/
def Fails (rule : Rule α) (s : State) (error : ParseError) : Prop := (rule.run s).1 = .error error

variable {rule : Rule α} {s after : State} {error : ParseError}

theorem Reads.unique {meaning other : α} {last : State} (reads : rule.Reads s meaning after)
    (again : rule.Reads s other last) : meaning = other ∧ after = last := by
  rw [Reads, again, Prod.mk.injEq, Except.ok.injEq] at reads
  exact ⟨reads.1.symm, reads.2.symm⟩

theorem expect_reads_iff {kind : Kind} {reason : Reason} {token : Token} :
    (expect kind reason).Reads s token after ↔
      s = ⟨token :: after.rest, after.depth⟩ ∧ token.kind = kind := by
  obtain ⟨tokens, depth⟩ := s
  obtain ⟨rest, last⟩ := after
  cases tokens with
  | nil => simp [Reads, expect]
  | cons next tokens =>
    simp only [Reads, expect, Prod.mk.injEq, State.mk.injEq, List.cons.injEq]
    split
    · next same =>
      simp only [Except.ok.injEq]
      constructor
      · rintro ⟨rfl, rfl, rfl⟩; exact ⟨⟨⟨rfl, rfl⟩, rfl⟩, same⟩
      · rintro ⟨⟨⟨rfl, rfl⟩, rfl⟩, -⟩; exact ⟨rfl, rfl, rfl⟩
    · next other =>
      constructor
      · rintro ⟨wrong, -⟩; cases wrong
      · rintro ⟨⟨⟨rfl, -⟩, -⟩, same⟩; exact absurd same other

theorem expect_fails_iff {kind : Kind} {reason : Reason} :
    (expect kind reason).Fails s error ↔
      (∀ token, s.current = some token → token.kind ≠ kind) ∧
        error = ⟨reason, s.current, some kind⟩ := by
  obtain ⟨tokens, depth⟩ := s
  cases tokens with
  | nil => simp [Fails, expect, State.current, eq_comm]
  | cons next tokens =>
    simp only [Fails, expect, State.current, List.head?_cons, Option.some.injEq, forall_eq']
    split
    · next same => simp [same]
    · next other => simp [other, eq_comm]

theorem fail_fails_iff {reason : Reason} :
    (fail reason : Rule α).Fails s error ↔ error = ⟨reason, s.current, none⟩ := by
  simp [Fails, fail, eq_comm]

theorem not_fail_reads {reason : Reason} {meaning : α} :
    ¬ (fail reason).Reads s meaning after := by
  simp [Reads, fail]

theorem refine_reads_iff {judge : α → Except ParseError β} {result : β} :
    (rule.refine judge).Reads s result after ↔
      ∃ meaning, rule.Reads s meaning after ∧ judge meaning = .ok result := by
  rcases outcome : rule.run s with ⟨_ | meaning, last⟩ <;>
    simp [Reads, refine, outcome, Except.bind, and_assoc, and_comm]

theorem refine_fails_iff {judge : α → Except ParseError β} :
    (rule.refine judge).Fails s error ↔ rule.Fails s error ∨
      ∃ meaning after, rule.Reads s meaning after ∧ judge meaning = .error error := by
  rcases outcome : rule.run s with ⟨_ | meaning, last⟩ <;>
    simp [Fails, Reads, refine, outcome, Except.bind, and_assoc]

theorem map_reads_iff {f : α → β} {result : β} :
    (rule.map f).Reads s result after ↔ ∃ meaning, rule.Reads s meaning after ∧ f meaning = result := by
  simp [map, refine_reads_iff]

theorem map_fails_iff {f : α → β} : (rule.map f).Fails s error ↔ rule.Fails s error := by
  simp [map, refine_fails_iff]

theorem andThen_reads_iff {next : α → Rule β} {result : β} :
    (rule.andThen next).Reads s result after ↔
      ∃ meaning middle, rule.Reads s meaning middle ∧ (next meaning).Reads middle result after := by
  rcases outcome : rule.run s with ⟨_ | meaning, middle⟩ <;>
    simp [Reads, andThen, outcome, and_assoc]

theorem andThen_fails_iff {next : α → Rule β} :
    (rule.andThen next).Fails s error ↔ rule.Fails s error ∨
      ∃ meaning middle, rule.Reads s meaning middle ∧ (next meaning).Fails middle error := by
  rcases outcome : rule.run s with ⟨_ | meaning, middle⟩ <;>
    simp [Fails, Reads, andThen, outcome, and_assoc]

theorem andThen_fails_iff_of_reads {next : α → Rule β} {meaning : α} (reads : rule.Reads s meaning after) :
    (rule.andThen next).Fails s error ↔ (next meaning).Fails after error := by
  simp only [Fails, andThen, show rule.run s = _ from reads]

theorem expect_andThen_fails_iff {kind : Kind} {reason : Reason} {next : Token → Rule β} {token : Token}
    {rest : List Token} {depth : Nat} (isKind : token.kind = kind) :
    ((expect kind reason).andThen next).Fails ⟨token :: rest, depth⟩ error ↔
      (next token).Fails ⟨rest, depth⟩ error :=
  andThen_fails_iff_of_reads (expect_reads_iff.mpr ⟨rfl, isKind⟩)

theorem choose_reads_iff {pick : State → Rule α} {meaning : α} :
    (choose pick).Reads s meaning after ↔ (pick s).Reads s meaning after := Iff.rfl

theorem choose_fails_iff {pick : State → Rule α} :
    (choose pick).Fails s error ↔ (pick s).Fails s error := Iff.rfl

theorem deeper_reads_iff {meaning : α} :
    rule.deeper.Reads s meaning after ↔
      ∃ last, rule.Reads ⟨s.rest, s.depth + 1⟩ meaning last ∧ ⟨last.rest, last.depth - 1⟩ = after := by
  rcases outcome : rule.run ⟨s.rest, s.depth + 1⟩ with ⟨_ | other, last⟩ <;>
    simp [Reads, deeper, outcome, and_assoc]

theorem deeper_fails_iff : rule.deeper.Fails s error ↔ rule.Fails ⟨s.rest, s.depth + 1⟩ error := by
  simp only [Fails, deeper]

theorem chain_reads_iff {operand : Rule Expr} {level : Operator → Bool} {expr : Expr} :
    (chain operand level).Reads s expr after ↔
      ∃ left middle, operand.Reads s left middle ∧
        foldOnto operand level left middle = (.ok expr, after) := by
  rcases outcome : operand.run s with ⟨_ | left, middle⟩ <;>
    simp [Reads, chain, outcome, and_assoc]

theorem chain_fails_iff {operand : Rule Expr} {level : Operator → Bool} :
    (chain operand level).Fails s error ↔ operand.Fails s error ∨
      ∃ left middle, operand.Reads s left middle ∧
        (foldOnto operand level left middle).1 = .error error := by
  rcases outcome : operand.run s with ⟨_ | left, middle⟩ <;>
    simp [Fails, Reads, chain, outcome, and_assoc]

theorem foldOnto_of_rests {operand : Rule Expr} {level : Operator → Bool} (left : Expr)
    (rests : s.Rests level) : foldOnto operand level left s = (.ok left, s) := by
  rw [foldOnto, show s.operator?.filter level = none from rests]

/-- Behind an operator of the level stands an operand, which is folded in. -/
theorem foldOnto_of_operator {operand : Rule Expr} {level : Operator → Bool} {op : Operator}
    (left : Expr) (next : s.operator? = some op) (inside : level op = true) :
    foldOnto operand level left s =
      match operand.run s.advance with
      | (.ok right, after) => foldOnto operand level (.binary left op right) after
      | (.error error, after) => (.error error, after) := by
  rw [foldOnto, show s.operator?.filter level = some op by simp [next, inside]]
  simp only
  split
  · next right after ran => rw [ran]
  · next error after ran => rw [ran]

theorem foldOnto_of_reads {operand : Rule Expr} {level : Operator → Bool} {op : Operator}
    (left right : Expr) (next : s.operator? = some op) (inside : level op = true)
    (reads : operand.Reads s.advance right after) :
    foldOnto operand level left s = foldOnto operand level (.binary left op right) after := by
  rw [foldOnto_of_operator left next inside, show operand.run s.advance = _ from reads]

theorem foldOnto_of_fails {operand : Rule Expr} {level : Operator → Bool} {op : Operator}
    (left : Expr) (next : s.operator? = some op) (inside : level op = true)
    (fails : operand.Fails s.advance error) :
    (foldOnto operand level left s).1 = .error error := by
  rw [foldOnto_of_operator left next inside]
  rcases outcome : operand.run s.advance with ⟨_ | right, after⟩ <;> simp_all [Fails]

end Rule
end Formula
