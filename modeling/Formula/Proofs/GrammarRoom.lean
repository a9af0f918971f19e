import Formula.Proofs.RuleCourse

/-! A group read by the room that is left for it. The parser counts the groups that are open
and looks at the counter; a proof counts down how many may still be opened, which is a recursion
by itself. Every rule gives back the groups it has opened, so both counts make up the limit all
the time, and the rules do the same with either. -/

namespace Formula

namespace Rule

/-- While `depth` groups are open and fewer than `size` tokens left, the rules do the same. -/
def Agree (size depth : Nat) (rule rule' : Rule α) : Prop :=
  ∀ s, s.rest.length < size → s.depth = depth → rule.run s = rule'.run s

variable {size depth limit : Nat} {rule rule' : Rule α}

theorem Agree.refl (rule : Rule α) : Agree size depth rule rule := fun _ _ _ => rfl

theorem Agree.fewer {more : Nat} (agree : Agree more depth rule rule') (fewer : size ≤ more) :
    Agree size depth rule rule' :=
  fun s short => agree s (Nat.lt_of_lt_of_le short fewer)

theorem Agree.map (agree : Agree size depth rule rule') (f : α → β) :
    Agree size depth (rule.map f) (rule'.map f) := by
  intro s short level
  simp only [Rule.map, Rule.refine, agree s short level]

theorem Agree.choose {pick pick' : State → Rule α} (agree : ∀ s, Agree size depth (pick s) (pick' s)) :
    Agree size depth (choose pick) (choose pick') :=
  fun s => agree s s

theorem Agree.deeper (agree : Agree size (depth + 1) rule rule') :
    Agree size depth rule.deeper rule'.deeper := by
  intro s short level
  simp only [Rule.deeper, agree ⟨s.rest, s.depth + 1⟩ short (congrArg (· + 1) level)]

theorem Agree.andThen (agree : Agree size depth rule rule') (next : α → Rule β) :
    Agree size depth (rule.andThen next) (rule'.andThen next) := by
  intro s short level
  simp only [Rule.andThen, agree s short level]

/-- What the first rule reads is gone from the tokens, and it leaves no group open. -/
theorem Agree.behind {next next' : α → Rule β} (orderly : ∀ s, rule.OrderlyAt 0 s)
    (agree : ∀ meaning, Agree size depth (next meaning) (next' meaning)) :
    Agree (size + 1) depth (rule.andThen next) (rule.andThen next') := by
  intro s short level
  rcases ran : rule.run s with ⟨error | meaning, after⟩
  · simp only [Rule.andThen, ran]
  · have same := (orderly s).level
    have used := rule.consumes (congrArg Prod.fst ran)
    rw [ran] at same used
    simp only [Rule.andThen, ran]
    exact agree meaning after (Nat.lt_of_lt_of_le used (Nat.le_of_lt_succ short)) (same.trans level)

section Chains

variable {operand operand' : Rule Expr} {level : Operator → Bool}

private theorem foldOnto_agree (agree : Agree size depth operand operand')
    (orderly : ∀ s, operand.OrderlyAt limit s) (left : Expr) (s : State)
    (short : s.rest.length < size) (same : s.depth = depth) :
    foldOnto operand level left s = foldOnto operand' level left s := by
  fun_induction foldOnto operand level left s with
  | case1 left s ended => rw [foldOnto_of_rests left ended]
  | case2 left s op next right after ran ih =>
    obtain ⟨found, inside⟩ := Option.filter_eq_some_iff.mp next
    have front := Nat.lt_of_le_of_lt s.advance_suffix.length_le short
    have ran' := (agree s.advance front same).symm.trans ran
    have suffix := operand.suffix s.advance
    have back := (orderly s.advance).level
    rw [ran] at suffix back
    rw [foldOnto_of_reads left right found inside ran']
    exact ih (Nat.lt_of_le_of_lt suffix.length_le front) (back.trans same)
  | case3 left s op next error after ran =>
    obtain ⟨found, inside⟩ := Option.filter_eq_some_iff.mp next
    have front := Nat.lt_of_le_of_lt s.advance_suffix.length_le short
    rw [foldOnto_of_operator left found inside, ← agree s.advance front same, ran]

theorem Agree.chain (agree : Agree size depth operand operand') (orderly : ∀ s, operand.OrderlyAt limit s) :
    Agree size depth (chain operand level) (chain operand' level) := by
  intro s short same
  have suffix := operand.suffix s
  have back := (orderly s).level
  simp only [Rule.chain, ← agree s short same]
  rcases ran : operand.run s with ⟨error | left, after⟩
  · rfl
  · rw [ran] at suffix back
    exact foldOnto_agree agree orderly left after (Nat.lt_of_le_of_lt suffix.length_le short) (back.trans same)

end Chains

end Rule

namespace Grammar

open Rule

/-- A group in which `room` groups, itself included, may be open at once. -/
def group : Nat → Rule Expr
  | 0 => fail .nestedTooDeeply
  | room + 1 =>
    (expect .openParen .unexpected).andThen fun _ =>
      (statement (group room)).deeper.andThen fun expr =>
        (expect .closeParen .groupUnclosed).map fun _ => expr

variable {size depth limit : Nat} {inner inner' : Rule Expr}

/-- Nothing but the rule for groups makes a difference. -/
def Congruent (sort : Rule Expr → Rule α) : Prop :=
  ∀ {size depth limit : Nat} {inner inner' : Rule Expr}, (∀ s, inner.OrderlyAt limit s) →
    Agree size depth inner inner' → Agree size depth (sort inner) (sort inner')

theorem congruent_primary : Congruent primary := by
  intro size depth limit inner inner' _ agree
  apply Agree.choose
  intro s
  split
  · exact .refl _
  · exact .refl _
  · exact .refl _
  · exact agree
  · exact .refl _

theorem congruent_multiplicative : Congruent multiplicative :=
  fun orderly agree => (congruent_primary orderly agree).chain (orderly_primary orderly)

theorem congruent_additive : Congruent additive :=
  fun orderly agree => (congruent_multiplicative orderly agree).chain (orderly_multiplicative orderly)

theorem congruent_binding : Congruent binding := by
  intro size depth limit inner inner' orderly agree
  apply Agree.fewer _ (Nat.le_add_right size 2)
  apply Agree.behind (orderly_expect .identifier .nameMissing)
  intro name
  apply Agree.behind (orderly_expect .equals .equalsMissing)
  intro _
  exact (congruent_additive orderly agree).map _

theorem congruent_assignment : Congruent assignment :=
  fun orderly agree => (congruent_binding orderly agree).map _

theorem congruent_declaration : Congruent declaration := by
  intro size depth limit inner inner' orderly agree
  apply Agree.fewer _ (Nat.le_succ size)
  apply Agree.behind orderly_keyword
  intro word
  exact (congruent_binding orderly agree).map _

theorem congruent_statement : Congruent statement := by
  intro size depth limit inner inner' orderly agree
  apply Agree.choose
  intro s
  split
  · exact congruent_declaration orderly agree
  · exact congruent_assignment orderly agree
  · exact congruent_additive orderly agree

/-- The groups that are open and the room that is left make up the limit. -/
private theorem agree_counted (limit size depth : Nat) :
    Agree size depth (counted limit size) (group (limit - depth)) := by
  induction size generalizing depth with
  | zero => exact nofun
  | succ size ih =>
    intro s short same
    by_cases full : limit ≤ depth
    · simp only [counted, choose, same, if_pos full, Nat.sub_eq_zero_of_le full, group]
    · have inside := (congruent_statement (orderly_counted limit size) (ih (depth + 1))).deeper
      have left : limit - depth = limit - (depth + 1) + 1 := by omega
      simp only [counted, choose, same, if_neg full, left, group]
      refine Agree.behind (orderly_expect _ _) (fun _ => ?_) s short same
      exact inside.andThen _

/-- A rule of the grammar does what it does with the room that is left. -/
theorem run_within {sort : Rule Expr → Rule α} (congruent : Congruent sort) (limit : Nat) (s : State) :
    (within limit sort).run s = (sort (group (limit - s.depth))).run s :=
  congruent (orderly_counted limit _) (agree_counted limit _ s.depth) s (Nat.lt_succ_self _) rfl

/-- The size never decides anything: inside a group the grammar is the one around it. -/
theorem run_within_group (limit : Nat) (s : State) :
    (within limit fun group => group).run s =
      if limit ≤ s.depth then (.error ⟨.nestedTooDeeply, s.current, none⟩, s)
      else
        ((expect .openParen .unexpected).andThen fun _ =>
          (within limit statement).deeper.andThen fun expr =>
            (expect .closeParen .groupUnclosed).map fun _ => expr).run s := by
  have inside : Agree s.rest.length (s.depth + 1) (statement (counted limit s.rest.length))
      (within limit statement) := by
    intro middle short same
    rw [run_within congruent_statement, same]
    exact congruent_statement (orderly_counted limit _) (agree_counted limit _ _) middle short same
  simp only [within, choose, counted]
  split
  · rfl
  · refine Agree.behind (orderly_expect _ _) (fun _ => ?_) s (Nat.lt_succ_self _) rfl
    exact inside.deeper.andThen _

end Grammar
end Formula
