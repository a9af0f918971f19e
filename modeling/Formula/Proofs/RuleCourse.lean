import Formula.Grammar
import Formula.Proofs.RuleReading

/-! What becomes of the state in the course of a rule. Groups that are opened are given
up again, whether the rule reads a phrase or fails; a failure leaves the tokens where it
was noticed; and on the way there are never fewer groups open than at the start, nor more
than there may be. One law for each way of making rules carries all three. -/

namespace Formula

/-- Whether the token at fault has been taken. It has if it was asked for by its kind, and
if it is a number that cannot be read. -/
def ParseError.taken (error : ParseError) : Bool := error.expected.isSome || error.reason = .numeralInvalid

/-- What a failure leaves of the tokens that there were before. -/
inductive ParseError.Halts (error : ParseError) (before : List Token) : List Token → Prop where
  | ranOut (nothing : error.found = none) : Halts error before []
  | behind {front rest : List Token} {token : Token} (found : error.found = some token)
      (isTaken : error.taken = true) (spelled : before = front ++ token :: rest) : Halts error before rest
  | here {rest : List Token} {token : Token} (found : error.found = some token)
      (isLeft : error.taken = false) : Halts error before (token :: rest)

theorem ParseError.Halts.earlier {error : ParseError} {before middle after : List Token}
    (halts : error.Halts middle after) (suffix : middle <:+ before) : error.Halts before after := by
  cases halts with
  | ranOut nothing => exact .ranOut nothing
  | here found isLeft => exact .here found isLeft
  | @behind front rest token found isTaken spelled =>
    obtain ⟨lead, rfl⟩ := suffix
    exact .behind found isTaken (by rw [spelled, List.append_assoc])

/-- No fewer groups are open than there were, and no more than `limit` because of it. -/
def State.Inside (limit : Nat) (s middle : State) : Prop :=
  s.depth ≤ middle.depth ∧ middle.depth ≤ max s.depth limit

theorem State.inside_of_depth_eq {limit : Nat} {s middle : State} (same : middle.depth = s.depth) :
    s.Inside limit middle := by
  rw [Inside, same]
  exact ⟨Nat.le_refl _, Nat.le_max_left _ _⟩

/-- What a run from `s` on makes of the state, on its course and at its end. -/
structure Orderly (limit : Nat) (s : State) (outcome : Except ParseError α × State) (course : List State) :
    Prop where
  level : outcome.2.depth = s.depth
  halts : ∀ error, outcome.1 = .error error → error.Halts s.rest outcome.2.rest
  stays : ∀ middle ∈ course, s.Inside limit middle

namespace Orderly

variable {limit : Nat} {s middle : State} {states more : List State}

theorem failed {error : ParseError}
    (orderly : Orderly limit s ((.error error : Except ParseError α), middle) states) :
    Orderly limit s ((.error error : Except ParseError β), middle) states where
  level := orderly.level
  halts _ fails := orderly.halts _ (congrArg Except.error (Except.error.inj fails))
  stays := orderly.stays

/-- What goes on behind a run that was orderly is judged from where it began. -/
theorem onward {meaning : α} {outcome : Except ParseError β × State}
    (orderly : Orderly limit s (.ok meaning, middle) states) (suffix : middle.rest <:+ s.rest)
    (later : Orderly limit middle outcome more) : Orderly limit s outcome (states ++ more) := by
  have same : middle.depth = s.depth := orderly.level
  refine ⟨later.level.trans same, fun error fails => (later.halts error fails).earlier suffix, ?_⟩
  refine List.forall_mem_append.mpr ⟨orderly.stays, fun state member => ?_⟩
  have inside := later.stays state member
  rwa [State.Inside, same] at inside

theorem still (s : State) (meaning : α) : Orderly limit s (.ok meaning, s) [] where
  level := rfl
  halts _ fails := by cases fails
  stays := List.forall_mem_nil _

theorem advance (s : State) : Orderly limit s (.ok (), s.advance) [s.advance] where
  level := rfl
  halts _ fails := by cases fails
  stays := List.forall_mem_singleton.mpr (State.inside_of_depth_eq rfl)

end Orderly

namespace Rule

variable {limit : Nat} {s : State} {rule : Rule α}

theorem Reads.left {meaning : α} {after : State} (reads : rule.Reads s meaning after) :
    (rule.run s).2 = after :=
  congrArg Prod.snd reads

def OrderlyAt (limit : Nat) (rule : Rule α) (s : State) : Prop := Orderly limit s (rule.run s) (rule.course s)

theorem orderly_expect (kind : Kind) (reason : Reason) (s : State) :
    (expect kind reason).OrderlyAt limit s := by
  obtain ⟨rest, depth⟩ := s
  cases rest with
  | nil => exact ⟨rfl, fun error fails => Except.error.inj fails ▸ .ranOut rfl, List.forall_mem_nil _⟩
  | cons token rest =>
    refine ⟨rfl, fun error fails => ?_, (Orderly.advance _).stays⟩
    obtain ⟨-, rfl⟩ := expect_fails_iff.mp fails
    exact .behind rfl rfl (List.nil_append _).symm

theorem orderly_fail {reason : Reason} (other : reason ≠ .numeralInvalid) (s : State) :
    (fail reason : Rule α).OrderlyAt limit s := by
  refine ⟨rfl, fun error fails => ?_, List.forall_mem_nil _⟩
  obtain rfl := fail_fails_iff.mp fails
  obtain ⟨rest, depth⟩ := s
  cases rest with
  | nil => exact .ranOut rfl
  | cons token rest => exact .here rfl (by simp [ParseError.taken, other])

theorem OrderlyAt.refine {judge : α → Except ParseError β} (orderly : rule.OrderlyAt limit s)
    (refuses : ∀ meaning after error, rule.Reads s meaning after → judge meaning = .error error →
      error.Halts s.rest after.rest) : (rule.refine judge).OrderlyAt limit s := by
  refine ⟨orderly.level, fun error fails => ?_, orderly.stays⟩
  rcases refine_fails_iff.mp fails with fails | ⟨meaning, after, reads, refused⟩
  · exact orderly.halts error fails
  · have halts := refuses meaning after error reads refused
    rwa [← reads.left] at halts

theorem OrderlyAt.map (orderly : rule.OrderlyAt limit s) (f : α → β) : (rule.map f).OrderlyAt limit s :=
  orderly.refine fun _ _ _ _ refused => nomatch refused

theorem OrderlyAt.choose {pick : State → Rule α} (orderly : (pick s).OrderlyAt limit s) :
    (choose pick).OrderlyAt limit s := orderly

theorem OrderlyAt.andThen {next : α → Rule β} (orderly : rule.OrderlyAt limit s)
    (onward : ∀ meaning after, rule.Reads s meaning after → (next meaning).OrderlyAt limit after) :
    (rule.andThen next).OrderlyAt limit s := by
  have suffix := rule.suffix s
  rcases ran : rule.run s with ⟨error | meaning, after⟩
  · simp only [OrderlyAt, Rule.andThen, ran] at orderly ⊢
    exact orderly.failed
  · have later := onward meaning after ran
    simp only [OrderlyAt, Rule.andThen, ran] at orderly suffix later ⊢
    exact orderly.onward suffix later

/-- A group may be opened where there are fewer than the limit. -/
theorem OrderlyAt.deeper (room : s.depth < limit) (orderly : rule.OrderlyAt limit ⟨s.rest, s.depth + 1⟩) :
    rule.deeper.OrderlyAt limit s := by
  have level : (rule.deeper.run s).2.depth = s.depth := by
    have inner := orderly.level
    simp only [Rule.deeper, inner, Nat.add_sub_cancel]
  refine ⟨level, fun error fails => orderly.halts error (deeper_fails_iff.mp fails), ?_⟩
  simp only [Rule.deeper, List.cons_append, List.forall_mem_cons, List.forall_mem_append]
  refine ⟨?_, fun middle member => ?_, State.inside_of_depth_eq level, List.forall_mem_nil _⟩
  · simp only [State.Inside]
    omega
  · have inside := orderly.stays middle member
    simp only [State.Inside] at inside ⊢
    omega

/-- Elsewhere it may not, whatever comes of it. -/
theorem OrderlyAt.room (orderly : rule.deeper.OrderlyAt limit s) : s.depth < limit := by
  have opened := (orderly.stays ⟨s.rest, s.depth + 1⟩ List.mem_cons_self).2
  simp only at opened
  omega

section Chains

variable {operand : Rule Expr} {level : Operator → Bool}

private theorem orderly_foldOnto (orderly : ∀ s, operand.OrderlyAt limit s) (left : Expr) (s : State) :
    Orderly limit s (foldOnto operand level left s) (foldCourse operand level s) := by
  fun_induction foldOnto operand level left s with
  | case1 left s ended =>
    rw [foldCourse, ended]
    exact .still s left
  | case2 left s op next right after ran ih =>
    have suffix := operand.suffix s.advance
    have inner := orderly s.advance
    rw [foldCourse_of_next next]
    rw [OrderlyAt, ran] at inner
    rw [ran] at suffix ⊢
    exact (Orderly.advance s).onward s.advance_suffix (inner.onward suffix ih)
  | case3 left s op next error after ran =>
    have inner := orderly s.advance
    rw [foldCourse_of_next next]
    rw [OrderlyAt, ran] at inner
    rw [ran, List.append_nil]
    exact (Orderly.advance s).onward s.advance_suffix inner

theorem orderly_chain (orderly : ∀ s, operand.OrderlyAt limit s) (s : State) :
    (chain operand level).OrderlyAt limit s := by
  have suffix := operand.suffix s
  have inner := orderly s
  rcases ran : operand.run s with ⟨error | left, after⟩
  · simp only [OrderlyAt, chain, ran] at inner ⊢
    exact inner
  · simp only [OrderlyAt, chain, ran] at inner suffix ⊢
    exact inner.onward suffix (orderly_foldOnto orderly left after)

end Chains

end Rule

namespace Grammar

open Rule

variable {limit : Nat} {group : Rule Expr}

/-- The text is looked at when the token has been taken. -/
private theorem orderly_numeral (s : State) : numeral.OrderlyAt limit s := by
  refine (orderly_expect .number .unexpected s).refine fun token after error reads refused => ?_
  obtain ⟨rfl, -⟩ := expect_reads_iff.mp reads
  split at refused
  · cases refused
  · obtain rfl := Except.error.inj refused
    exact .behind rfl rfl (List.nil_append _).symm

theorem orderly_primary (orderly : ∀ s, group.OrderlyAt limit s) (s : State) :
    (primary group).OrderlyAt limit s := by
  apply OrderlyAt.choose
  split
  · exact orderly_numeral s
  · exact (orderly_expect .identifier .unexpected s).map _
  · exact orderly_fail (by nofun) s
  · exact orderly s
  · exact orderly_fail (by nofun) s

theorem orderly_multiplicative (orderly : ∀ s, group.OrderlyAt limit s) (s : State) :
    (multiplicative group).OrderlyAt limit s :=
  orderly_chain (orderly_primary orderly) s

theorem orderly_additive (orderly : ∀ s, group.OrderlyAt limit s) (s : State) :
    (additive group).OrderlyAt limit s :=
  orderly_chain (orderly_multiplicative orderly) s

theorem orderly_binding (orderly : ∀ s, group.OrderlyAt limit s) (s : State) :
    (binding group).OrderlyAt limit s := by
  apply (orderly_expect .identifier .nameMissing s).andThen
  intro name middle _
  apply (orderly_expect .equals .equalsMissing middle).andThen
  intro _ after _
  exact (orderly_additive orderly after).map _

theorem orderly_assignment (orderly : ∀ s, group.OrderlyAt limit s) (s : State) :
    (assignment group).OrderlyAt limit s :=
  (orderly_binding orderly s).map _

theorem orderly_keyword (s : State) : keyword.OrderlyAt limit s :=
    (orderly_expect .const .keywordMissing s).map _

theorem orderly_declaration (orderly : ∀ s, group.OrderlyAt limit s) (s : State) :
    (declaration group).OrderlyAt limit s :=
  (orderly_keyword s).andThen fun _ after _ => (orderly_binding orderly after).map _

theorem orderly_statement (orderly : ∀ s, group.OrderlyAt limit s) (s : State) :
    (statement group).OrderlyAt limit s := by
  apply OrderlyAt.choose
  split
  · exact orderly_declaration orderly s
  · exact orderly_assignment orderly s
  · exact orderly_additive orderly s

theorem orderly_counted (limit size : Nat) (s : State) : (counted limit size).OrderlyAt limit s := by
  induction size generalizing s with
  | zero =>
    rw [counted]
    exact orderly_fail (by nofun) s
  | succ size ih =>
    rw [counted]
    apply OrderlyAt.choose
    split
    · exact orderly_fail (by nofun) s
    · next room =>
      have front : (expect .openParen .unexpected).OrderlyAt limit s := orderly_expect _ _ s
      refine front.andThen fun opening middle reads => ?_
      have same : middle.depth = s.depth := by rw [← front.level, reads.left]
      have inner := orderly_statement ih ⟨middle.rest, middle.depth + 1⟩
      refine (inner.deeper (by omega)).andThen fun expr after _ => ?_
      exact (orderly_expect .closeParen .groupUnclosed after).map _

theorem orderly_within {sort : Rule Expr → Rule α}
    (orderly : ∀ {group : Rule Expr}, (∀ s, group.OrderlyAt limit s) → ∀ s, (sort group).OrderlyAt limit s)
    (s : State) : (within limit sort).OrderlyAt limit s := by
  apply OrderlyAt.choose
  exact orderly (orderly_counted limit (s.rest.length + 1)) s

end Grammar
end Formula
