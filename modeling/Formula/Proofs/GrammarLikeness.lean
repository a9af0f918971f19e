import Formula.Proofs.GrammarPrograms
import Mathlib.Data.List.Forall2

/-! What the grammar sees of its tokens. It never asks where a token stands, it asks for
the text of some kinds only, and it never looks behind an end of the input. So on lists
that correspond in what it sees every rule does the same, step by step: it reads the same
meaning and leaves lists that correspond again, or it fails at corresponding tokens. -/

namespace Formula

/-- Whether the text of a token of this kind is asked for. -/
def Kind.isSpelled : Kind → Bool
  | const | identifier | binaryOperator | number => true
  | equals | semicolon | openParen | closeParen | endOfInput => false

structure Token.Alike (token token' : Token) : Prop where
  kind : token.kind = token'.kind
  text : token.kind.isSpelled = true → token.text = token'.text

def Keeps (same : Token → Token → Prop) : Prop := ∀ token token', same token token' → token.Alike token'

/-- The tokens correspond one by one, as far as they are looked at. -/
inductive Matching (same : Token → Token → Prop) : List Token → List Token → Prop where
  | nil : Matching same [] []
  | cons {token token' : Token} {rest rest' : List Token} (first : same token token')
      (more : Matching same rest rest') : Matching same (token :: rest) (token' :: rest')
  | stop {token token' : Token} {rest rest' : List Token} (first : same token token')
      (isEnd : token.kind = .endOfInput) : Matching same (token :: rest) (token' :: rest')

structure State.Matching (same : Token → Token → Prop) (s s' : State) : Prop where
  rest : Formula.Matching same s.rest s'.rest
  depth : s.depth = s'.depth

structure ParseError.Matching (same : Token → Token → Prop) (error error' : ParseError) : Prop where
  reason : error.reason = error'.reason
  found : Option.Rel same error.found error'.found
  expected : error.expected = error'.expected

inductive Results (same : Token → Token → Prop) (like : α → α → Prop) :
    Except ParseError α → Except ParseError α → Prop where
  | ok {meaning meaning' : α} (meant : like meaning meaning') : Results same like (.ok meaning) (.ok meaning')
  | error {error error' : ParseError} (failed : error.Matching same error') :
      Results same like (.error error) (.error error')

namespace Rule

/-- The same for what a rule answers. What is left behind an error is not compared. -/
inductive Outcomes (same : Token → Token → Prop) (like : α → α → Prop) :
    Except ParseError α × State → Except ParseError α × State → Prop where
  | ok {meaning meaning' : α} {after after' : State} (meant : like meaning meaning')
      (left : after.Matching same after') : Outcomes same like (.ok meaning, after) (.ok meaning', after')
  | error {error error' : ParseError} {after after' : State} (failed : error.Matching same error') :
      Outcomes same like (.error error, after) (.error error', after')

def Mirrors (same : Token → Token → Prop) (like : α → α → Prop) (rule rule' : Rule α) : Prop :=
  ∀ s s', s.Matching same s' → Outcomes same like (rule.run s) (rule'.run s')

end Rule

variable {same : Token → Token → Prop}

namespace Results

variable {like : α → α → Prop} {result result' : Except ParseError α}

theorem eq (results : Results Eq Eq result result') : result = result' := by
  cases results with
  | ok meant => rw [meant]
  | @error error error' failed =>
    obtain ⟨reason, found, expected⟩ := error
    obtain ⟨reason', found', expected'⟩ := error'
    obtain ⟨rfl, found, rfl⟩ := failed
    cases found with
    | none => rfl
    | some first => rw [first]

theorem ok_iff (results : Results same Eq result result') (meaning : α) :
    result = .ok meaning ↔ result' = .ok meaning := by
  cases results with
  | ok meant => rw [meant]
  | error failed => exact iff_of_false nofun nofun

theorem failed {error error' : ParseError} (results : Results same like result result')
    (fails : result = .error error) (fails' : result' = .error error') : error.Matching same error' := by
  cases results with
  | ok meant => cases fails
  | error failed =>
    cases fails
    cases fails'
    exact failed

end Results

theorem Matching.append {front front' back back' : List Token} (matching : List.Forall₂ same front front')
    (matching' : Matching same back back') : Matching same (front ++ back) (front' ++ back') := by
  induction matching with
  | nil => exact matching'
  | cons first more ih => exact .cons first ih

theorem State.going_of_operator {s : State} {op : Operator} (next : s.operator? = some op) :
    s.peek.kind ≠ .endOfInput := by
  rw [(Token.operator?_eq_some_iff.mp next).1]
  nofun

namespace State.Matching

variable {s s' : State}

theorem current (matching : s.Matching same s') : Option.Rel same s.current s'.current := by
  obtain ⟨rest, depth⟩ := s
  obtain ⟨rest', depth'⟩ := s'
  cases matching.rest with
  | nil => exact .none
  | cons first more => exact .some first
  | stop first isEnd => exact .some first

theorem alike (keeps : Keeps same)
    (matching : s.Matching same s') : s.peek.Alike s'.peek := by
  have next := matching.current
  unfold peek
  generalize s.current = found, s'.current = found' at next
  cases next with
  | none => exact ⟨rfl, fun _ => rfl⟩
  | some first => exact keeps _ _ first

theorem operator? (keeps : Keeps same)
    (matching : s.Matching same s') : s.operator? = s'.operator? := by
  obtain ⟨kind, text⟩ := matching.alike keeps
  apply Option.ext
  intro op
  simp only [State.operator?, Token.operator?_eq_some_iff, ← kind]
  apply and_congr_right
  intro isOperator
  rw [text (by simp [isOperator, Kind.isSpelled])]

theorem advance (matching : s.Matching same s') (going : s.peek.kind ≠ .endOfInput) :
    s.advance.Matching same s'.advance := by
  obtain ⟨rest, depth⟩ := s
  obtain ⟨rest', depth'⟩ := s'
  refine ⟨?_, matching.depth⟩
  cases matching.rest with
  | nil => exact .nil
  | cons first more => exact more
  | stop first isEnd => exact absurd isEnd going

end State.Matching

namespace Rule

variable {like : α → α → Prop} {like' : β → β → Prop} {rule rule' : Rule α}

theorem mirrors_expect (keeps : Keeps same) (kind : Kind) (reason : Reason) (noEnd : kind ≠ .endOfInput) :
    Mirrors same (fun token token' => same token token' ∧ token.kind = kind) (expect kind reason)
      (expect kind reason) := by
  intro s s' matching
  obtain ⟨rest, depth⟩ := s
  obtain ⟨rest', depth'⟩ := s'
  obtain rfl : depth = depth' := matching.depth
  -- An end of the input fails like any other token, because no rule asks for one.
  have fails {token token' : Token} (first : same token token') (other : token.kind ≠ kind)
      (rest rest' : List Token) :
      Outcomes same (fun token token' => same token token' ∧ token.kind = kind)
        ((expect kind reason).run ⟨token :: rest, depth⟩)
        ((expect kind reason).run ⟨token' :: rest', depth⟩) := by
    have other' : token'.kind ≠ kind := (keeps _ _ first).kind ▸ other
    simp only [expect, if_neg other, if_neg other']
    exact .error ⟨rfl, .some first, rfl⟩
  cases matching.rest with
  | nil => exact .error ⟨rfl, .none, rfl⟩
  | @cons token token' rest rest' first more =>
    by_cases expected : token.kind = kind
    · have expected' : token'.kind = kind := (keeps _ _ first).kind ▸ expected
      simp only [expect, if_pos expected, if_pos expected']
      exact .ok ⟨first, expected⟩ ⟨more, rfl⟩
    · exact fails first expected rest rest'
  | stop first isEnd => exact fails first (isEnd ▸ noEnd.symm) _ _

theorem mirrors_fail (reason : Reason) : Mirrors same like (fail reason : Rule α) (fail reason) :=
  fun _ _ matching => .error ⟨rfl, matching.current, rfl⟩

theorem Mirrors.refine (mirrors : Mirrors same like rule rule') {judge judge' : α → Except ParseError β}
    (judges : ∀ meaning meaning', like meaning meaning' →
      Results same like' (judge meaning) (judge' meaning')) :
    Mirrors same like' (rule.refine judge) (rule'.refine judge') := by
  intro s s' matching
  have outcomes := mirrors s s' matching
  generalize run : rule.run s = outcome, run' : rule'.run s' = outcome' at outcomes
  cases outcomes with
  | error failed =>
    simp only [Rule.refine, run, run']
    exact .error failed
  | @ok meaning meaning' after after' meant left =>
    have results := judges _ _ meant
    simp only [Rule.refine, run, run', Except.bind]
    generalize judge meaning = result, judge' meaning' = result' at results
    cases results with
    | ok meant => exact .ok meant left
    | error failed => exact .error failed

theorem Mirrors.map (mirrors : Mirrors same like rule rule') {f f' : α → β}
    (turns : ∀ meaning meaning', like meaning meaning' → like' (f meaning) (f' meaning')) :
    Mirrors same like' (rule.map f) (rule'.map f') :=
  mirrors.refine fun _ _ meant => .ok (turns _ _ meant)

theorem Mirrors.andThen (mirrors : Mirrors same like rule rule') {next next' : α → Rule β}
    (goesOn : ∀ meaning meaning', like meaning meaning' →
      Mirrors same like' (next meaning) (next' meaning')) :
    Mirrors same like' (rule.andThen next) (rule'.andThen next') := by
  intro s s' matching
  have outcomes := mirrors s s' matching
  generalize run : rule.run s = outcome, run' : rule'.run s' = outcome' at outcomes
  cases outcomes with
  | error failed =>
    simp only [Rule.andThen, run, run']
    exact .error failed
  | ok meant left =>
    simp only [Rule.andThen, run, run']
    exact goesOn _ _ meant _ _ left

theorem Mirrors.deeper (mirrors : Mirrors same like rule rule') :
    Mirrors same like rule.deeper rule'.deeper := by
  intro s s' matching
  have outcomes := mirrors ⟨s.rest, s.depth + 1⟩ ⟨s'.rest, s'.depth + 1⟩
    ⟨matching.rest, congrArg (· + 1) matching.depth⟩
  generalize run : rule.run ⟨s.rest, s.depth + 1⟩ = outcome,
    run' : rule'.run ⟨s'.rest, s'.depth + 1⟩ = outcome' at outcomes
  cases outcomes with
  | error failed =>
    simp only [Rule.deeper, run, run']
    exact .error failed
  | ok meant left =>
    simp only [Rule.deeper, run, run']
    exact .ok meant ⟨left.rest, congrArg (· - 1) left.depth⟩

section Grammars

variable (keeps : Keeps same)
variable {operand operand' group group' : Rule Expr}

include keeps

private theorem foldOnto_mirrors (mirrors : Mirrors same Eq operand operand') (level : Operator → Bool)
    (left : Expr) {s s' : State} (matching : s.Matching same s') :
    Outcomes same Eq (foldOnto operand level left s) (foldOnto operand' level left s') := by
  have operators {s s' : State} (matching : s.Matching same s') := matching.operator? keeps
  fun_induction foldOnto operand level left s generalizing s' with
  | case1 left s ended =>
    have rests : s'.Rests level := by rwa [State.Rests, ← operators matching]
    rw [foldOnto_of_rests left rests]
    exact .ok rfl matching
  | case2 left s op next right after ran ih =>
    obtain ⟨found, inside⟩ := Option.filter_eq_some_iff.mp next
    have outcomes := mirrors _ _ (matching.advance (State.going_of_operator found))
    rw [foldOnto_of_operator left (operators matching ▸ found) inside]
    generalize run' : operand'.run s'.advance = outcome' at outcomes
    rw [ran] at outcomes
    cases outcomes with
    | ok meant behind =>
      subst meant
      exact ih behind
  | case3 left s op next error after ran =>
    obtain ⟨found, inside⟩ := Option.filter_eq_some_iff.mp next
    have outcomes := mirrors _ _ (matching.advance (State.going_of_operator found))
    rw [foldOnto_of_operator left (operators matching ▸ found) inside]
    generalize run' : operand'.run s'.advance = outcome' at outcomes
    rw [ran] at outcomes
    cases outcomes with
    | error failed => exact .error failed

theorem mirrors_chain (mirrors : Mirrors same Eq operand operand') (level : Operator → Bool) :
    Mirrors same Eq (chain operand level) (chain operand' level) := by
  intro s s' matching
  have outcomes := mirrors s s' matching
  generalize run : operand.run s = outcome, run' : operand'.run s' = outcome' at outcomes
  cases outcomes with
  | error failed =>
    simp only [chain, run, run']
    exact .error failed
  | ok meant behind =>
    subst meant
    simp only [chain, run, run']
    exact foldOnto_mirrors keeps mirrors level _ behind

end Grammars

end Rule

namespace Grammar

open Rule

section Sorts

variable (keeps : Keeps same)
variable {rule rule' : Rule Expr}

include keeps

private theorem mirrors_numeral : Mirrors same Eq numeral numeral := by
  refine (mirrors_expect keeps .number .unexpected nofun).refine fun token token' found => ?_
  obtain ⟨first, isNumber⟩ := found
  rw [← (keeps _ _ first).text (by simp [isNumber, Kind.isSpelled])]
  cases Binary64.read? token.text with
  | none => exact .error ⟨rfl, .some first, rfl⟩
  | some value => exact .ok rfl

private theorem mirrors_reference : Mirrors same Eq reference reference :=
  (mirrors_expect keeps .identifier .unexpected nofun).map fun _ _ found =>
    congrArg Expr.reference ((keeps _ _ found.1).text (by simp [found.2, Kind.isSpelled]))

private theorem mirrors_primary (mirrors : Mirrors same Eq rule rule') :
    Mirrors same Eq (primary rule) (primary rule') := by
  intro s s' matching
  simp only [primary, choose, ← (matching.alike keeps).kind]
  split
  · exact mirrors_numeral keeps s s' matching
  · exact mirrors_reference keeps s s' matching
  · exact mirrors_fail _ s s' matching
  · exact mirrors s s' matching
  · exact mirrors_fail _ s s' matching

theorem mirrors_additive (mirrors : Mirrors same Eq rule rule') :
    Mirrors same Eq (additive rule) (additive rule') :=
  mirrors_chain keeps (mirrors_chain keeps (mirrors_primary keeps mirrors) _) _

private theorem mirrors_binding (mirrors : Mirrors same Eq rule rule') :
    Mirrors same Eq (binding rule) (binding rule') := by
  refine (mirrors_expect keeps .identifier .nameMissing nofun).andThen fun name name' found => ?_
  have text : name.text = name'.text := (keeps _ _ found.1).text (by simp [found.2, Kind.isSpelled])
  refine (mirrors_expect keeps .equals .equalsMissing nofun).andThen fun _ _ _ => ?_
  refine (mirrors_additive keeps mirrors).map fun init init' meant => ?_
  rw [text, meant]

theorem mirrors_statement (mirrors : Mirrors same Eq rule rule') :
    Mirrors same Eq (statement rule) (statement rule') := by
  have binds := mirrors_binding keeps mirrors
  have keyword : Mirrors same Eq keyword keyword :=
    (mirrors_expect keeps .const .keywordMissing nofun).map fun _ _ found =>
      (keeps _ _ found.1).text (by simp [found.2, Kind.isSpelled])
  intro s s' matching
  simp only [statement, choose, ← (matching.alike keeps).kind]
  split
  · refine keyword.andThen (fun word word' spelled => ?_) s s' matching
    exact binds.map fun _ _ meant => by rw [spelled, meant]
  · exact binds.map (fun _ _ meant => by rw [meant]) s s' matching
  · exact mirrors_additive keeps mirrors s s' matching

private theorem mirrors_group (room : Nat) : Mirrors same Eq (group room) (group room) := by
  induction room with
  | zero => exact mirrors_fail _
  | succ room ih =>
    refine (mirrors_expect keeps .openParen .unexpected nofun).andThen fun _ _ _ => ?_
    refine (mirrors_statement keeps ih).deeper.andThen fun _ _ meant => ?_
    exact (mirrors_expect keeps .closeParen .groupUnclosed nofun).map fun _ _ _ => meant

theorem mirrors_within (limit : Nat) :
    Mirrors same Eq (within limit statement) (within limit statement) := by
  intro s s' matching
  rw [run_within congruent_statement, run_within congruent_statement, ← matching.depth]
  exact mirrors_statement keeps (mirrors_group keeps _) s s' matching

private theorem statementsOnto_matching (limit : Nat) (done : List Expr) {s s' : State}
    (matching : s.Matching same s') :
    Results same Eq (statementsOnto limit done s).result (statementsOnto limit done s').result := by
  have ends {s s' : State} (matching : s.Matching same s') : s.isAt .endOfInput = s'.isAt .endOfInput := by
    simp only [State.isAt, (matching.alike keeps).kind]
  -- The induction follows the run over the first list, and the other run keeps up with it.
  fun_induction statementsOnto limit done s generalizing s' with
  | case1 done s ended =>
    rw [statementsOnto_of_isAt done (ends matching ▸ ended)]
    exact .ok rfl
  | case2 done s going expr after ran ih =>
    have outcomes := mirrors_within keeps limit _ _ matching
    rw [statementsOnto_of_going done (by simpa [ends matching] using going)]
    generalize (within limit statement).run s' = outcome' at outcomes
    rw [ran] at outcomes
    cases outcomes with
    | ok meant behind =>
      subst meant
      exact ih behind
  | case3 done s going error after ran =>
    have outcomes := mirrors_within keeps limit _ _ matching
    rw [statementsOnto_of_going done (by simpa [ends matching] using going)]
    generalize (within limit statement).run s' = outcome' at outcomes
    rw [ran] at outcomes
    cases outcomes with
    | error failed => exact .error failed

end Sorts

end Grammar

theorem parseTokens_matching (keeps : Keeps same)
    {tokens tokens' : List Token} (matching : Matching same tokens tokens') :
    Results same Eq (parseTokens tokens) (parseTokens tokens') :=
  Grammar.statementsOnto_matching keeps Grammar.maxDepth [] ⟨matching, rfl⟩

end Formula
