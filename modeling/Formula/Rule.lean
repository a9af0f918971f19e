import Formula.Expr
import Formula.ParseError

/-! Rules read phrases from the front of a list of tokens. A rule answers with
the meaning of a phrase or with an error, says what is left in both cases, and
tells the states it came through. It gets there by single moves, so it never puts
a token back or makes one up, and a phrase it accepts has at least one token: both
are part of what a rule is, and they are why repetition ends. -/

namespace Formula

/-- The tokens that are left, and how many groups are open around them. -/
structure State where
  rest : List Token
  depth : Nat
deriving DecidableEq

namespace State

def current (s : State) : Option Token := s.rest.head?

/-- The next token; behind the last one stands the end of the input. -/
def peek (s : State) : Token := s.current.getD .endOfInput

def advance (s : State) : State := { s with rest := s.rest.tail }

def isAt (s : State) (kind : Kind) : Bool := s.peek.kind = kind

def operator? (s : State) : Option Operator := s.peek.operator?

theorem advance_suffix (s : State) : s.advance.rest <:+ s.rest := List.tail_suffix _

end State

inductive Move (s : State) : State → Prop where
  | take : Move s s.advance
  | enter : Move s { s with depth := s.depth + 1 }
  | leave : Move s { s with depth := s.depth - 1 }

/-- Moves from one state to another, with the states they come to. -/
inductive Path : State → List State → State → Prop where
  | here {s : State} : Path s [] s
  | move {s middle after : State} {states : List State} (first : Move s middle)
      (onward : Path middle states after) : Path s (middle :: states) after

namespace Path

variable {s middle after : State} {states more : List State}

theorem single (move : Move s after) : Path s [after] after := .move move .here

theorem append (path : Path s states middle) (onward : Path middle more after) :
    Path s (states ++ more) after := by
  induction path with
  | here => exact onward
  | move first _ ih => exact .move first (ih onward)

theorem suffix (path : Path s states after) : after.rest <:+ s.rest := by
  induction path with
  | here => exact List.suffix_refl _
  | @move s _ _ _ first _ ih =>
    refine ih.trans ?_
    cases first with
    | take => exact s.advance_suffix
    | enter | leave => exact List.suffix_refl _

end Path

/-- A run comes to the states of its course, in their order, and ends at the last of them. -/
structure Rule (α : Type) where
  run : State → Except ParseError α × State
  course : State → List State
  path : ∀ s, Path s (course s) (run s).2
  consumes : ∀ {s a}, (run s).1 = .ok a → (run s).2.rest.length < s.rest.length

namespace Rule

theorem suffix (rule : Rule α) (s : State) : (rule.run s).2.rest <:+ s.rest := (rule.path s).suffix

/-- One token of the given kind. The token is taken even if it is of another. -/
def expect (kind : Kind) (reason : Reason) : Rule Token where
  run s :=
    match s.rest with
    | [] => (.error ⟨reason, none, some kind⟩, s)
    | token :: rest =>
      (if token.kind = kind then .ok token else .error ⟨reason, some token, some kind⟩,
        { s with rest })
  course s :=
    match s.rest with
    | [] => []
    | _ :: _ => [s.advance]
  path s := by
    obtain ⟨rest, depth⟩ := s
    cases rest with
    | nil => exact .here
    | cons token rest => exact .single .take
  consumes {s _} accepted := by split <;> simp_all

/-- No phrase: an error at the next token, which is left where it is. -/
def fail (reason : Reason) : Rule α where
  run s := (.error ⟨reason, s.current, none⟩, s)
  course _ := []
  path _ := .here
  consumes accepted := nomatch accepted

/-- A phrase whose meaning is put into another form, or is refused after all. -/
def refine (rule : Rule α) (judge : α → Except ParseError β) : Rule β where
  run s :=
    match rule.run s with
    | (meaning, after) => (meaning.bind judge, after)
  course := rule.course
  path s := rule.path s
  consumes {s _} accepted := by
    cases meaning : (rule.run s).1 with
    | error e => simp [meaning, Except.bind] at accepted
    | ok a => exact rule.consumes meaning

def map (f : α → β) (rule : Rule α) : Rule β := rule.refine (.ok ∘ f)

def andThen (first : Rule α) (next : α → Rule β) : Rule β where
  run s :=
    match first.run s with
    | (.ok a, after) => (next a).run after
    | (.error e, after) => (.error e, after)
  course s :=
    match first.run s with
    | (.ok a, after) => first.course s ++ (next a).course after
    | (.error _, _) => first.course s
  path s := by
    have front := first.path s
    rcases ran : first.run s with ⟨e | a, after⟩ <;> rw [ran] at front
    · exact front
    · exact front.append ((next a).path after)
  consumes {s b} accepted := by
    split at accepted
    · next a after ran =>
      have front := (first.suffix s).length_le
      have used := (next a).consumes accepted
      rw [ran] at front
      exact Nat.lt_of_lt_of_le used front
    · cases accepted

def choose (pick : State → Rule α) : Rule α where
  run s := (pick s).run s
  course s := (pick s).course s
  path s := (pick s).path s
  consumes {s _} accepted := (pick s).consumes accepted

/-- A phrase with one more group open around it. -/
def deeper (rule : Rule α) : Rule α where
  run s :=
    match rule.run { s with depth := s.depth + 1 } with
    | (meaning, after) => (meaning, { after with depth := after.depth - 1 })
  course s :=
    let opened := { s with depth := s.depth + 1 }
    let after := (rule.run opened).2
    opened :: rule.course opened ++ [{ after with depth := after.depth - 1 }]
  path _ := .move .enter ((rule.path _).append (.single .leave))
  consumes {s _} accepted := rule.consumes (s := { s with depth := s.depth + 1 }) accepted

/-- Operators of one level and the operands behind them, folded to the left
onto the operand `left`. -/
def foldOnto (operand : Rule Expr) (level : Operator → Bool) (left : Expr) (s : State) :
    Except ParseError Expr × State :=
  match s.operator?.filter level with
  | none => (.ok left, s)
  | some op =>
    match _ran : operand.run s.advance with
    | (.ok right, after) => foldOnto operand level (.binary left op right) after
    | (.error e, after) => (.error e, after)
termination_by s.rest.length
decreasing_by
  have used := operand.consumes (congrArg Prod.fst _ran)
  have front := s.advance_suffix.length_le
  rw [_ran] at used
  exact Nat.lt_of_lt_of_le used front

def foldCourse (operand : Rule Expr) (level : Operator → Bool) (s : State) : List State :=
  match s.operator?.filter level with
  | none => []
  | some _ =>
    s.advance :: operand.course s.advance ++
      match _ran : operand.run s.advance with
      | (.ok _, after) => foldCourse operand level after
      | (.error _, _) => []
termination_by s.rest.length
decreasing_by
  have used := operand.consumes (congrArg Prod.fst _ran)
  have front := s.advance_suffix.length_le
  rw [_ran] at used
  exact Nat.lt_of_lt_of_le used front

theorem foldCourse_of_next {operand : Rule Expr} {level : Operator → Bool} {s : State} {op : Operator}
    (next : s.operator?.filter level = some op) :
    foldCourse operand level s = s.advance :: operand.course s.advance ++
      match operand.run s.advance with
      | (.ok _, after) => foldCourse operand level after
      | (.error _, _) => [] := by
  rw [foldCourse, next]
  dsimp only
  split <;> simp only [*]

theorem foldOnto_path (operand : Rule Expr) (level : Operator → Bool) (left : Expr) (s : State) :
    Path s (foldCourse operand level s) (foldOnto operand level left s).2 := by
  fun_induction foldOnto operand level left s with
  | case1 left s ended =>
    rw [foldCourse, ended]
    exact .here
  | case2 left s op next right after ran ih =>
    have front := operand.path s.advance
    rw [foldCourse_of_next next]
    rw [ran] at front ⊢
    exact .move .take (front.append ih)
  | case3 left s op next e after ran =>
    have front := operand.path s.advance
    rw [foldCourse_of_next next]
    rw [ran] at front ⊢
    exact .move .take (front.append .here)

def chain (operand : Rule Expr) (level : Operator → Bool) : Rule Expr where
  run s :=
    match operand.run s with
    | (.ok left, after) => foldOnto operand level left after
    | (.error e, after) => (.error e, after)
  course s :=
    match operand.run s with
    | (.ok _, after) => operand.course s ++ foldCourse operand level after
    | (.error _, _) => operand.course s
  path s := by
    have front := operand.path s
    rcases ran : operand.run s with ⟨e | left, after⟩ <;> rw [ran] at front
    · exact front
    · exact front.append (foldOnto_path operand level left after)
  consumes {s _} accepted := by
    split at accepted
    · next left after ran =>
      have used := operand.consumes (congrArg Prod.fst ran)
      have front := (foldOnto_path operand level left after).suffix.length_le
      simp only [ran] at used ⊢
      exact Nat.lt_of_le_of_lt front used
    · cases accepted

end Rule
end Formula
