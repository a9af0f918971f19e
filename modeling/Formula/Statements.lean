import Formula.Grammar

/-! A program is a run of statements with nothing between them. It ends where
the input does, or at the first token that says so; later tokens do not count. -/

namespace Formula

structure Progress where
  body : List Expr
  failure : Option ParseError
  state : State

namespace Progress

def result (progress : Progress) : Except ParseError Program :=
  match progress.failure with
  | none => .ok ⟨progress.body⟩
  | some error => .error error

end Progress

namespace Grammar

/-- Read statements up to the end, adding to those in `done`, which are held
latest first. -/
def statementsOnto (limit : Nat) (done : List Expr) (s : State) : Progress :=
  if s.isAt .endOfInput then ⟨done.reverse, none, s⟩
  else
    match _ran : (within limit statement).run s with
    | (.ok expr, after) => statementsOnto limit (expr :: done) after
    | (.error error, after) => ⟨done.reverse, some error, after⟩
termination_by s.rest.length
decreasing_by
  have used := (within limit statement).consumes (congrArg Prod.fst _ran)
  rwa [_ran] at used

def statements (limit : Nat) (s : State) : Progress := statementsOnto limit [] s

theorem statementsOnto_eq (limit : Nat) (done : List Expr) (s : State) :
    statementsOnto limit done s =
      { statements limit s with body := done.reverse ++ (statements limit s).body } := by
  unfold statements
  induction size : s.rest.length using Nat.strongRecOn generalizing done s with
  | ind size ih =>
    subst size
    rw [statementsOnto, statementsOnto]
    split
    · simp
    · split
      · next expr after ran =>
        have used := (within limit statement).consumes (congrArg Prod.fst ran)
        rw [ran] at used
        rw [ih _ used (expr :: done) after rfl, ih _ used [expr] after rfl]
        simp
      · simp

end Grammar
end Formula
