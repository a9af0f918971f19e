import Mathlib.Data.List.Count
import Formula.Proofs.GrammarPrograms

/-! Ways down into a tree. Each edge goes to a value that is given, or to an operand of an
operator. Where groups may be nested only so far, no way down goes often to a value or to a
right operand: between two parentheses there is at most one statement around the operands,
and of the operators of a level only one has the rest of the way on its right. Chains may be
as long as they like, but they grow to the left. -/

namespace Formula

/-- Where a way into a tree goes on. The name that a keyword declares and the value it is
given are one step away. -/
inductive Edge where
  | init
  | left
  | right
deriving DecidableEq

namespace Expr

def child? : Expr → Edge → Option Expr
  | assign _ init, .init | declare _ _ init, .init => some init
  | binary left _ _, .left => some left
  | binary _ _ right, .right => some right
  | _, _ => none

def follow? (expr : Expr) : List Edge → Option Expr
  | [] => some expr
  | edge :: path => (expr.child? edge).bind (·.follow? path)

/-- No way down goes more often to a value or to a right operand. -/
def LeansLeft (inits rights : Nat) (expr : Expr) : Prop :=
  ∀ path goal, expr.follow? path = some goal → path.count .init ≤ inits ∧ path.count .right ≤ rights

namespace LeansLeft

variable {inits rights : Nat} {expr left right : Expr}

/-- It is enough that the children lean left, by one less where the edge to them counts. -/
theorem of_children (children : ∀ edge child, expr.child? edge = some child →
    ∃ inits' rights', child.LeansLeft inits' rights' ∧ inits' + [edge].count .init ≤ inits ∧
      rights' + [edge].count .right ≤ rights) : expr.LeansLeft inits rights := by
  intro path goal leads
  cases path with
  | nil => exact ⟨Nat.zero_le _, Nat.zero_le _⟩
  | cons edge path =>
    obtain ⟨child, down, onward⟩ := Option.bind_eq_some_iff.mp leads
    obtain ⟨inits', rights', leans, enough, enough'⟩ := children edge child down
    obtain ⟨few, few'⟩ := leans path goal onward
    rw [← List.singleton_append, List.count_append, List.count_append]
    omega

theorem leaf (alone : ∀ edge, expr.child? edge = none) : expr.LeansLeft inits rights := by
  apply of_children
  intro edge child down
  rw [alone] at down
  cases down

theorem given {init : Expr} (only : ∀ edge child, expr.child? edge = some child → edge = .init ∧ child = init)
    (leans : init.LeansLeft inits rights) : expr.LeansLeft (inits + 1) rights := by
  apply of_children
  intro edge child down
  obtain ⟨rfl, rfl⟩ := only edge child down
  exact ⟨inits, rights, leans, Nat.le_refl _, Nat.le_refl _⟩

theorem binary (op : Operator) (leans : left.LeansLeft inits (rights + 1))
    (leans' : right.LeansLeft inits rights) : (Expr.binary left op right).LeansLeft inits (rights + 1) := by
  apply of_children
  intro edge child down
  cases edge with
  | init => cases down
  | left =>
    cases down
    exact ⟨inits, rights + 1, leans, Nat.le_refl _, Nat.le_refl _⟩
  | right =>
    cases down
    exact ⟨inits, rights, leans', Nat.le_refl _, Nat.le_refl _⟩

theorem mono {inits' rights' : Nat} (leans : expr.LeansLeft inits rights) (more : inits ≤ inits')
    (more' : rights ≤ rights') : expr.LeansLeft inits' rights' := by
  intro path goal leads
  obtain ⟨few, few'⟩ := leans path goal leads
  exact ⟨Nat.le_trans few more, Nat.le_trans few' more'⟩

end LeansLeft
end Expr

namespace Phrases

def LeanLeft (phrases : Phrases Expr) (inits rights : Nat) : Prop :=
  ∀ d, (phrases.meaning d).LeansLeft inits rights

variable {operand group : Phrases Expr} {level : Operator → Bool} {inits rights : Nat}

/-- Only the last of a chain's operands that a way comes to is on the right of it. -/
private theorem leansLeft_fold (leans : operand.LeanLeft inits rights) (links : List (Link operand level))
    {left : Expr}
    (front : left.LeansLeft inits (rights + 1)) : (fold left links).LeansLeft inits (rights + 1) := by
  induction links generalizing left with
  | nil => exact front
  | cons link links ih =>
    apply ih
    exact front.binary link.op (leans link.right)

theorem leanLeft_chain (leans : operand.LeanLeft inits rights) :
    (operand.chain level).LeanLeft inits (rights + 1) := by
  intro d
  apply leansLeft_fold leans
  exact (leans d.first).mono (Nat.le_refl _) (Nat.le_succ _)

private theorem leanLeft_primary (leans : group.LeanLeft inits rights) :
    (primary group).LeanLeft inits rights := by
  intro d
  cases d with
  | number => exact .leaf fun _ => rfl
  | name => exact .leaf fun _ => rfl
  | group inner => exact leans inner

theorem leanLeft_additive (leans : group.LeanLeft inits rights) :
    (additive group).LeanLeft inits (rights + 2) :=
  leanLeft_chain (leanLeft_chain (leanLeft_primary leans))

theorem leanLeft_statement (leans : group.LeanLeft inits rights) :
    (statement group).LeanLeft (inits + 1) (rights + 2) := by
  intro d
  cases d with
  | declaration word isConst bound =>
    apply Expr.LeansLeft.given _ (leanLeft_additive leans bound.init)
    rintro ⟨⟩ child ⟨⟩
    exact ⟨rfl, rfl⟩
  | assignment bound =>
    apply Expr.LeansLeft.given _ (leanLeft_additive leans bound.init)
    rintro ⟨⟩ child ⟨⟩
    exact ⟨rfl, rfl⟩
  | plain value noName => exact (leanLeft_additive leans value).mono (Nat.le_succ _) (Nat.le_refl _)

private theorem leanLeft_group (room : Nat) : (Phrases.group room).LeanLeft room (2 * room) := by
  induction room with
  | zero => exact nofun
  | succ room ih =>
    intro d
    exact leanLeft_statement ih d.inside

end Phrases

private theorem Edge.countP_ne_left (path : List Edge) :
    path.countP (· ≠ .left) = path.count .init + path.count .right := by
  induction path with
  | nil => rfl
  | cons edge path ih =>
    rw [List.countP_cons, ih]
    cases edge <;> simp [Nat.add_assoc, Nat.add_comm, Nat.add_left_comm]

/-- However long a program is, no way into its trees goes often to a value or to a right
operand. All other steps are to left operands. -/
theorem parsed_paths_lean_left :
    ∀ tokens program, parseTokens tokens = .ok program → ∀ expr ∈ program.body, ∀ path goal,
      expr.follow? path = some goal →
        path.count .init ≤ Grammar.maxDepth + 1 ∧ path.count .right ≤ 2 * (Grammar.maxDepth + 1) ∧
          path.countP (· ≠ .left) ≤ 3 * (Grammar.maxDepth + 1) := by
  intro tokens program parsed expr member path goal leads
  obtain ⟨d⟩ := result_statements_iff.mp parsed
  rw [← d.meant] at member
  obtain ⟨statement, -, rfl⟩ := List.mem_map.mp member
  have leans := Phrases.leanLeft_statement (Phrases.leanLeft_group Grammar.maxDepth) statement
  obtain ⟨inits, rights⟩ := leans path goal leads
  have count := Edge.countP_ne_left path
  refine ⟨inits, rights, ?_⟩
  omega

/-- The difference is declared, and the product, which is on its right, is given a name. -/
theorem parsed_paths_lean_left_product :
    ∃ expr goal, Source.parse "const x = 8 - (y = 5 * 3)" = .ok ⟨[expr]⟩ ∧
      expr.follow? [.init, .right, .init, .right] = some goal ∧
      [Edge.init, .right, .init, .right].countP (· ≠ .left) ≤ 3 * (Grammar.maxDepth + 1) := by
  let three : Expr := .number (.nearest false 3 1)
  let product : Expr := .binary (.number (.nearest false 5 1)) .mul three
  let whole : Expr := .declare "const" "x" (.binary (.number (.nearest false 8 1)) .sub (.assign "y" product))
  have parsed : Source.parse "const x = 8 - (y = 5 * 3)" = .ok ⟨[whole]⟩ := by decide +kernel
  refine ⟨whole, three, parsed, rfl, ?_⟩
  exact (parsed_paths_lean_left _ _ parsed whole List.mem_cons_self _ three rfl).2.2

end Formula
