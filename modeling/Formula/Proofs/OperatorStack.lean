import Formula.Proofs.Printing
import Formula.Token

/-! Operators without a grammar. One reader keeps the operators whose right operand is not
complete on a stack, and applies those that bind tightly enough whenever another one comes.
A rule says beside it what the value of a row of tokens is by convention: of the operators
outside parentheses that bind least the last one is applied last. What has a value by that
rule the reader finds the value of, so there is never more than one. -/

namespace Formula

universe u

structure Interpretation (α : Type u) where
  number : Binary64 → α
  name : String → α
  apply : Operator → α → α → α

/-- They stand for the trees that are written with them. -/
def Interpretation.trees : Interpretation Expr where
  number := .number
  name := .reference
  apply op left right := .binary left op right

/-- The value of a tree in which nothing is declared. -/
def Expr.value? {α : Type u} (meaning : Interpretation α) : Expr → Option α
  | number x => some (meaning.number x)
  | reference name => some (meaning.name name)
  | assign _ _ | announce _ _ | declare _ _ _ => none
  | binary left op right =>
    match left.value? meaning, right.value? meaning with
    | some first, some second => some (meaning.apply op first second)
    | _, _ => none

theorem Expr.eq_of_value?_trees {expr tree : Expr} (found : expr.value? .trees = some tree) : tree = expr := by
  induction expr generalizing tree with
  | number | reference => exact (Option.some.inj found).symm
  | assign | announce | declare => cases found
  | binary left op right first second =>
    unfold Expr.value? at found
    split at found
    · next left' right' seen seen' =>
      rw [← Option.some.inj found, first seen, second seen']
      rfl
    · cases found

/-- What is kept until more tokens have come. -/
inductive Pending where
  | operator (op : Operator)
  | paren
deriving DecidableEq

/-- The values that wait for an operator, and what waits for its operands. -/
structure Waiting (α : Type u) where
  values : List α
  pending : List Pending
deriving DecidableEq

namespace Waiting

variable {α : Type u} (meaning : Interpretation α)

def push (waiting : Waiting α) (value : α) : Waiting α := { waiting with values := value :: waiting.values }

def hold (waiting : Waiting α) (pending : Pending) : Waiting α := { waiting with pending := pending :: waiting.pending }

def operate (op : Operator) : List α → Option (List α)
  | right :: left :: values => some (meaning.apply op left right :: values)
  | _ => none

/-- Apply the operators on top that bind at least so tightly, up to a parenthesis. -/
def settleFrom (rank : Nat) (values : List α) : List Pending → Option (Waiting α)
  | .operator op :: pending =>
    if rank ≤ op.rank then (operate meaning op values).bind fun values => settleFrom rank values pending
    else some ⟨values, .operator op :: pending⟩
  | pending => some ⟨values, pending⟩

def settle (rank : Nat) (waiting : Waiting α) : Option (Waiting α) :=
  settleFrom meaning rank waiting.values waiting.pending

def close (waiting : Waiting α) : Option (Waiting α) :=
  match settle meaning 0 waiting with
  | some ⟨values, .paren :: pending⟩ => some ⟨values, pending⟩
  | _ => none

def step (waiting : Waiting α) (token : Token) : Option (Waiting α) :=
  match token.kind with
  | .number => (Binary64.read? token.text).map fun x => waiting.push (meaning.number x)
  | .identifier => some (waiting.push (meaning.name token.text))
  | .binaryOperator =>
    token.operator?.bind fun op => (settle meaning op.rank waiting).map (·.hold (.operator op))
  | .openParen => some (waiting.hold .paren)
  | .closeParen => waiting.close meaning
  | _ => none

def run (waiting : Waiting α) : List Token → Option (Waiting α)
  | [] => some waiting
  | token :: tokens => (waiting.step meaning token).bind fun after => after.run tokens

def value? (tokens : List Token) : Option α :=
  match (run meaning ⟨[], []⟩ tokens).bind (settle meaning 0) with
  | some ⟨[value], []⟩ => some value
  | _ => none

def Below (least : Nat) (waiting : Waiting α) : Prop :=
  ∀ op, waiting.pending.head? = some (.operator op) → op.rank < least

end Waiting

/-- The value of tokens by convention, where no operator outside parentheses may bind less
tightly than `least`. What stands before an operator may bind as tightly as it does, and
what stands behind it must bind more tightly. -/
inductive Conventional {α : Type u} (meaning : Interpretation α) : Nat → List Token → α → Prop where
  | number {least : Nat} {token : Token} {x : Binary64} (isNumber : token.kind = .number)
      (isNumeral : Binary64.read? token.text = some x) : Conventional meaning least [token] (meaning.number x)
  | name {least : Nat} {token : Token} (isName : token.kind = .identifier) :
      Conventional meaning least [token] (meaning.name token.text)
  | parenthesised {least : Nat} {opening closing : Token} {tokens : List Token} {value : α}
      (isOpening : opening.kind = .openParen) (isClosing : closing.kind = .closeParen)
      (inside : Conventional meaning 0 tokens value) :
      Conventional meaning least (opening :: (tokens ++ [closing])) value
  | operation {least : Nat} {op : Operator} {sign : Token} {front back : List Token} {left right : α}
      (next : sign.operator? = some op) (binds : least ≤ op.rank)
      (first : Conventional meaning op.rank front left)
      (second : Conventional meaning (op.rank + 1) back right) :
      Conventional meaning least (front ++ sign :: back) (meaning.apply op left right)

variable {α : Type u} {meaning : Interpretation α}

theorem Conventional.mono {least less : Nat} {tokens : List Token} {value : α} (le : less ≤ least)
    (conventional : Conventional meaning least tokens value) : Conventional meaning less tokens value := by
  cases conventional with
  | number isNumber isNumeral => exact .number isNumber isNumeral
  | name isName => exact .name isName
  | parenthesised isOpening isClosing inside => exact .parenthesised isOpening isClosing inside
  | operation next binds first second => exact .operation next (Nat.le_trans le binds) first second

namespace Waiting

theorem Below.mono {least more : Nat} {waiting : Waiting α} (below : waiting.Below least) (le : least ≤ more) :
    waiting.Below more := fun op top => Nat.lt_of_lt_of_le (below op top) le

private theorem below_hold_paren (least : Nat) (waiting : Waiting α) :
    (waiting.hold .paren).Below least := nofun

private theorem below_hold_operator (op : Operator) (waiting : Waiting α) :
    (waiting.hold (.operator op)).Below (op.rank + 1) := by
  intro op' top
  cases top
  exact Nat.lt_succ_self _

private theorem settle_of_below {least rank : Nat} {waiting : Waiting α} (below : waiting.Below least)
    (le : least ≤ rank) :
    settle meaning rank waiting = some waiting := by
  obtain ⟨values, pending⟩ := waiting
  cases pending with
  | nil => rfl
  | cons top pending =>
    cases top with
    | paren => rfl
    | operator op =>
      have less : op.rank < rank := Nat.lt_of_lt_of_le (below op rfl) le
      rw [settle, settleFrom, if_neg (Nat.not_le_of_lt less)]

private theorem settle_operator {rank : Nat} {op : Operator} (le : rank ≤ op.rank) (waiting : Waiting α)
    (left right : α) :
    settle meaning rank (((waiting.push left).hold (.operator op)).push right) =
      settle meaning rank (waiting.push (meaning.apply op left right)) := by
  simp [settle, push, hold, settleFrom, operate, le]

theorem run_append (waiting : Waiting α) (front back : List Token) :
    run meaning waiting (front ++ back) = (run meaning waiting front).bind fun after => run meaning after back := by
  induction front generalizing waiting with
  | nil => rfl
  | cons token front ih =>
    rw [List.cons_append, run, run]
    cases step meaning waiting token with
    | none => rfl
    | some after => exact ih after

/-- The tokens of a value leave it on the stack, or operators above it that come to it as
soon as any operator may be applied that binds as little as those of the tokens may. -/
structure Leaves (meaning : Interpretation α) (least : Nat) (waiting : Waiting α) (tokens : List Token)
    (value : α) (after : Waiting α) : Prop where
  ran : run meaning waiting tokens = some after
  settled : ∀ rank ≤ least, settle meaning rank after = settle meaning rank (waiting.push value)

theorem leaves_push {least : Nat} {waiting : Waiting α} {token : Token} {value : α}
    (pushes : step meaning waiting token = some (waiting.push value)) :
    Leaves meaning least waiting [token] value (waiting.push value) :=
  ⟨by rw [run, pushes]; rfl, fun _ _ => rfl⟩

theorem Leaves.parenthesised {least : Nat} {waiting after : Waiting α} {opening closing : Token}
    {tokens : List Token} {value : α} (isOpening : opening.kind = .openParen)
    (isClosing : closing.kind = .closeParen)
    (inside : Leaves meaning 0 (waiting.hold .paren) tokens value after) :
    Leaves meaning least waiting (opening :: (tokens ++ [closing])) value (waiting.push value) := by
  have opened : step meaning waiting opening = some (waiting.hold .paren) := by simp [step, isOpening]
  have settled : settle meaning 0 after = some ((waiting.hold .paren).push value) := inside.settled 0 (Nat.le_refl _)
  have closed : step meaning after closing = some (waiting.push value) := by
    simp [step, isClosing, close, settled, push, hold]
  refine ⟨?_, fun _ _ => rfl⟩
  rw [run, opened, Option.bind_some, run_append, inside.ran, Option.bind_some, run, closed]
  rfl

theorem Leaves.operation {least : Nat} {waiting middle after : Waiting α} {op : Operator} {sign : Token}
    {front back : List Token} {left right : α} (next : sign.operator? = some op) (binds : least ≤ op.rank)
    (below : waiting.Below least) (first : Leaves meaning op.rank waiting front left middle)
    (second : Leaves meaning (op.rank + 1) ((waiting.push left).hold (.operator op)) back right after) :
    Leaves meaning least waiting (front ++ sign :: back) (meaning.apply op left right) after := by
  have pushed : (waiting.push left).Below least := below
  have settled : settle meaning op.rank middle = some (waiting.push left) := by
    rw [first.settled _ (Nat.le_refl _), settle_of_below pushed binds]
  have signed : step meaning middle sign = some ((waiting.push left).hold (.operator op)) := by
    simp [step, (Token.operator?_eq_some_iff.mp next).1, next, settled]
  refine ⟨?_, fun rank le => ?_⟩
  · rw [run_append, first.ran, Option.bind_some, run, signed, Option.bind_some, second.ran]
  · have applied : rank ≤ op.rank := Nat.le_trans le binds
    rw [second.settled rank (Nat.le_succ_of_le applied), settle_operator applied]

private theorem exists_leaves {least : Nat} {tokens : List Token} {value : α}
    (conventional : Conventional meaning least tokens value) {waiting : Waiting α} (below : waiting.Below least) :
    ∃ after, Leaves meaning least waiting tokens value after := by
  induction conventional generalizing waiting with
  | number isNumber isNumeral => exact ⟨_, leaves_push (by simp [step, isNumber, isNumeral])⟩
  | name isName => exact ⟨_, leaves_push (by simp [step, isName])⟩
  | parenthesised isOpening isClosing inside ih =>
    obtain ⟨after, inside⟩ := ih (below_hold_paren 0 waiting)
    exact ⟨_, inside.parenthesised isOpening isClosing⟩
  | operation next binds first second ih ih' =>
    obtain ⟨middle, first⟩ := ih (below.mono binds)
    obtain ⟨after, second⟩ := ih' (below_hold_operator _ _)
    exact ⟨after, first.operation next binds below second⟩

theorem value?_of_conventional {tokens : List Token} {value : α} (conventional : Conventional meaning 0 tokens value) :
    value? meaning tokens = some value := by
  have empty : Below 0 (⟨[], []⟩ : Waiting α) := nofun
  obtain ⟨after, ran, settled⟩ := exists_leaves conventional empty
  rw [value?, ran, Option.bind_some, settled 0 (Nat.le_refl _)]
  rfl

end Waiting

theorem Conventional.unique {tokens : List Token} {value other : α}
    (conventional : Conventional meaning 0 tokens value) (again : Conventional meaning 0 tokens other) :
    value = other :=
  Option.some.inj ((Waiting.value?_of_conventional conventional).symm.trans (Waiting.value?_of_conventional again))

end Formula
