import Formula.Proofs.GrammarPrograms
import Formula.Proofs.OperatorStack

/-! The order in which the operators of a program are applied. The two levels of the grammar
give tokens without declarations the value that they have by convention, whatever the
numbers, names and operators stand for. A reader that keeps operators on a stack finds the
same value, and if they stand for trees it finds the tree of the program. -/

namespace Formula

universe u

/-- Tokens of the kinds that stand in phrases without declarations. -/
def Plain (tokens : List Token) : Prop :=
  ∀ token ∈ tokens, token.kind ∈ [.number, .identifier, .binaryOperator, .openParen, .closeParen]

instance (tokens : List Token) : Decidable (Plain tokens) := inferInstanceAs (Decidable (∀ token ∈ tokens, _))

theorem plain_append_iff {front back : List Token} : Plain (front ++ back) ↔ Plain front ∧ Plain back :=
  List.forall_mem_append

/-- The value of the tree is the one that the tokens have by convention. -/
def Valued {α : Type u} (meaning : Interpretation α) (least : Nat) (tokens : List Token) (expr : Expr) : Prop :=
  ∃ value, expr.value? meaning = some value ∧ Conventional meaning least tokens value

variable {α : Type u} {meaning : Interpretation α}

namespace Valued

theorem mono {least less : Nat} {tokens : List Token} {expr : Expr} (le : less ≤ least)
    (valued : Valued meaning least tokens expr) : Valued meaning less tokens expr := by
  obtain ⟨value, found, conventional⟩ := valued
  exact ⟨value, found, conventional.mono le⟩

theorem operation {op : Operator} {sign : Token} {front back : List Token} {left right : Expr}
    (next : sign.operator? = some op) (first : Valued meaning op.rank front left)
    (second : Valued meaning (op.rank + 1) back right) :
    Valued meaning op.rank (front ++ sign :: back) (.binary left op right) := by
  obtain ⟨value, found, conventional⟩ := first
  obtain ⟨value', found', conventional'⟩ := second
  exact ⟨meaning.apply op value value', by simp [Expr.value?, found, found'],
    .operation next (Nat.le_refl _) conventional conventional'⟩

theorem parenthesised {least : Nat} {opening closing : Token} {tokens : List Token} {expr : Expr}
    (isOpening : opening.kind = .openParen) (isClosing : closing.kind = .closeParen)
    (inside : Valued meaning 0 tokens expr) : Valued meaning least (opening :: (tokens ++ [closing])) expr := by
  obtain ⟨value, found, conventional⟩ := inside
  exact ⟨value, found, .parenthesised isOpening isClosing conventional⟩

end Valued

namespace Phrases

/-- The plain phrases of the sort mean what they do by convention, where no operator outside
parentheses binds less tightly than `least`. -/
def Conforms (phrases : Phrases Expr) (meaning : Interpretation α) (least : Nat) : Prop :=
  ∀ d, Plain (phrases.tokens d) → Valued meaning least (phrases.tokens d) (phrases.meaning d)

variable {operand group : Phrases Expr} {level : Operator → Bool}

private theorem valued_fold {rank : Nat} (ranks : ∀ op, level op = true → op.rank = rank)
    (conforms : operand.Conforms meaning (rank + 1)) {front : List Token} {left : Expr}
    (links : List (Link operand level)) (plain : Plain (links.flatMap Link.tokens))
    (first : Valued meaning rank front left) :
    Valued meaning rank (front ++ links.flatMap Link.tokens) (fold left links) := by
  induction links generalizing front left with
  | nil => simpa [fold] using first
  | cons link links ih =>
    obtain rfl := ranks link.op link.inside
    obtain ⟨here, later⟩ := plain_append_iff.mp plain
    obtain ⟨-, right⟩ := List.forall_mem_cons.mp here
    have operation := first.operation link.operator?_sign (conforms link.right right)
    simpa [Link.tokens, fold] using ih later operation

theorem conforms_chain {rank : Nat} (ranks : ∀ op, level op = true → op.rank = rank)
    (conforms : operand.Conforms meaning (rank + 1)) : (operand.chain level).Conforms meaning rank := by
  intro d plain
  obtain ⟨first, links⟩ := plain_append_iff.mp plain
  exact valued_fold ranks conforms d.links links ((conforms d.first first).mono (Nat.le_succ rank))

private theorem conforms_primary {least : Nat} (conforms : group.Conforms meaning least) :
    (primary group).Conforms meaning least := by
  intro d plain
  cases d with
  | number token x isNumber isNumeral => exact ⟨_, rfl, .number isNumber isNumeral⟩
  | name token isName => exact ⟨_, rfl, .name isName⟩
  | group inner => exact conforms inner plain

private theorem conforms_additive (conforms : group.Conforms meaning 3) :
    (additive group).Conforms meaning 1 := by
  have product : (multiplicative group).Conforms meaning 2 :=
    conforms_chain (fun op inside => by cases op <;> simp_all [Operator.isMultiplicative, Operator.rank,
      Operator.isAdditive]) (conforms_primary conforms)
  exact conforms_chain (fun op inside => by simp [Operator.rank, inside]) product

/-- Without a keyword and an equals sign nothing is declared. -/
theorem conforms_statement (conforms : group.Conforms meaning 3) : (statement group).Conforms meaning 0 := by
  intro d plain
  cases d with
  | declaration word isConst bound =>
    have wrong := plain word List.mem_cons_self
    simp [isConst] at wrong
  | assignment bound =>
    have wrong := plain bound.equals (by simp [statement, binding])
    simp [bound.isEquals] at wrong
  | plain value noName => exact (conforms_additive conforms value plain).mono (Nat.zero_le 1)

private theorem conforms_group (room : Nat) : (Phrases.group room).Conforms meaning 3 := by
  induction room with
  | zero => exact nofun
  | succ room ih =>
    intro d plain
    obtain ⟨-, more⟩ := List.forall_mem_cons.mp plain
    obtain ⟨inside, -⟩ := plain_append_iff.mp more
    exact (conforms_statement ih d.inside inside).parenthesised d.isOpening d.isClosing

end Phrases

theorem valued_of_parsed {limit : Nat} {tokens : List Token} {expr : Expr} (plain : Plain tokens)
    (parsed : parseWithin limit tokens = .ok ⟨[expr]⟩) : Valued meaning 0 tokens expr := by
  have inside : ∀ token ∈ tokens, token.kind ≠ .endOfInput := by
    intro token member isEnd
    have wrong := plain token member
    simp [isEnd] at wrong
  obtain ⟨ds, spelled, meant⟩ := result_statements_iff.mp parsed
  obtain ⟨d, rfl, rfl⟩ := List.map_eq_singleton_iff.mp meant
  rw [beforeEnd_eq_self inside, List.flatMap_singleton] at spelled
  subst spelled
  exact Phrases.conforms_statement (Phrases.conforms_group limit) d plain

/-- One statement without declarations is the tree that a reader with a stack of operators
builds from its tokens. Whatever they stand for, its value is the one that this reader
finds, and it is the only one that the tokens have by convention. -/
theorem operators_in_order (tokens : List Token) (expr : Expr) (plain : Plain tokens)
    (parsed : parseTokens tokens = .ok ⟨[expr]⟩) :
    Waiting.value? .trees tokens = some expr ∧
      ∀ {α : Type u} (meaning : Interpretation α), ∃ value, expr.value? meaning = some value ∧
        Waiting.value? meaning tokens = some value ∧
        ∀ other, Conventional meaning 0 tokens other ↔ other = value := by
  have valued {α : Type u} (meaning : Interpretation α) : Valued meaning 0 tokens expr := valued_of_parsed plain parsed
  constructor
  · obtain ⟨tree, found, conventional⟩ : Valued .trees 0 tokens expr := valued_of_parsed plain parsed
    rw [Waiting.value?_of_conventional conventional, Expr.eq_of_value?_trees found]
  · intro α meaning
    obtain ⟨value, found, conventional⟩ := valued meaning
    refine ⟨value, found, Waiting.value?_of_conventional conventional, fun other => ⟨fun again => ?_, ?_⟩⟩
    · exact again.unique conventional
    · rintro rfl
      exact conventional

namespace Interpretation

def integers : Interpretation Int where
  number x := Binary64.units x.magnitude / 2 ^ 1074
  name _ := 5
  apply
    | .add, left, right => left + right
    | .sub, left, right => left - right
    | .mul, left, right => left * right
    | .div, left, right => left / right

end Interpretation

/-- The tokens of 1 - 2 - (3 + x) * 4. -/
def difference : List Token :=
  [⟨.number, "1", .empty⟩, ⟨.binaryOperator, "-", .empty⟩, ⟨.number, "2", .empty⟩,
    ⟨.binaryOperator, "-", .empty⟩, ⟨.openParen, "(", .empty⟩, ⟨.number, "3", .empty⟩,
    ⟨.binaryOperator, "+", .empty⟩, ⟨.identifier, "x", .empty⟩, ⟨.closeParen, ")", .empty⟩,
    ⟨.binaryOperator, "*", .empty⟩, ⟨.number, "4", .empty⟩]

def differenceTree : Expr :=
  .binary (.binary (.number (.nearest false 1 1)) .sub (.number (.nearest false 2 1))) .sub
    (.binary (.binary (.number (.nearest false 3 1)) .add (.reference "x")) .mul (.number (.nearest false 4 1)))

theorem operators_in_order_difference :
    Plain difference ∧ parseTokens difference = .ok ⟨[differenceTree]⟩ ∧
      Waiting.value? .trees difference = some differenceTree ∧
      Waiting.value? .integers difference = some (-33) ∧
      ∀ other, Conventional .integers 0 difference other ↔ other = -33 := by
  have plain : Plain difference := by decide
  have parsed : parseTokens difference = .ok ⟨[differenceTree]⟩ := by decide +kernel
  have read : Waiting.value? .integers difference = some (-33) := by decide +kernel
  obtain ⟨tree, values⟩ := operators_in_order difference differenceTree plain parsed
  obtain ⟨value, -, found, only⟩ := values .integers
  obtain rfl : -33 = value := Option.some.inj (read.symm.trans found)
  exact ⟨plain, parsed, tree, read, only⟩

end Formula
