import Formula.Proofs.GrammarPrograms

/-! The fronts of phrases: what a phrase of each sort can begin with, given how its parts
can begin. -/

namespace Formula

def Phrases.Begins (phrases : Phrases α) (front : List Token) : Prop :=
  ∃ d more, phrases.tokens d = front ++ more

namespace Phrases

variable {operand group : Phrases Expr} {level : Operator → Bool}

theorem Begins.chain_first {front : List Token} (begins : operand.Begins front) :
    (operand.chain level).Begins front := by
  obtain ⟨d, more, spelled⟩ := begins
  exact ⟨⟨d, []⟩, more, by simp [Phrases.chain, spelled]⟩

theorem Begins.chain_link {front : List Token} (first : operand.Derivation)
    (links : List (Link operand level)) {sign : Token} {op : Operator}
    (isOperator : sign.kind = .binaryOperator) (isSymbol : sign.text = op.symbol)
    (inside : level op = true) (begins : operand.Begins front) :
    (operand.chain level).Begins
      (operand.tokens first ++ links.flatMap Link.tokens ++ sign :: front) := by
  obtain ⟨d, more, spelled⟩ := begins
  refine ⟨⟨first, links ++ [⟨sign, op, isOperator, isSymbol, inside, d⟩]⟩, more, ?_⟩
  simp [Phrases.chain, Link.tokens, spelled]

def aName : Token := ⟨.identifier, "x", .empty⟩

/-- There are phrases of every sort that begins an operand, so nothing is a beginning. -/
theorem begins_primary_nil : (primary group).Begins [] := ⟨.name aName rfl, [aName], rfl⟩

theorem begins_additive_nil : (additive group).Begins [] :=
  begins_primary_nil.chain_first.chain_first

theorem begins_binding_equals {name equals : Token} {front : List Token}
    (isName : name.kind = .identifier) (isEquals : equals.kind = .equals)
    (begins : (additive group).Begins front) : (binding group).Begins (name :: equals :: front) := by
  obtain ⟨d, more, spelled⟩ := begins
  exact ⟨⟨name, isName, equals, isEquals, d⟩, more, by simp [binding, spelled]⟩

theorem begins_binding_name {name : Token} (isName : name.kind = .identifier) :
    (binding group).Begins [name] := by
  obtain ⟨d, more, spelled⟩ := (begins_additive_nil : (additive group).Begins [])
  let equals : Token := ⟨.equals, "=", .empty⟩
  exact ⟨⟨name, isName, equals, rfl, d⟩, equals :: more, by simp [binding, spelled]⟩

theorem begins_binding_nil : (binding group).Begins [] := by
  obtain ⟨d, more, spelled⟩ := (begins_binding_name rfl : (binding group).Begins [aName])
  exact ⟨d, aName :: more, by simpa using spelled⟩

theorem Begins.assignment {front : List Token} (begins : (binding group).Begins front) :
    (statement group).Begins front := by
  obtain ⟨d, more, spelled⟩ := begins
  exact ⟨.assignment d, more, spelled⟩

theorem Begins.declaration {word : Token} {front : List Token} (isConst : word.kind = .const)
    (begins : (binding group).Begins front) : (statement group).Begins (word :: front) := by
  obtain ⟨d, more, spelled⟩ := begins
  exact ⟨.declaration word isConst d, more, by simp [statement, spelled]⟩

theorem begins_statement_nil : (statement group).Begins [] := begins_binding_nil.assignment

/-- The front of a value is the front of a statement unless a name comes first. -/
theorem Begins.plain {front : List Token} (noName : ∀ token ∈ front.head?, token.kind ≠ .identifier)
    (begins : (additive group).Begins front) : (statement group).Begins front := by
  cases front with
  | nil => exact begins_statement_nil
  | cons token front =>
    obtain ⟨d, more, spelled⟩ := begins
    exact ⟨.plain d (by simpa [spelled] using noName), more, spelled⟩

theorem Begins.parenthesised {room : Nat} {opening : Token} {front : List Token}
    (isOpening : opening.kind = .openParen) (begins : (statement (.group room)).Begins front) :
    (primary (.group (room + 1))).Begins (opening :: front) := by
  obtain ⟨d, more, spelled⟩ := begins
  let closing : Token := ⟨.closeParen, ")", .empty⟩
  refine ⟨.group ⟨opening, isOpening, d, closing, rfl⟩, more ++ [closing], ?_⟩
  simp [primary, Phrases.group, Phrases.parenthesised, spelled]

end Phrases

end Formula
