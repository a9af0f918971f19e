import Formula.Number.Reading
import Formula.Rule

/-! The grammar of statements.

    statement      = declaration | assignment | additive
    declaration    = "const" assignment
    assignment     = identifier "=" additive
    additive       = multiplicative { ("+" | "-") multiplicative }
    multiplicative = primary { ("*" | "/") primary }
    primary        = number | identifier | "(" statement ")"

A statement that begins with a name is always an assignment, so a name is an
operand only behind an operator or an equals sign. Each rule takes the rule for a
parenthesised group as an argument. -/

namespace Formula.Grammar

open Rule

def numeral : Rule Expr :=
  (expect .number .unexpected).refine fun token =>
    match Binary64.read? token.text with
    | some value => .ok (.number value)
    | none => .error ⟨.numeralInvalid, some token, none⟩

def reference : Rule Expr := (expect .identifier .unexpected).map (.reference ·.text)

def primary (group : Rule Expr) : Rule Expr :=
  choose fun s =>
    match s.peek.kind with
    | .number => numeral
    | .identifier => reference
    | .const => fail .keywordMisplaced
    | .openParen => group
    | _ => fail .unexpected

def multiplicative (group : Rule Expr) : Rule Expr := chain (primary group) Operator.isMultiplicative

def additive (group : Rule Expr) : Rule Expr := chain (multiplicative group) Operator.isAdditive

def binding (group : Rule Expr) : Rule (String × Expr) :=
  (expect .identifier .nameMissing).andThen fun name =>
    (expect .equals .equalsMissing).andThen fun _ =>
      (additive group).map fun init => (name.text, init)

def assignment (group : Rule Expr) : Rule Expr :=
  (binding group).map fun (name, init) => .assign name init

def keyword : Rule String := (expect .const .keywordMissing).map (·.text)

def declaration (group : Rule Expr) : Rule Expr :=
  keyword.andThen fun word => (binding group).map fun (name, init) => .declare word name init

def statement (group : Rule Expr) : Rule Expr :=
  choose fun s =>
    match s.peek.kind with
    | .const => declaration group
    | .identifier => assignment group
    | _ => additive group

/-- A group, where fewer than `limit` groups are open around it. What stands between
its parentheses counts as one group deeper. Every group has tokens of its own, so more
than `size` groups are not met inside each other while `size` tokens are left. -/
def counted (limit : Nat) : Nat → Rule Expr
  | 0 => fail .unexpected
  | size + 1 =>
    choose fun s =>
      if limit ≤ s.depth then fail .nestedTooDeeply
      else
        (expect .openParen .unexpected).andThen fun _ =>
          (statement (counted limit size)).deeper.andThen fun expr =>
            (expect .closeParen .groupUnclosed).map fun _ => expr

/-- A rule of the grammar where at most `limit` groups may be open. -/
def within (limit : Nat) (rule : Rule Expr → Rule α) : Rule α :=
  choose fun s => rule (counted limit (s.rest.length + 1))

def maxDepth : Nat := 256

end Formula.Grammar
