import Mathlib.Data.List.Basic
import Formula.Proofs.ParserRuns

/-! A tree holds all the tokens it was read from. Said from left to right it gives them back
one by one, but for the parentheses, which leave no trace in it; these come in pairs. Every
way to build a tree from smaller ones keeps this, so it holds of each sort of phrases by
induction on the room for groups. No call for a tree loses, repeats or moves a token, from
wherever it is made. -/

namespace Formula

open Rule

/-- What a tree says from left to right. Only a number may be spelled in several ways. -/
inductive InOrder : Expr → List Token → Prop where
  | number {token : Token} {value : Binary64} (isNumber : token.kind = .number)
      (isNumeral : Binary64.read? token.text = some value) : InOrder (.number value) [token]
  | reference {token : Token} (isName : token.kind = .identifier) : InOrder (.reference token.text) [token]
  | assign {name equals : Token} {init : Expr} {tokens : List Token} (isName : name.kind = .identifier)
      (isEquals : equals.kind = .equals) (inner : InOrder init tokens) :
      InOrder (.assign name.text init) (name :: equals :: tokens)
  | declare {word name equals : Token} {init : Expr} {tokens : List Token} (isConst : word.kind = .const)
      (isName : name.kind = .identifier) (isEquals : equals.kind = .equals) (inner : InOrder init tokens) :
      InOrder (.declare word.text name.text init) (word :: name :: equals :: tokens)
  | binary {left right : Expr} {op : Operator} {sign : Token} {front back : List Token}
      (first : InOrder left front) (isOperator : sign.kind = .binaryOperator) (isSymbol : sign.text = op.symbol)
      (second : InOrder right back) : InOrder (.binary left op right) (front ++ sign :: back)

def Kind.isParen (kind : Kind) : Bool := kind = openParen || kind = closeParen

/-- Parentheses come in pairs, one inside or behind the other. -/
inductive Paired : List Token → Prop where
  | nil : Paired []
  | plain {token : Token} {rest : List Token} (noParen : token.kind.isParen = false) (paired : Paired rest) :
      Paired (token :: rest)
  | pair {opening closing : Token} {inner rest : List Token} (isOpening : opening.kind = .openParen)
      (isClosing : closing.kind = .closeParen) (inside : Paired inner) (behind : Paired rest) :
      Paired (opening :: (inner ++ closing :: rest))

theorem Paired.append {front back : List Token} (paired : Paired front) (paired' : Paired back) :
    Paired (front ++ back) := by
  induction paired with
  | nil => exact paired'
  | plain noParen _ ih => exact .plain noParen ih
  | pair isOpening isClosing inside _ _ ih =>
    rw [List.cons_append, List.append_assoc, List.cons_append]
    exact .pair isOpening isClosing inside ih

/-- The parentheses among the tokens come in pairs, and the others are those of the tree. -/
structure Accounts (tokens : List Token) (expr : Expr) : Prop where
  filled : tokens ≠ []
  proper : ∀ token ∈ tokens, token.kind ≠ .endOfInput ∧ token.kind ≠ .semicolon
  paired : Paired tokens
  inOrder : InOrder expr (tokens.filter (!·.kind.isParen))

namespace Accounts

variable {tokens front back : List Token} {init left right expr : Expr}

theorem leaf {token : Token} (proper : token.kind ≠ .endOfInput ∧ token.kind ≠ .semicolon)
    (noParen : token.kind.isParen = false) (inOrder : InOrder expr [token]) : Accounts [token] expr where
  filled := List.cons_ne_nil _ _
  proper := by
    intro other inside
    obtain rfl := List.mem_singleton.mp inside
    exact proper
  paired := .plain noParen .nil
  inOrder := by
    rw [List.filter_cons_of_pos (by rw [noParen]; rfl)]
    exact inOrder

theorem assign {name equals : Token} (isName : name.kind = .identifier) (isEquals : equals.kind = .equals)
    (accounts : Accounts tokens init) : Accounts (name :: equals :: tokens) (.assign name.text init) where
  filled := List.cons_ne_nil _ _
  proper := by
    rw [List.forall_mem_cons, List.forall_mem_cons, isName, isEquals]
    exact ⟨by decide, by decide, accounts.proper⟩
  paired := .plain (by rw [isName]; rfl) (.plain (by rw [isEquals]; rfl) accounts.paired)
  inOrder := by
    rw [List.filter_cons_of_pos (by rw [isName]; rfl), List.filter_cons_of_pos (by rw [isEquals]; rfl)]
    exact .assign isName isEquals accounts.inOrder

theorem declare {word name equals : Token} (isConst : word.kind = .const) (isName : name.kind = .identifier)
    (isEquals : equals.kind = .equals) (accounts : Accounts tokens init) :
    Accounts (word :: name :: equals :: tokens) (.declare word.text name.text init) where
  filled := List.cons_ne_nil _ _
  proper := by
    rw [List.forall_mem_cons, isConst]
    exact ⟨by decide, (assign isName isEquals accounts).proper⟩
  paired := .plain (by rw [isConst]; rfl) (assign isName isEquals accounts).paired
  inOrder := by
    rw [List.filter_cons_of_pos (by rw [isConst]; rfl), List.filter_cons_of_pos (by rw [isName]; rfl),
      List.filter_cons_of_pos (by rw [isEquals]; rfl)]
    exact .declare isConst isName isEquals accounts.inOrder

theorem binary {sign : Token} {op : Operator} (first : Accounts front left)
    (isOperator : sign.kind = .binaryOperator) (isSymbol : sign.text = op.symbol) (second : Accounts back right) :
    Accounts (front ++ sign :: back) (.binary left op right) where
  filled := List.append_ne_nil_of_right_ne_nil _ (List.cons_ne_nil _ _)
  proper := by
    rw [List.forall_mem_append, List.forall_mem_cons, isOperator]
    exact ⟨first.proper, by decide, second.proper⟩
  paired := first.paired.append (.plain (by rw [isOperator]; rfl) second.paired)
  inOrder := by
    rw [List.filter_append, List.filter_cons_of_pos (by rw [isOperator]; rfl)]
    exact .binary first.inOrder isOperator isSymbol second.inOrder

theorem enclosed {opening closing : Token} (isOpening : opening.kind = .openParen)
    (isClosing : closing.kind = .closeParen) (accounts : Accounts tokens expr) :
    Accounts (opening :: (tokens ++ [closing])) expr where
  filled := List.cons_ne_nil _ _
  proper := by
    rw [List.forall_mem_cons, List.forall_mem_append, List.forall_mem_singleton, isOpening, isClosing]
    exact ⟨by decide, accounts.proper, by decide⟩
  paired := .pair isOpening isClosing accounts.paired .nil
  inOrder := by
    rw [List.filter_cons_of_neg (by rw [isOpening]; decide), List.filter_append,
      List.filter_cons_of_neg (by rw [isClosing]; decide), List.filter_nil, List.append_nil]
    exact accounts.inOrder

end Accounts

namespace Phrases

def Accounted (phrases : Phrases Expr) : Prop := ∀ d, Accounts (phrases.tokens d) (phrases.meaning d)

variable {operand group : Phrases Expr} {level : Operator → Bool}

private theorem accounts_fold (accounted : operand.Accounted) (links : List (Link operand level)) {left : Expr}
    {front : List Token} (accounts : Accounts front left) :
    Accounts (front ++ links.flatMap Link.tokens) (fold left links) := by
  induction links generalizing left front with
  | nil =>
    rw [List.flatMap_nil, List.append_nil]
    exact accounts
  | cons link links ih =>
    rw [List.flatMap_cons, ← List.append_assoc]
    apply ih
    exact accounts.binary link.isOperator link.isSymbol (accounted link.right)

theorem accounted_chain (accounted : operand.Accounted) : (operand.chain level).Accounted := by
  intro d
  exact accounts_fold accounted d.links (accounted d.first)

theorem accounted_primary (accounted : group.Accounted) : (primary group).Accounted := by
  intro d
  cases d with
  | number token value isNumber isNumeral =>
    exact .leaf (by rw [isNumber]; decide) (by rw [isNumber]; rfl) (.number isNumber isNumeral)
  | name token isName => exact .leaf (by rw [isName]; decide) (by rw [isName]; rfl) (.reference isName)
  | group inner => exact accounted inner

theorem accounted_multiplicative (accounted : group.Accounted) : (multiplicative group).Accounted :=
  accounted_chain (accounted_primary accounted)

theorem accounted_additive (accounted : group.Accounted) : (additive group).Accounted :=
  accounted_chain (accounted_multiplicative accounted)

theorem accounted_statement (accounted : group.Accounted) : (statement group).Accounted := by
  intro d
  cases d with
  | declaration word isConst bound =>
    exact (accounted_additive accounted bound.init).declare isConst bound.isName bound.isEquals
  | assignment bound => exact (accounted_additive accounted bound.init).assign bound.isName bound.isEquals
  | plain value noName => exact accounted_additive accounted value

theorem accounted_group (room : Nat) : (Phrases.group room).Accounted := by
  induction room with
  | zero => exact nofun
  | succ room ih =>
    intro d
    exact (accounted_statement ih d.inside).enclosed d.isOpening d.isClosing

end Phrases

/-- The rule takes from the front of the tokens what its trees account for. -/
def Rule.Accounted (rule : Rule Expr) : Prop :=
  ∀ s expr after, rule.Reads s expr after → ∃ front, s.rest = front ++ after.rest ∧ Accounts front expr

namespace Grammar

theorem accounted_of_recognises {rule : Rule Expr} {phrases : Phrases Expr} {level : Operator → Bool}
    (recognises : Recognises rule phrases level) (accounted : phrases.Accounted) : rule.Accounted := by
  intro s expr after reads
  obtain ⟨d, rfl, rfl, -⟩ := recognises.reads_iff.mp reads
  exact ⟨phrases.tokens d, rfl, accounted d⟩

variable (room : Nat)

theorem accounted_primary : (primary (group room)).Accounted :=
  accounted_of_recognises (recognises_primary (recognises_group room) (Phrases.leads_group room))
    (Phrases.accounted_primary (Phrases.accounted_group room))

theorem accounted_multiplicative : (multiplicative (group room)).Accounted :=
  accounted_of_recognises (recognises_multiplicative (recognises_group room) (Phrases.leads_group room))
    (Phrases.accounted_multiplicative (Phrases.accounted_group room))

theorem accounted_additive : (additive (group room)).Accounted :=
  accounted_of_recognises (recognises_additive (recognises_group room) (Phrases.leads_group room))
    (Phrases.accounted_additive (Phrases.accounted_group room))

theorem accounted_statement : (statement (group room)).Accounted :=
  accounted_of_recognises (recognises_statement (recognises_group room) (Phrases.leads_group room))
    (Phrases.accounted_statement (Phrases.accounted_group room))

/-- What is read as an assignment is a statement, whatever else may begin one. -/
private theorem accounted_assignment : (assignment (group room)).Accounted := by
  intro s expr after reads
  simp only [assignment, map_reads_iff] at reads
  obtain ⟨bound, reads, rfl⟩ := reads
  have binds := recognises_binding (recognises_group room) (Phrases.leads_group room)
  obtain ⟨d, rfl, rfl, -⟩ := binds.reads_iff.mp reads
  exact ⟨_, rfl, Phrases.accounted_statement (Phrases.accounted_group room) (.assignment d)⟩

private theorem accounted_declaration : (declaration (group room)).Accounted := by
  intro s expr after reads
  simp only [declaration, andThen_reads_iff, map_reads_iff, keyword_reads_iff] at reads
  obtain ⟨word, middle, ⟨token, rfl, isConst, rfl⟩, bound, reads, rfl⟩ := reads
  have binds := recognises_binding (recognises_group room) (Phrases.leads_group room)
  obtain ⟨d, rfl, rfl, -⟩ := binds.reads_iff.mp reads
  exact ⟨_, rfl, Phrases.accounted_statement (Phrases.accounted_group room) (.declaration token isConst d)⟩

end Grammar

namespace Parser

theorem accounts_runExpr {parser after : Parser} {sort : Rule Expr → Rule Expr} {expr : Expr}
    (congruent : Grammar.Congruent sort) (accounted : ∀ room, (sort (Grammar.group room)).Accounted)
    (read : parser.runExpr sort = (.expr (.ok expr), after)) :
    after.tokens = parser.tokens ∧ Accounts (parser.tokens.extract parser.cursor after.cursor) expr := by
  rcases ran : (Grammar.within Grammar.maxDepth sort).run parser.state with ⟨outcome, s⟩
  simp only [runExpr, run, ran, Prod.mk.injEq, Reply.expr.injEq] at read
  obtain ⟨rfl, rfl⟩ := read
  rw [Grammar.run_within congruent] at ran
  obtain ⟨front, spelled, accounts⟩ := accounted _ parser.state expr s ran
  have taken : parser.tokens.extract parser.cursor (parser.moveTo s).cursor = front := by
    have rest : parser.tokens.drop parser.cursor = front ++ s.rest := spelled
    rw [cursor_moveTo spelled, List.extract_eq_take_drop, Nat.add_sub_cancel_left, rest, List.take_left]
  rw [taken]
  exact ⟨rfl, accounts⟩

/-- Wherever a parser stands, the tree that it answers with holds all the tokens it has
moved over, in their order. -/
theorem answer_accounts :
    ∀ (parser after : Parser) (call : Call) (expr : Expr), parser.answer call = (.expr (.ok expr), after) →
      after.tokens = parser.tokens ∧ Accounts (parser.tokens.extract parser.cursor after.cursor) expr := by
  intro parser after call expr read
  cases call with
  | current | peek | next | check | expect | operator | program | keyword =>
    simp [answer] at read
  | statement => exact accounts_runExpr Grammar.congruent_statement Grammar.accounted_statement read
  | declaration => exact accounts_runExpr Grammar.congruent_declaration Grammar.accounted_declaration read
  | assignment => exact accounts_runExpr Grammar.congruent_assignment Grammar.accounted_assignment read
  | additive => exact accounts_runExpr Grammar.congruent_additive Grammar.accounted_additive read
  | multiplicative => exact accounts_runExpr Grammar.congruent_multiplicative Grammar.accounted_multiplicative read
  | primary => exact accounts_runExpr Grammar.congruent_primary Grammar.accounted_primary read

/-- The end of a group, a product with a group in it, and the end of a statement. -/
def afterGroup : Parser where
  tokens := [⟨.closeParen, ")", .empty⟩, ⟨.number, "2", .empty⟩, ⟨.binaryOperator, "*", .empty⟩,
    ⟨.openParen, "(", .empty⟩, ⟨.number, "05", .empty⟩, ⟨.binaryOperator, "-", .empty⟩, ⟨.number, "3", .empty⟩,
    ⟨.closeParen, ")", .empty⟩, ⟨.semicolon, ";", .empty⟩]
  cursor := 1
  depth := 3
  inside := by decide

/-- From behind the first parenthesis on, the tokens of the product are those in front of
the semicolon. -/
theorem answer_accounts_product :
    ∃ (after : Parser) (expr : Expr), afterGroup.answer .additive = (.expr (.ok expr), after) ∧
      after.cursor = 8 ∧ Accounts (afterGroup.tokens.extract 1 8) expr := by
  let number (n : Nat) : Expr := .number (.nearest false n 1)
  let expr : Expr := .binary (number 2) .mul (.binary (number 5) .sub (number 3))
  let outcome := afterGroup.run (Grammar.within Grammar.maxDepth Grammar.additive)
  have read : outcome.1 = .ok expr := by decide +kernel
  have cursor : outcome.2.cursor = 8 := by decide +kernel
  have answered : afterGroup.answer .additive = (.expr (.ok expr), outcome.2) := by
    rw [← read]
    rfl
  obtain ⟨-, accounts⟩ := answer_accounts afterGroup outcome.2 .additive expr answered
  rw [cursor] at accounts
  exact ⟨outcome.2, expr, answered, cursor, accounts⟩

end Parser
end Formula
