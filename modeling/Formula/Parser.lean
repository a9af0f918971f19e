import Formula.Statements

/-! A parser holds a list of tokens and a place in it, and takes one call after
the other. A call that fails leaves the parser where the failure was noticed,
and the next call goes on from there. -/

namespace Formula

structure Parser where
  tokens : List Token
  cursor : Nat
  depth : Nat
  inside : cursor ≤ tokens.length

namespace Parser

def ofTokens (tokens : List Token) : Parser := ⟨tokens, 0, 0, Nat.zero_le _⟩

def state (parser : Parser) : State := ⟨parser.tokens.drop parser.cursor, parser.depth⟩

/-- The same tokens, with as many of them left as in `s`. -/
def moveTo (parser : Parser) (s : State) : Parser where
  tokens := parser.tokens
  cursor := parser.tokens.length - s.rest.length
  depth := s.depth
  inside := Nat.sub_le _ _

def run (parser : Parser) (rule : Rule α) : Except ParseError α × Parser :=
  match rule.run parser.state with
  | (meaning, after) => (meaning, parser.moveTo after)

inductive Call where
  | current
  | peek
  | next
  | check (kind : Kind)
  | expect (kind : Kind) (reason : Reason)
  | operator
  | program
  | keyword
  | statement
  | declaration
  | assignment
  | additive
  | multiplicative
  | primary
deriving DecidableEq

inductive Reply where
  | present (token : Option Token)
  | token (token : Token)
  | holds (answer : Bool)
  | operator (op : Option Operator)
  | expected (outcome : Except ParseError Token)
  | program (outcome : Except ParseError Program)
  | keyword (outcome : Except ParseError String)
  | expr (outcome : Except ParseError Expr)

def runExpr (parser : Parser) (rule : Rule Expr → Rule Expr) : Reply × Parser :=
  match parser.run (Grammar.within Grammar.maxDepth rule) with
  | (outcome, after) => (.expr outcome, after)

def answer (parser : Parser) : Call → Reply × Parser
  | .current => (.present parser.state.current, parser)
  | .peek => (.token parser.state.peek, parser)
  | .next => (.token parser.state.peek, parser.moveTo parser.state.advance)
  | .check kind => (.holds (parser.state.isAt kind), parser)
  | .expect kind reason =>
    match parser.run (Rule.expect kind reason) with
    | (outcome, after) => (.expected outcome, after)
  | .operator => (.operator parser.state.operator?, parser)
  | .program =>
    let progress := Grammar.statements Grammar.maxDepth parser.state
    (.program progress.result, parser.moveTo progress.state)
  | .keyword =>
    match parser.run Grammar.keyword with
    | (outcome, after) => (.keyword outcome, after)
  | .statement => parser.runExpr Grammar.statement
  | .declaration => parser.runExpr Grammar.declaration
  | .assignment => parser.runExpr Grammar.assignment
  | .additive => parser.runExpr Grammar.additive
  | .multiplicative => parser.runExpr Grammar.multiplicative
  | .primary => parser.runExpr Grammar.primary

/-- The replies to calls made one after the other, each with the parser it
leaves behind. -/
def answers (parser : Parser) : List Call → List (Reply × Parser)
  | [] => []
  | call :: calls =>
    let reply := parser.answer call
    reply :: reply.2.answers calls

end Parser
end Formula
