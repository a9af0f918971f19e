import Formula.Source

/-! What reading a source reports while it goes on. Each finished stage is
reported, and in between each statement as it is read. -/

namespace Formula

inductive Stage where
  | lexing
  | parsing
deriving DecidableEq

inductive Level where
  | debug
  | trace
deriving DecidableEq

inductive Detail where
  | off
  | debug
  | trace
deriving DecidableEq

def Detail.keeps : Detail → Level → Bool
  | off, _ => false
  | debug, level => level = .debug
  | trace, _ => true

structure Entry where
  level : Level
  stage : Stage
  text : String
deriving DecidableEq

namespace Journal

def tokenized (count : Nat) : Entry :=
  ⟨.debug, .lexing, "tokenized input into " ++ toString count ++ " tokens"⟩

def statementRead (expr : Expr) : Entry :=
  ⟨.trace, .parsing, "parsed top-level " ++ expr.kind.name⟩

def parsed (statements tokens : Nat) : Entry :=
  ⟨.debug, .parsing,
    "parsed " ++ toString statements ++ " statement(s) from " ++ toString tokens ++ " token(s)"⟩

/-- The entries for a list of tokens: one for every statement in front of the
first error, and a last one if there is no error. -/
def ofTokens (tokens : List Token) : List Entry :=
  let progress := Grammar.statements Grammar.maxDepth ⟨tokens, 0⟩
  progress.body.map statementRead ++
    (if progress.failure.isNone then [parsed progress.body.length tokens.length] else [])

/-- The entries for a text. Nothing is reported of a text that cannot be cut
into tokens. -/
def ofText (policy : Policy) (text : String) : List Entry :=
  match (Lexing.run policy (.ofText text)).1 with
  | .error _ => []
  | .ok tokens => tokenized tokens.length :: ofTokens tokens

def kept (detail : Detail) (policy : Policy) (text : String) : List Entry :=
  (ofText policy text).filter (detail.keeps ·.level)

end Journal
end Formula
