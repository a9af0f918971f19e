import Formula.Operator
import Formula.Span

/-! Tokens: the words and signs a formula is written with. -/

namespace Formula

inductive Kind where
  | const
  | identifier
  | equals
  | semicolon
  | binaryOperator
  | number
  | openParen
  | closeParen
  | endOfInput
deriving DecidableEq

namespace Kind

def name : Kind → String
  | const => "Const"
  | identifier => "Identifier"
  | equals => "Equals"
  | semicolon => "Semicolon"
  | binaryOperator => "BinaryOperator"
  | number => "Number"
  | openParen => "OpenParen"
  | closeParen => "CloseParen"
  | endOfInput => "EndOfInput"

def describe : Kind → String
  | const => "const"
  | identifier => "identifier"
  | equals => "'='"
  | semicolon => "';'"
  | binaryOperator => "binary operator"
  | number => "number"
  | openParen => "'('"
  | closeParen => "')'"
  | endOfInput => "end of input"

def ofKeyword? (word : String) : Option Kind :=
  if word = "const" then some const else none

def ofWord (word : String) : Kind := (ofKeyword? word).getD identifier

def ofSign? : Char → Option Kind
  | '=' => some equals
  | ';' => some semicolon
  | '(' => some openParen
  | ')' => some closeParen
  | '+' | '-' | '*' | '/' => some binaryOperator
  | _ => none

end Kind

/-- A token's text is what stood in the source; only its kind, and for names,
numbers and operators its text, matter to the grammar. -/
structure Token where
  kind : Kind
  text : String
  span : Span
deriving DecidableEq

inductive OperatorError where
  | unknown (text : String)
  | otherKind (token : Token)
deriving DecidableEq

namespace Token

/-- What stands behind the last token of any list. -/
def endOfInput : Token := ⟨.endOfInput, "", .empty⟩

def describe (token : Token) : String :=
  if token.kind = .endOfInput ∧ token.text = "" then token.kind.describe
  else token.kind.describe ++ " `" ++ token.text ++ "`"

end Token

namespace OperatorError

def message : OperatorError → String
  | unknown text => "Not a valid operator: " ++ text
  | otherKind token => "Expected a binary operator but got " ++ token.describe

end OperatorError

def Operator.read (text : String) : Except OperatorError Operator :=
  match ofSymbol? text with
  | some op => .ok op
  | none => .error (.unknown text)

namespace Token

/-- The operator a token stands for. Both its kind and its text are looked at. -/
def operator (token : Token) : Except OperatorError Operator :=
  if token.kind = .binaryOperator then Operator.read token.text
  else .error (.otherKind token)

def operator? (token : Token) : Option Operator := token.operator.toOption

theorem operator?_eq_some_iff {token : Token} {op : Operator} :
    token.operator? = some op ↔ token.kind = .binaryOperator ∧ token.text = op.symbol := by
  unfold operator? operator Operator.read
  rw [← Operator.ofSymbol?_eq_some_iff]
  by_cases same : token.kind = .binaryOperator
  · cases read : Operator.ofSymbol? token.text <;> simp [same, Except.toOption]
  · simp [same, Except.toOption]

end Token
end Formula
