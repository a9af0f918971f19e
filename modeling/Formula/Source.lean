import Formula.Lexing
import Formula.Statements

/-! From a source text to its tokens and to its program. -/

namespace Formula

inductive SourceError where
  | lex (unknown : UnknownChar)
  | parse (error : ParseError)
deriving DecidableEq

def SourceError.message : SourceError → String
  | lex unknown => "Lexer Error: " ++ unknown.message
  | parse error => error.message

def parseTokens (tokens : List Token) : Except ParseError Program :=
  (Grammar.statements Grammar.maxDepth ⟨tokens, 0⟩).result

namespace Source

/-- The tokens of a text, where an unknown character ends the input. -/
def tokenize (text : String) : List Token := (Lexing.tokens (.ofText text)).1

def tryTokenize (text : String) : Except UnknownChar (List Token) :=
  (Lexing.tokens? (.ofText text)).1

/-- The program of a text up to its first unknown character. -/
def parse (text : String) : Except ParseError Program := parseTokens (tokenize text)

def parseStrict (text : String) : Except SourceError Program :=
  match tryTokenize text with
  | .error unknown => .error (.lex unknown)
  | .ok tokens => (parseTokens tokens).mapError .parse

def parseUnder (policy : Policy) (text : String) : Except SourceError Program :=
  match policy with
  | .permissive => (parse text).mapError .parse
  | .strict => parseStrict text

end Source
end Formula
