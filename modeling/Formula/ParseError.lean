import Formula.Token

/-! Why a list of tokens is not a program. -/

namespace Formula

inductive Reason where
  | keywordMissing
  | nameMissing
  | equalsMissing
  | groupUnclosed
  | numeralInvalid
  | keywordMisplaced
  | nestedTooDeeply
  | unexpected
  /-- A wording that the caller brings along. -/
  | stated (text : String)
deriving DecidableEq

def Reason.message : Reason → String
  | keywordMissing => "Expect keyword const"
  | nameMissing => "Unexpected token found after the keyword const. Expect identifier"
  | equalsMissing => "Unexpected token found after the identifier. Expect equals ="
  | groupUnclosed =>
    "Unexpected token found inside parenthesised expression. Expected closing parenthesis."
  | numeralInvalid => "Expected a valid numeric literal"
  | keywordMisplaced => "Keyword const can only begin a declaration"
  | nestedTooDeeply => "Expression nested too deeply"
  | unexpected => "Unexpected token found during parsing!"
  | stated text => text

/-- The token at fault, if the tokens had not run out, and the only kind that
could have stood in its place, if there was only one. -/
structure ParseError where
  reason : Reason
  found : Option Token
  expected : Option Kind
deriving DecidableEq

namespace ParseError

/-- What stands there instead. A token that comes from no text has no line. -/
def describeFound : Option Token → String
  | none => "; found nothing"
  | some token =>
    if 0 < token.span.line then
      "; found " ++ token.describe ++ " at Ln " ++ toString token.span.line
    else "; found " ++ token.describe

def describeExpected : Option Kind → String
  | none => ""
  | some kind => " - Expecting: " ++ kind.describe

def message (error : ParseError) : String :=
  "Parser Error: " ++ error.reason.message ++ describeFound error.found ++
    describeExpected error.expected

end ParseError
end Formula
