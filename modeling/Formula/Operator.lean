/-! The four arithmetic operators. Addition and subtraction share one level of
precedence, multiplication and division the level that binds tighter. -/

namespace Formula

inductive Operator where
  | add
  | sub
  | mul
  | div
deriving DecidableEq

namespace Operator

def symbol : Operator → String
  | add => "+"
  | sub => "-"
  | mul => "*"
  | div => "/"

def name : Operator → String
  | add => "Add"
  | sub => "Sub"
  | mul => "Mul"
  | div => "Div"

def isAdditive : Operator → Bool
  | add | sub => true
  | mul | div => false

def isMultiplicative : Operator → Bool
  | mul | div => true
  | add | sub => false

/-- An operator is recognised by its symbol alone, with nothing around it. -/
def ofSymbol? (text : String) : Option Operator :=
  if text = "+" then some add
  else if text = "-" then some sub
  else if text = "*" then some mul
  else if text = "/" then some div
  else none

@[simp] theorem ofSymbol?_symbol (op : Operator) : ofSymbol? op.symbol = some op := by
  cases op <;> rfl

theorem ofSymbol?_eq_some_iff {text : String} {op : Operator} :
    ofSymbol? text = some op ↔ text = op.symbol := by
  constructor
  · intro read
    unfold ofSymbol? at read
    split at read
    · cases read; assumption
    · split at read
      · cases read; assumption
      · split at read
        · cases read; assumption
        · split at read
          · cases read; assumption
          · cases read
  · rintro rfl
    exact ofSymbol?_symbol op

theorem isMultiplicative_eq_not (op : Operator) : op.isMultiplicative = !op.isAdditive := by
  cases op <;> rfl

end Operator
end Formula
