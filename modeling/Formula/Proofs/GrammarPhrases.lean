import Formula.Grammar

/-! The grammar as sorts of phrases. A derivation of a phrase says which production
was used at every place and which token stands for every sign; its tokens are what it
is written with, its meaning is the tree it stands for. Nothing here says how a
phrase is found.

    statement      = const name "=" additive | name "=" additive
                   | additive, unless a name comes first
    additive       = multiplicative { ("+" | "-") multiplicative }
    multiplicative = primary { ("*" | "/") primary }
    primary        = number | name | "(" statement ")" -/

namespace Formula

structure Phrases (α : Type) where
  Derivation : Type
  tokens : Derivation → List Token
  meaning : Derivation → α

namespace Phrases

structure Link (operand : Phrases Expr) (level : Operator → Bool) where
  sign : Token
  op : Operator
  isOperator : sign.kind = .binaryOperator
  isSymbol : sign.text = op.symbol
  inside : level op = true
  right : operand.Derivation

structure Chain (operand : Phrases Expr) (level : Operator → Bool) where
  first : operand.Derivation
  links : List (Link operand level)

variable {operand : Phrases Expr} {level : Operator → Bool}

def Link.tokens (link : Link operand level) : List Token := link.sign :: operand.tokens link.right

/-- Links are folded to the left, so that the last operator stands at the root. -/
def fold (left : Expr) (links : List (Link operand level)) : Expr :=
  links.foldl (fun left link => .binary left link.op (operand.meaning link.right)) left

def chain (operand : Phrases Expr) (level : Operator → Bool) : Phrases Expr where
  Derivation := Chain operand level
  tokens d := operand.tokens d.first ++ d.links.flatMap Link.tokens
  meaning d := fold (operand.meaning d.first) d.links

inductive Operand (group : Phrases Expr) where
  | number (token : Token) (value : Binary64) (isNumber : token.kind = .number)
      (isNumeral : Binary64.read? token.text = some value)
  | name (token : Token) (isName : token.kind = .identifier)
  | group (inner : group.Derivation)

def primary (group : Phrases Expr) : Phrases Expr where
  Derivation := Operand group
  tokens
    | .number token _ _ _ | .name token _ => [token]
    | .group inner => group.tokens inner
  meaning
    | .number _ value _ _ => .number value
    | .name token _ => .reference token.text
    | .group inner => group.meaning inner

def multiplicative (group : Phrases Expr) : Phrases Expr :=
  (primary group).chain Operator.isMultiplicative

def additive (group : Phrases Expr) : Phrases Expr :=
  (multiplicative group).chain Operator.isAdditive

structure Binding (group : Phrases Expr) where
  name : Token
  isName : name.kind = .identifier
  equals : Token
  isEquals : equals.kind = .equals
  init : (additive group).Derivation

def binding (group : Phrases Expr) : Phrases (String × Expr) where
  Derivation := Binding group
  tokens d := d.name :: d.equals :: (additive group).tokens d.init
  meaning d := (d.name.text, (additive group).meaning d.init)

inductive Statement (group : Phrases Expr) where
  | declaration (word : Token) (isConst : word.kind = .const) (binding : Binding group)
  | assignment (binding : Binding group)
  | plain (value : (additive group).Derivation)
      (noName : ∀ token ∈ ((additive group).tokens value).head?, token.kind ≠ .identifier)

def statement (group : Phrases Expr) : Phrases Expr where
  Derivation := Statement group
  tokens
    | .declaration word _ bound => word :: (binding group).tokens bound
    | .assignment bound => (binding group).tokens bound
    | .plain value _ => (additive group).tokens value
  meaning
    | .declaration word _ bound =>
      .declare word.text ((binding group).meaning bound).1 ((binding group).meaning bound).2
    | .assignment bound =>
      .assign ((binding group).meaning bound).1 ((binding group).meaning bound).2
    | .plain value _ => (additive group).meaning value

structure Parenthesised (inner : Phrases Expr) where
  opening : Token
  isOpening : opening.kind = .openParen
  inside : inner.Derivation
  closing : Token
  isClosing : closing.kind = .closeParen

/-- Parentheses leave no trace in the tree. -/
def parenthesised (inner : Phrases Expr) : Phrases Expr where
  Derivation := Parenthesised inner
  tokens d := d.opening :: (inner.tokens d.inside ++ [d.closing])
  meaning d := inner.meaning d.inside

def nothing : Phrases Expr := ⟨Empty, nofun, nofun⟩

/-- Groups in which at most `room` parentheses are open at once, their own included. -/
def group : Nat → Phrases Expr
  | 0 => nothing
  | room + 1 => parenthesised (statement (group room))

end Phrases

/-- One way to read a list of tokens as the statements of a program, in each of
which at most `limit` groups are open at once. -/
structure Derivation (limit : Nat) (tokens : List Token) (program : Program) where
  statements : List (Phrases.statement (.group limit)).Derivation
  spelled : statements.flatMap (Phrases.statement (.group limit)).tokens = tokens
  meant : statements.map (Phrases.statement (.group limit)).meaning = program.body

namespace Kind

def beginsOperand : Kind → Bool
  | number | identifier | openParen => true
  | _ => false

def beginsStatement (kind : Kind) : Bool := kind = const || kind.beginsOperand

/-- Whether tokens of the kind stand in phrases at all. -/
def inPhrases (kind : Kind) : Bool := kind ≠ endOfInput && kind ≠ semicolon

end Kind

namespace Phrases

def Leads (phrases : Phrases α) (kinds : Kind → Bool) : Prop :=
  ∀ d, ∃ token rest, phrases.tokens d = token :: rest ∧ kinds token.kind = true

def Proper (phrases : Phrases α) : Prop :=
  ∀ d, ∀ token ∈ phrases.tokens d, token.kind.inPhrases = true

variable {operand group : Phrases Expr} {level : Operator → Bool} {kinds : Kind → Bool}

theorem Link.operator?_sign (link : Link operand level) : link.sign.operator? = some link.op :=
  Token.operator?_eq_some_iff.mpr ⟨link.isOperator, link.isSymbol⟩

theorem leads_chain (leads : operand.Leads kinds) : (operand.chain level).Leads kinds := by
  intro d
  obtain ⟨token, rest, first, kind⟩ := leads d.first
  exact ⟨token, rest ++ d.links.flatMap Link.tokens, by simp [chain, first], kind⟩

private theorem leads_primary (leads : group.Leads (· = .openParen)) :
    (primary group).Leads Kind.beginsOperand := by
  intro d
  cases d with
  | number token value isNumber _ => exact ⟨token, [], rfl, by simp [isNumber, Kind.beginsOperand]⟩
  | name token isName => exact ⟨token, [], rfl, by simp [isName, Kind.beginsOperand]⟩
  | group inner =>
    obtain ⟨token, rest, first, isOpening⟩ := leads inner
    exact ⟨token, rest, first, by simp [of_decide_eq_true isOpening, Kind.beginsOperand]⟩

theorem leads_additive (leads : group.Leads (· = .openParen)) :
    (additive group).Leads Kind.beginsOperand :=
  leads_chain (leads_chain (leads_primary leads))

theorem leads_statement (leads : group.Leads (· = .openParen)) :
    (statement group).Leads Kind.beginsStatement := by
  intro d
  cases d with
  | declaration word isConst bound =>
    exact ⟨word, (binding group).tokens bound, rfl, by simp [isConst, Kind.beginsStatement]⟩
  | assignment bound =>
    exact ⟨bound.name, bound.equals :: (additive group).tokens bound.init, rfl,
      by simp [bound.isName, Kind.beginsStatement, Kind.beginsOperand]⟩
  | plain value _ =>
    obtain ⟨token, rest, first, kind⟩ := leads_additive leads value
    exact ⟨token, rest, first, by simp [Kind.beginsStatement, kind]⟩

theorem leads_group (room : Nat) : (Phrases.group room).Leads (· = .openParen) := by
  intro d
  cases room with
  | zero => cases d
  | succ room =>
    exact ⟨d.opening, (statement (.group room)).tokens d.inside ++ [d.closing], rfl,
      by simp [d.isOpening]⟩

theorem proper_chain (proper : operand.Proper) : (operand.chain level).Proper := by
  intro d token member
  rcases List.mem_append.mp member with first | later
  · exact proper d.first token first
  · obtain ⟨link, -, inside⟩ := List.mem_flatMap.mp later
    rcases List.mem_cons.mp inside with rfl | right
    · simp [link.isOperator, Kind.inPhrases]
    · exact proper link.right token right

private theorem proper_primary (proper : group.Proper) : (primary group).Proper := by
  intro d token member
  cases d with
  | number only value isNumber _ =>
    obtain rfl := List.mem_singleton.mp member
    simp [isNumber, Kind.inPhrases]
  | name only isName =>
    obtain rfl := List.mem_singleton.mp member
    simp [isName, Kind.inPhrases]
  | group inner => exact proper inner token member

theorem proper_additive (proper : group.Proper) : (additive group).Proper :=
  proper_chain (proper_chain (proper_primary proper))

theorem proper_binding (proper : group.Proper) : (binding group).Proper := by
  intro d token member
  rcases List.mem_cons.mp member with rfl | member
  · simp [d.isName, Kind.inPhrases]
  · rcases List.mem_cons.mp member with rfl | member
    · simp [d.isEquals, Kind.inPhrases]
    · exact proper_additive proper d.init token member

theorem proper_statement (proper : group.Proper) : (statement group).Proper := by
  intro d token member
  cases d with
  | declaration word isConst bound =>
    rcases List.mem_cons.mp member with rfl | member
    · simp [isConst, Kind.inPhrases]
    · exact proper_binding proper bound token member
  | assignment bound => exact proper_binding proper bound token member
  | plain value _ => exact proper_additive proper value token member

theorem proper_group (room : Nat) : (Phrases.group room).Proper := by
  induction room with
  | zero => exact nofun
  | succ room ih =>
    intro d token member
    rcases List.mem_cons.mp member with rfl | member
    · simp [d.isOpening, Kind.inPhrases]
    · rcases List.mem_append.mp member with inside | last
      · exact proper_statement ih d.inside token inside
      · obtain rfl := List.mem_singleton.mp last
        simp [d.isClosing, Kind.inPhrases]

end Phrases
end Formula
