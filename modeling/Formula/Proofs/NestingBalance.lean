import Formula.Proofs.GrammarPhrases

/-! How deep groups lie in each other, told by the parentheses alone. In front of any
token as many groups are open as there are opening parentheses more than closing ones.
A phrase closes all the groups it opens, and at no time has more of them open than it
has room for. -/

namespace Formula

def Kind.step : Kind → Int
  | openParen => 1
  | closeParen => -1
  | _ => 0

def balance : List Token → Int
  | [] => 0
  | token :: rest => token.kind.step + balance rest

/-- There is room for every group where it is opened. -/
def Shallow : Int → List Token → Prop
  | _, [] => True
  | room, token :: rest => (token.kind = .openParen → 0 < room) ∧ Shallow (room - token.kind.step) rest

instance decidableShallow (room : Int) : (tokens : List Token) → Decidable (Shallow room tokens)
  | [] => .isTrue trivial
  | token :: rest =>
    have := decidableShallow (room - token.kind.step) rest
    inferInstanceAs (Decidable (_ ∧ _))

theorem balance_append (front back : List Token) : balance (front ++ back) = balance front + balance back := by
  induction front with
  | nil => simp [balance]
  | cons token front ih => rw [List.cons_append, balance, balance, ih, Int.add_assoc]

theorem balance_le_length (tokens : List Token) : balance tokens ≤ tokens.length := by
  induction tokens with
  | nil => exact Int.le_refl _
  | cons token tokens ih =>
    have step : token.kind.step ≤ 1 := by cases token.kind <;> decide
    rw [balance, List.length_cons]
    omega

theorem shallow_append_iff {room : Int} {front back : List Token} :
    Shallow room (front ++ back) ↔ Shallow room front ∧ Shallow (room - balance front) back := by
  induction front generalizing room with
  | nil => simp [Shallow, balance]
  | cons token front ih =>
    rw [List.cons_append, Shallow, Shallow, ih, balance, and_assoc, Int.sub_sub]

theorem Shallow.balance_lt {room : Int} {front back : List Token} {opening : Token}
    (shallow : Shallow room (front ++ opening :: back)) (isOpening : opening.kind = .openParen) :
    balance front < room := by
  have here := (shallow_append_iff.mp shallow).2.1 isOpening
  omega

/-- All groups that are opened are closed, and there is room for each of them. -/
structure Closed (room : Int) (tokens : List Token) : Prop where
  level : balance tokens = 0
  shallow : Shallow room tokens

namespace Closed

variable {room : Int} {tokens front back : List Token}

theorem nil : Closed room [] := ⟨rfl, trivial⟩

theorem cons {token : Token} (plain : token.kind.step = 0) (closed : Closed room tokens) :
    Closed room (token :: tokens) := by
  refine ⟨by rw [balance, plain, closed.level, Int.add_zero], fun isOpening => ?_, ?_⟩
  · rw [isOpening] at plain
    cases plain
  · rw [plain, Int.sub_zero]
    exact closed.shallow

theorem append (closed : Closed room front) (closed' : Closed room back) : Closed room (front ++ back) where
  level := by rw [balance_append, closed.level, closed'.level, Int.add_zero]
  shallow := by
    rw [shallow_append_iff, closed.level, Int.sub_zero]
    exact ⟨closed.shallow, closed'.shallow⟩

theorem flatMap {parts : List α} {text : α → List Token} (closed : ∀ part ∈ parts, Closed room (text part)) :
    Closed room (parts.flatMap text) := by
  induction parts with
  | nil => exact nil
  | cons part parts ih =>
    rw [List.flatMap_cons]
    exact (closed part List.mem_cons_self).append (ih fun part member => closed part (.tail _ member))

theorem enclose {room : Nat} {opening closing : Token} (isOpening : opening.kind = .openParen)
    (isClosing : closing.kind = .closeParen) (closed : Closed room tokens) :
    Closed (room + 1 : Nat) (opening :: (tokens ++ [closing])) := by
  have inner : ((room + 1 : Nat) : Int) - 1 = room := by omega
  constructor
  · rw [balance, balance_append, closed.level, balance, balance, isOpening, isClosing]
    rfl
  · refine ⟨fun _ => by omega, ?_⟩
    rw [isOpening, Kind.step, inner, shallow_append_iff]
    exact ⟨closed.shallow, by simp [isClosing], trivial⟩

end Closed

namespace Phrases

def Nests (phrases : Phrases α) (room : Int) : Prop := ∀ d, Closed room (phrases.tokens d)

variable {operand group : Phrases Expr} {level : Operator → Bool} {room : Int}

theorem Link.closed (nests : operand.Nests room) (link : Link operand level) : Closed room link.tokens :=
  .cons (by rw [link.isOperator]; rfl) (nests link.right)

theorem nests_chain (nests : operand.Nests room) : (operand.chain level).Nests room :=
  fun d => (nests d.first).append (.flatMap fun link _ => link.closed nests)

theorem nests_primary (nests : group.Nests room) : (primary group).Nests room := by
  intro d
  cases d with
  | number token value isNumber _ => exact .cons (by rw [isNumber]; rfl) .nil
  | name token isName => exact .cons (by rw [isName]; rfl) .nil
  | group inner => exact nests inner

theorem nests_additive (nests : group.Nests room) : (additive group).Nests room :=
  nests_chain (nests_chain (nests_primary nests))

theorem nests_binding (nests : group.Nests room) : (binding group).Nests room :=
  fun d => .cons (by rw [d.isName]; rfl) (.cons (by rw [d.isEquals]; rfl) (nests_additive nests d.init))

theorem nests_statement (nests : group.Nests room) : (statement group).Nests room := by
  intro d
  cases d with
  | declaration word isConst bound => exact .cons (by rw [isConst]; rfl) (nests_binding nests bound)
  | assignment bound => exact nests_binding nests bound
  | plain value _ => exact nests_additive nests value

theorem nests_group (room : Nat) : (Phrases.group room).Nests room := by
  induction room with
  | zero => exact nofun
  | succ room ih => exact fun d => (nests_statement ih d.inside).enclose d.isOpening d.isClosing

end Phrases
end Formula
