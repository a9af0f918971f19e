import Formula.Proofs.GrammarRecognition

/-! No list of tokens is derived in two ways. What a phrase is made of can be read off
from the left: the kind of a token tells the production, and the operator behind an
operand tells to which level of the grammar it belongs. -/

namespace Formula.Phrases

/-- A phrase of the sort is known from the tokens it begins, when nothing that could
carry it on comes after it. -/
def Unambiguous (phrases : Phrases α) (level : Operator → Bool) : Prop :=
  ∀ (d d' : phrases.Derivation) (rest rest' : List Token),
    State.Rests level ⟨rest, 0⟩ → State.Rests level ⟨rest', 0⟩ →
      phrases.tokens d ++ rest = phrases.tokens d' ++ rest' → d = d'

variable {operand group : Phrases Expr} {inner level : Operator → Bool}

private theorem links_unique (unambiguous : operand.Unambiguous inner)
    (apart : ∀ op, level op = true → inner op = false) {links links' : List (Link operand level)}
    {rest rest' : List Token}
    (ends : State.Rests (fun op => inner op || level op) ⟨rest, 0⟩)
    (ends' : State.Rests (fun op => inner op || level op) ⟨rest', 0⟩)
    (same : links.flatMap Link.tokens ++ rest = links'.flatMap Link.tokens ++ rest') :
    links = links' := by
  -- Behind the last link no further one can begin.
  have stop {link : Link operand level} {more rest : List Token}
      (ends : State.Rests (fun op => inner op || level op) ⟨rest, 0⟩)
      (next : rest = link.sign :: more) : False := by
    subst next
    have outside := State.rests_cons_iff.mp ends link.op link.operator?_sign
    simp [link.inside] at outside
  induction links generalizing links' with
  | nil =>
    cases links' with
    | nil => rfl
    | cons link' links' => exact (stop ends (by simpa [Link.tokens] using same)).elim
  | cons link links ih =>
    cases links' with
    | nil => exact (stop ends' (by simpa [Link.tokens] using same.symm)).elim
    | cons link' links' =>
      simp only [List.flatMap_cons, Link.tokens, List.cons_append, List.append_assoc,
        List.cons.injEq] at same
      obtain ⟨sign, same⟩ := same
      have op : link.op = link'.op := by
        have found := link.operator?_sign
        rw [sign, link'.operator?_sign] at found
        exact (Option.some.inj found).symm
      have right : link.right = link'.right := unambiguous _ _ _ _
        (rests_links apart links ⟨rest, 0⟩ (State.rests_or_iff.mp ends).1)
        (rests_links apart links' ⟨rest', 0⟩ (State.rests_or_iff.mp ends').1) same
      rw [right, List.append_cancel_left_eq] at same
      obtain ⟨⟩ := link
      obtain ⟨⟩ := link'
      simp only at sign op right
      subst sign op right
      rw [ih same]

theorem unambiguous_chain (level : Operator → Bool) (unambiguous : operand.Unambiguous inner)
    (apart : ∀ op, level op = true → inner op = false) :
    (operand.chain level).Unambiguous (fun op => inner op || level op) := by
  intro ⟨first, links⟩ ⟨first', links'⟩ rest rest' ends ends' same
  simp only [chain, List.append_assoc] at same
  have firsts : first = first' := unambiguous _ _ _ _
    (rests_links apart links ⟨rest, 0⟩ (State.rests_or_iff.mp ends).1)
    (rests_links apart links' ⟨rest', 0⟩ (State.rests_or_iff.mp ends').1) same
  rw [firsts, List.append_cancel_left_eq] at same
  rw [firsts, links_unique unambiguous apart ends ends' same]

private theorem unambiguous_primary (unambiguous : group.Unambiguous fun _ => false)
    (leads : group.Leads (· = .openParen)) : (primary group).Unambiguous fun _ => false := by
  intro d d' rest rest' ends ends' same
  -- A group is told from the other operands by its first token.
  have apart {token : Token} {inner : group.Derivation} {rest rest' : List Token}
      (other : token.kind ≠ .openParen) (same : token :: rest = group.tokens inner ++ rest') : False := by
    obtain ⟨head, more, first, isOpening⟩ := leads inner
    rw [first, List.cons_append, List.cons.injEq] at same
    exact other (same.1 ▸ of_decide_eq_true isOpening)
  cases d with
  | number token value isNumber isNumeral =>
    cases d' with
    | number token' value' isNumber' isNumeral' =>
      obtain ⟨rfl, -⟩ : token = token' ∧ rest = rest' := by simpa [primary] using same
      obtain rfl : value = value' := Option.some.inj (isNumeral.symm.trans isNumeral')
      rfl
    | name token' isName' =>
      obtain ⟨rfl, -⟩ : token = token' ∧ rest = rest' := by simpa [primary] using same
      simp [isNumber] at isName'
    | group inner' => exact (apart (by simp [isNumber]) same).elim
  | name token isName =>
    cases d' with
    | number token' value' isNumber' isNumeral' =>
      obtain ⟨rfl, -⟩ : token = token' ∧ rest = rest' := by simpa [primary] using same
      simp [isName] at isNumber'
    | name token' isName' =>
      obtain ⟨rfl, -⟩ : token = token' ∧ rest = rest' := by simpa [primary] using same
      rfl
    | group inner' => exact (apart (by simp [isName]) same).elim
  | group inner =>
    cases d' with
    | number token' value' isNumber' isNumeral' => exact (apart (by simp [isNumber']) same.symm).elim
    | name token' isName' => exact (apart (by simp [isName']) same.symm).elim
    | group inner' => rw [unambiguous inner inner' rest rest' ends ends' same]

theorem unambiguous_additive (unambiguous : group.Unambiguous fun _ => false)
    (leads : group.Leads (· = .openParen)) : (additive group).Unambiguous fun _ => true := by
  have product := unambiguous_chain Operator.isMultiplicative
    (unambiguous_primary unambiguous leads) (fun _ _ => rfl)
  have sum := unambiguous_chain Operator.isAdditive product
    (fun op inside => by simp [Operator.isMultiplicative_eq_not, inside])
  simpa [additive, multiplicative, Operator.isMultiplicative_eq_not] using sum

private theorem unambiguous_binding (unambiguous : group.Unambiguous fun _ => false)
    (leads : group.Leads (· = .openParen)) : (binding group).Unambiguous fun _ => true := by
  intro ⟨name, _, equals, _, init⟩ ⟨name', _, equals', _, init'⟩ rest rest' ends ends' same
  simp only [binding, List.cons_append, List.cons.injEq] at same
  obtain ⟨rfl, rfl, same⟩ := same
  rw [unambiguous_additive unambiguous leads init init' rest rest' ends ends' same]

theorem unambiguous_statement (unambiguous : group.Unambiguous fun _ => false)
    (leads : group.Leads (· = .openParen)) : (statement group).Unambiguous fun _ => true := by
  have bound := unambiguous_binding unambiguous leads
  -- A value begins with none of the tokens that begin the other statements.
  have apart {token : Token} {value : (additive group).Derivation} {rest rest' : List Token}
      (noName : ∀ token ∈ ((additive group).tokens value).head?, token.kind ≠ .identifier)
      (other : token.kind = .const ∨ token.kind = .identifier)
      (same : token :: rest = (additive group).tokens value ++ rest') : False := by
    obtain ⟨head, more, first, begins⟩ := leads_additive leads value
    rw [first, List.cons_append, List.cons.injEq] at same
    obtain ⟨rfl, -⟩ := same
    rcases other with isConst | isName
    · simp [isConst, Kind.beginsOperand] at begins
    · exact noName token (by simp [first]) isName
  intro d d' rest rest' ends ends' same
  cases d with
  | declaration word isConst inner =>
    cases d' with
    | declaration word' isConst' inner' =>
      simp only [statement, List.cons_append, List.cons.injEq] at same
      obtain ⟨rfl, same⟩ := same
      rw [bound inner inner' rest rest' ends ends' same]
    | assignment inner' =>
      obtain ⟨rfl, -⟩ : word = inner'.name ∧ _ := by simpa [statement, binding] using same
      simp [inner'.isName] at isConst
    | plain value' noName' => exact (apart noName' (.inl isConst) same).elim
  | assignment inner =>
    cases d' with
    | declaration word' isConst' inner' =>
      obtain ⟨rfl, -⟩ : inner.name = word' ∧ _ := by simpa [statement, binding] using same
      simp [inner.isName] at isConst'
    | assignment inner' => rw [bound inner inner' rest rest' ends ends' same]
    | plain value' noName' => exact (apart noName' (.inr inner.isName) same).elim
  | plain value noName =>
    cases d' with
    | declaration word' isConst' inner' => exact (apart noName (.inl isConst') same.symm).elim
    | assignment inner' => exact (apart noName (.inr inner'.isName) same.symm).elim
    | plain value' noName' =>
      obtain rfl := unambiguous_additive unambiguous leads value value' rest rest' ends ends' same
      rfl

private theorem unambiguous_group (room : Nat) : (Phrases.group room).Unambiguous fun _ => false := by
  induction room with
  | zero => exact nofun
  | succ room ih =>
    intro ⟨opening, _, inside, closing, isClosing⟩ ⟨opening', _, inside', closing', isClosing'⟩
      rest rest' _ _ same
    simp only [Phrases.group, parenthesised, List.cons_append, List.append_assoc, List.nil_append,
      List.cons.injEq] at same
    obtain ⟨rfl, same⟩ := same
    obtain rfl := unambiguous_statement ih (leads_group room) inside inside' _ _
      (State.rests_of_kind (by simp [isClosing])) (State.rests_of_kind (by simp [isClosing'])) same
    rw [List.append_cancel_left_eq, List.cons.injEq] at same
    obtain ⟨rfl, -⟩ := same
    rfl

/-- Where one statement ends and the next begins is settled by the tokens. -/
theorem statements_unique (room : Nat) {ds ds' : List (statement (.group room)).Derivation}
    (same : ds.flatMap (statement (.group room)).tokens = ds'.flatMap (statement (.group room)).tokens) :
    ds = ds' := by
  have leads := leads_statement (leads_group room)
  have ends (ds : List (statement (.group room)).Derivation) :
      State.Rests (fun _ => true) ⟨ds.flatMap (statement (.group room)).tokens, 0⟩ := by
    cases ds with
    | nil => exact State.rests_nil
    | cons d ds => exact State.rests_append leads rfl d _ 0
  induction ds generalizing ds' with
  | nil =>
    cases ds' with
    | nil => rfl
    | cons d' ds' =>
      obtain ⟨token, rest, first, -⟩ := leads d'
      simp [first] at same
  | cons d ds ih =>
    cases ds' with
    | nil =>
      obtain ⟨token, rest, first, -⟩ := leads d
      simp [first] at same
    | cons d' ds' =>
      simp only [List.flatMap_cons] at same
      obtain rfl := unambiguous_statement (unambiguous_group room) (leads_group room) d d' _ _
        (ends ds) (ends ds') same
      rw [List.append_cancel_left_eq] at same
      rw [ih same]

end Formula.Phrases
