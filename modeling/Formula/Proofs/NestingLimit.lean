import Formula.Proofs.NestingOverrun

/-! What the limit on open groups does to programs. The place where it is exceeded first
is told by counting parentheses. A list of tokens that ends before that place, or that
has an error up to it, is read as if there were no limit; any other is refused there. -/

namespace Formula

/-- The program of a list of tokens where no limit is set: there are never more groups
open than there are tokens. -/
def parseUnlimited (tokens : List Token) : Except ParseError Program := parseWithin tokens.length tokens

/-- A group begins at `i`, and in front of it `limit` groups have not been closed. -/
def opensTooDeep (limit : Nat) (tokens : List Token) (i : Nat) : Bool :=
  tokens[i]?.any (·.kind = .openParen) &&
    (tokens.take i).countP (·.kind = .openParen) = (tokens.take i).countP (·.kind = .closeParen) + limit

def tooDeep? (limit : Nat) (tokens : List Token) : Option Nat :=
  (List.range tokens.length).find? (opensTooDeep limit tokens)

theorem balance_eq_count (tokens : List Token) :
    balance tokens = tokens.countP (·.kind = .openParen) - tokens.countP (·.kind = .closeParen) := by
  induction tokens with
  | nil => rfl
  | cons token tokens ih =>
    rw [balance, ih, List.countP_cons, List.countP_cons]
    cases token.kind <;> simp [Kind.step] <;> omega

theorem opensTooDeep_iff {limit : Nat} {tokens : List Token} {i : Nat} :
    opensTooDeep limit tokens i = true ↔
      ∃ opening, tokens[i]? = some opening ∧ opening.kind = .openParen ∧ balance (tokens.take i) = limit := by
  rw [opensTooDeep, Bool.and_eq_true, decide_eq_true_eq, balance_eq_count]
  cases tokens[i]? with
  | none => simp
  | some opening =>
    simp only [Option.any_some, decide_eq_true_eq, Option.some.injEq, exists_eq_left']
    apply and_congr_right
    intro _
    omega

theorem Shallow.opensTooDeep_eq_false {limit : Nat} {tokens : List Token} {i : Nat}
    (shallow : Shallow limit (tokens.take (i + 1))) : opensTooDeep limit tokens i = false := by
  refine Bool.eq_false_iff.mpr fun deep => ?_
  obtain ⟨opening, found, isOpening, level⟩ := opensTooDeep_iff.mp deep
  rw [List.take_add_one, found, Option.toList_some] at shallow
  have room := shallow.balance_lt isOpening
  omega

private theorem Shallow.tooDeep?_eq_none {limit : Nat} {tokens : List Token} (shallow : Shallow limit tokens) :
    tooDeep? limit tokens = none := by
  refine List.find?_range_eq_none.mpr fun i _ => ?_
  rw [← List.take_append_drop (i + 1) tokens, shallow_append_iff] at shallow
  rw [shallow.1.opensTooDeep_eq_false, Bool.not_false]

theorem tooDeep?_of_overrun {limit : Nat} {begins : List Token → Prop} {front back : List Token}
    {opening : Token} (reached : Overrun limit begins front opening) :
    tooDeep? limit (front ++ opening :: back) = some front.length := by
  refine List.find?_range_eq_some.mpr ⟨?_, by simp, fun j before => ?_⟩
  · exact opensTooDeep_iff.mpr ⟨opening, by simp, reached.isOpening, by simpa using reached.level⟩
  · have split : front = front.take (j + 1) ++ front.drop (j + 1) := (List.take_append_drop _ _).symm
    have shallow := reached.shallow
    rw [split, shallow_append_iff] at shallow
    rw [Shallow.opensTooDeep_eq_false]
    · rfl
    · rw [List.take_append_of_le_length before]
      exact shallow.1

private theorem shallow_of_parsed {limit : Nat} {front more : List Token} {program : Program}
    (inside : ∀ token ∈ front, token.kind ≠ .endOfInput)
    (parsed : parseWithin limit (front ++ more) = .ok program) : Shallow limit front := by
  obtain ⟨ds, spelled, -⟩ := result_statements_iff.mp parsed
  have closed : Closed limit (ds.flatMap (Phrases.statement (.group limit)).tokens) :=
    .flatMap fun d _ => Phrases.nests_statement (Phrases.nests_group limit) d
  have shallow := closed.shallow
  rw [spelled, beforeEnd, List.takeWhile_append_of_pos (by simpa using inside), shallow_append_iff] at shallow
  exact shallow.1

section Unlimited

variable {limit : Nat} {tokens : List Token}

theorem parseWithin_of_length_le {wide : Nat} (enough : tokens.length ≤ limit) (less : limit < wide) :
    parseWithin limit tokens = parseWithin wide tokens ∧
      ∀ error, parseWithin limit tokens = .error error → error.reason ≠ .nestedTooDeeply := by
  rcases parseWithin_narrowing less tokens with same | ⟨front, opening, back, spelled, reached, -⟩
  · exact same
  · have level := reached.level
    have bound := balance_le_length front
    rw [spelled, List.length_append, List.length_cons] at enough
    omega

theorem parseWithin_eq_unlimited (enough : tokens.length ≤ limit) :
    parseWithin limit tokens = parseUnlimited tokens := by
  rcases Nat.eq_or_lt_of_le enough with same | less
  · rw [parseUnlimited, same]
  · exact (parseWithin_of_length_le (Nat.le_refl _) less).1.symm

theorem unlimited_of_parsed {program : Program} (parsed : parseWithin limit tokens = .ok program) :
    parseUnlimited tokens = .ok program := by
  rcases Nat.lt_or_ge limit tokens.length with less | enough
  · rcases parseWithin_narrowing less tokens with ⟨same, -⟩ | ⟨_, _, _, -, -, failed⟩
    · rw [parseUnlimited, ← same, parsed]
    · rw [parsed] at failed
      cases failed
  · rw [← parseWithin_eq_unlimited enough, parsed]

structure Viable (front : List Token) : Prop where
  inside : ∀ token ∈ front, token.kind ≠ .endOfInput
  completed : ∃ more program, parseUnlimited (front ++ more) = .ok program

theorem parseWithin_or_overrun (limit : Nat) (tokens : List Token) :
    (parseWithin limit tokens = parseUnlimited tokens ∧
      ∀ error, parseWithin limit tokens = .error error → error.reason ≠ .nestedTooDeeply) ∨
    ∃ front opening back, tokens = front ++ opening :: back ∧ Overrun limit Viable front opening ∧
      parseWithin limit tokens = .error ⟨.nestedTooDeeply, some opening, none⟩ := by
  -- A limit above this one that is none for these tokens.
  have less : limit < max (limit + 1) tokens.length := by omega
  rcases parseWithin_narrowing less tokens with ⟨same, fine⟩ | ⟨front, opening, back, spelled, reached, failed⟩
  · exact .inl ⟨same.trans (parseWithin_eq_unlimited (Nat.le_max_right _ _)), fine⟩
  · obtain ⟨ds, more, begins⟩ := reached.begins
    have accepted := parseWithin_statements ds
    have inside : ∀ token ∈ front ++ [opening], token.kind ≠ .endOfInput := fun token member =>
      Derivation.inside ⟨ds, rfl, rfl⟩ (begins ▸ List.mem_append_left more member)
    rw [begins] at accepted
    exact .inr ⟨front, opening, back, spelled,
      { reached with begins := ⟨inside, more, _, unlimited_of_parsed accepted⟩ }, failed⟩

theorem unlimited_of_failed {error : ParseError} (fine : error.reason ≠ .nestedTooDeeply)
    (failed : parseWithin limit tokens = .error error) : parseUnlimited tokens = .error error := by
  rcases parseWithin_or_overrun limit tokens with ⟨same, -⟩ | ⟨_, _, _, -, -, failed'⟩
  · rw [← same, failed]
  · rw [failed] at failed'
    obtain rfl := Except.error.inj failed'
    exact absurd rfl fine

private theorem reason_of_unlimited {error : ParseError} (failed : parseUnlimited tokens = .error error) :
    error.reason ≠ .nestedTooDeeply :=
  (parseWithin_of_length_le (Nat.le_refl _) (Nat.lt_succ_self _)).2 error failed

theorem offends_unlimited {error : ParseError} {i : Nat} (fine : error.reason ≠ .nestedTooDeeply)
    (offends : Offends (parseWithin limit) tokens error i) : Offends parseUnlimited tokens error i where
  failed := unlimited_of_failed fine offends.failed
  inside := offends.inside
  found := offends.found
  viable := by
    obtain ⟨more, program, accepted⟩ := offends.viable
    exact ⟨more, program, unlimited_of_parsed accepted⟩
  final short more := unlimited_of_failed fine (offends.final short more)

/-- The tokens end, or have an error, before the limit is exceeded. -/
def Settled (limit : Nat) (tokens : List Token) : Prop :=
  ∀ i, tooDeep? limit tokens = some i → (∃ token ∈ tokens.take i, token.kind = .endOfInput) ∨
    ∃ error, ∃ j ≤ i, Offends parseUnlimited tokens error j

/-- Tokens up to a group that is too deep, with no end among them, are not accepted,
whatever follows. -/
theorem not_parsed_of_tooDeep {i : Nat} (deep : tooDeep? limit tokens = some i)
    (inside : ∀ token ∈ tokens.take i, token.kind ≠ .endOfInput) (more : List Token) (program : Program) :
    parseWithin limit (tokens.take (i + 1) ++ more) ≠ .ok program := by
  intro parsed
  have opens := List.find?_some deep
  obtain ⟨opening, found, isOpening, -⟩ := opensTooDeep_iff.mp opens
  have shallow : Shallow limit (tokens.take (i + 1)) := by
    refine shallow_of_parsed (fun token member => ?_) parsed
    rw [List.take_add_one, found, List.mem_append] at member
    rcases member with member | member
    · exact inside token member
    · obtain rfl := List.mem_singleton.mp member
      simp [isOpening]
  rw [shallow.opensTooDeep_eq_false] at opens
  cases opens

private theorem settled_of_fine
    (fine : ∀ error, parseWithin limit tokens = .error error → error.reason ≠ .nestedTooDeeply) :
    Settled limit tokens := by
  intro i deep
  by_cases ended : ∃ token ∈ tokens.take i, token.kind = .endOfInput
  · exact .inl ended
  have inside : ∀ token ∈ tokens.take i, token.kind ≠ .endOfInput :=
    fun token member isEnd => ended ⟨token, member, isEnd⟩
  cases outcome : parseWithin limit tokens with
  | ok program =>
    have parsed := not_parsed_of_tooDeep deep inside (tokens.drop (i + 1)) program
    rw [List.take_append_drop] at parsed
    exact absurd outcome parsed
  | error error =>
    obtain ⟨j, offends⟩ := exists_offends outcome
    refine .inr ⟨error, j, Nat.le_of_not_lt fun before => ?_, offends_unlimited (fine error outcome) offends⟩
    -- An error behind `i` would leave the tokens up to `i` to be completed.
    obtain ⟨more, program, accepted⟩ := offends.viable
    obtain ⟨between, split⟩ := List.take_prefix_take_left (l := tokens) before
    rw [← split, List.append_assoc] at accepted
    exact not_parsed_of_tooDeep deep inside _ program accepted

private theorem not_settled_of_overrun {front back : List Token} {opening : Token}
    (reached : Overrun limit Viable front opening) : ¬ Settled limit (front ++ opening :: back) := by
  intro settled
  have viable := reached.begins
  rcases settled _ (tooDeep?_of_overrun reached) with ⟨token, member, isEnd⟩ | ⟨error, j, before, offends⟩
  · rw [List.take_left] at member
    exact viable.inside token (List.mem_append_left _ member) isEnd
  · -- The tokens up to `opening` can be completed, but an error among them is final.
    obtain ⟨more, program, accepted⟩ := viable.completed
    obtain ⟨between, split⟩ := List.take_prefix_take_left (l := front ++ opening :: back) (Nat.succ_le_succ before)
    have whole : (front ++ opening :: back).take (front.length + 1) = front ++ [opening] := by
      simp [List.take_add_one]
    rw [← whole, ← split, List.append_assoc, offends.final (by simp; omega)] at accepted
    cases accepted

private theorem parseWithin_of_settled (settled : Settled limit tokens) :
    parseWithin limit tokens = parseUnlimited tokens := by
  rcases parseWithin_or_overrun limit tokens with ⟨same, -⟩ | ⟨_, _, _, rfl, reached, -⟩
  · exact same
  · exact absurd settled (not_settled_of_overrun reached)

private theorem parseWithin_of_not_settled {i : Nat} (deep : tooDeep? limit tokens = some i)
    (unsettled : ¬ Settled limit tokens) :
    parseWithin limit tokens = .error ⟨.nestedTooDeeply, tokens[i]?, none⟩ := by
  rcases parseWithin_or_overrun limit tokens with ⟨same, fine⟩ | ⟨front, opening, back, rfl, reached, failed⟩
  · exact absurd (settled_of_fine fine) unsettled
  · rw [tooDeep?_of_overrun reached, Option.some.injEq] at deep
    rw [failed, ← deep, List.getElem?_append_right (Nat.le_refl _), Nat.sub_self, List.getElem?_cons_zero]

end Unlimited

/-- A group behind another one, with an operator between them or with nothing. -/
structure Sibling (limit : Nat) where
  sign : Option Token
  isOperator : ∀ token ∈ sign, ∃ op, token.operator? = some op
  group : (Phrases.group limit).Derivation

def Sibling.tokens {limit : Nat} (sibling : Sibling limit) : List Token :=
  sibling.sign.toList ++ (Phrases.group limit).tokens sibling.group

namespace Phrases

variable {limit : Nat} {group : Phrases Expr}

/-- A group and an operator in front of a value. To which level of the value the operator
belongs depends on its own. -/
private theorem exists_additive_behind (first : group.Derivation) {sign : Token} {op : Operator}
    (next : sign.operator? = some op) (value : (additive group).Derivation) :
    ∃ whole, (additive group).tokens whole = group.tokens first ++ sign :: (additive group).tokens value := by
  obtain ⟨isOperator, isSymbol⟩ := Token.operator?_eq_some_iff.mp next
  obtain ⟨⟨operand, products⟩, sums⟩ := value
  by_cases inside : op.isMultiplicative = true
  · let link : Link (primary group) Operator.isMultiplicative :=
      ⟨sign, op, isOperator, isSymbol, inside, operand⟩
    refine ⟨⟨⟨.group first, link :: products⟩, sums⟩, ?_⟩
    calc
      _ = group.tokens first ++ (link :: products).flatMap Link.tokens ++ sums.flatMap Link.tokens := rfl
      _ = group.tokens first ++ sign ::
          ((primary group).tokens operand ++ products.flatMap Link.tokens ++ sums.flatMap Link.tokens) := by
        simp [link, Link.tokens]
  · let product : (multiplicative group).Derivation := ⟨operand, products⟩
    let link : Link (multiplicative group) Operator.isAdditive :=
      ⟨sign, op, isOperator, isSymbol, by simpa [Operator.isMultiplicative_eq_not] using inside, product⟩
    refine ⟨⟨⟨.group first, []⟩, link :: sums⟩, ?_⟩
    calc
      _ = group.tokens first ++ [] ++ (link :: sums).flatMap Link.tokens := rfl
      _ = group.tokens first ++ sign :: ((multiplicative group).tokens product ++ sums.flatMap Link.tokens) := by
        simp [link, Link.tokens]

theorem noName_of_group {value : (additive (.group limit)).Derivation} {first : (Phrases.group limit).Derivation}
    {rest rest' : List Token}
    (spelled : (additive (.group limit)).tokens value ++ rest = (Phrases.group limit).tokens first ++ rest') :
    ∀ token ∈ ((additive (.group limit)).tokens value).head?, token.kind ≠ .identifier := by
  obtain ⟨opening, inside, begins, isOpening⟩ := leads_group limit first
  obtain ⟨head, more, first, -⟩ := leads_additive (leads_group limit) value
  rw [first, begins] at spelled
  obtain ⟨rfl, -⟩ := List.cons.inj spelled
  simp [first, of_decide_eq_true isOpening]

/-- Groups with operators between some of them are the statements of a program, of which
the first is a value. -/
private theorem exists_statements_of_siblings (first : (Phrases.group limit).Derivation)
    (siblings : List (Sibling limit)) :
    ∃ (value : (additive (.group limit)).Derivation) (ds : List (statement (.group limit)).Derivation),
      (additive (.group limit)).tokens value ++ ds.flatMap (statement (.group limit)).tokens =
        (Phrases.group limit).tokens first ++ siblings.flatMap Sibling.tokens := by
  induction siblings generalizing first with
  | nil =>
    refine ⟨⟨⟨.group first, []⟩, []⟩, [], ?_⟩
    calc
      _ = (Phrases.group limit).tokens first ++ [] ++ [] ++ [] := rfl
      _ = (Phrases.group limit).tokens first ++ [] := by simp
  | cons sibling siblings ih =>
    obtain ⟨sign, isOperator, group⟩ := sibling
    obtain ⟨value, ds, spelled⟩ := ih group
    cases sign with
    | none =>
      have noName := noName_of_group spelled
      refine ⟨⟨⟨.group first, []⟩, []⟩, .plain value noName :: ds, ?_⟩
      calc
        _ = (Phrases.group limit).tokens first ++ [] ++ [] ++ ((additive (.group limit)).tokens value ++
            ds.flatMap (statement (.group limit)).tokens) := rfl
        _ = (Phrases.group limit).tokens first ++ (⟨none, isOperator, group⟩ :: siblings).flatMap Sibling.tokens := by
          rw [spelled]
          simp [Sibling.tokens]
    | some token =>
      obtain ⟨op, next⟩ := isOperator token rfl
      obtain ⟨whole, tokens⟩ := exists_additive_behind first next value
      refine ⟨whole, ds, ?_⟩
      rw [tokens, List.append_assoc, List.cons_append, spelled]
      simp [Sibling.tokens]

end Phrases

private theorem parseWithin_siblings {limit : Nat} (first : (Phrases.group limit).Derivation)
    (siblings : List (Sibling limit)) :
    ∃ program, parseWithin limit
      ((Phrases.group limit).tokens first ++ siblings.flatMap Sibling.tokens) = .ok program := by
  obtain ⟨value, ds, spelled⟩ := Phrases.exists_statements_of_siblings first siblings
  let sum : (Phrases.statement (.group limit)).Derivation := .plain value (Phrases.noName_of_group spelled)
  rw [← spelled]
  exact ⟨_, parseWithin_statements (sum :: ds)⟩

/-- The limit on open groups decides nothing but what becomes of a list of tokens at the
first place that exceeds it. -/
theorem nesting_limit_exact :
    (∀ tokens, Settled Grammar.maxDepth tokens → parseTokens tokens = parseUnlimited tokens) ∧
    (∀ tokens i, tooDeep? Grammar.maxDepth tokens = some i → ¬ Settled Grammar.maxDepth tokens →
      parseTokens tokens = .error ⟨.nestedTooDeeply, tokens[i]?, none⟩) ∧
    (∀ tokens limit, tokens.length ≤ limit → parseWithin limit tokens = parseUnlimited tokens) ∧
    (∀ tokens error, parseUnlimited tokens = .error error →
      error.reason ≠ .nestedTooDeeply ∧
        ∃ i, Offends parseUnlimited tokens error i ∧ ∀ j, Offends parseUnlimited tokens error j → j = i) ∧
    ∀ (first : (Phrases.group Grammar.maxDepth).Derivation) (siblings : List (Sibling Grammar.maxDepth)),
      ∃ program, parseTokens ((Phrases.group Grammar.maxDepth).tokens first ++
        siblings.flatMap Sibling.tokens) = .ok program := by
  refine ⟨fun _ => parseWithin_of_settled, fun _ _ => parseWithin_of_not_settled,
    fun _ _ => parseWithin_eq_unlimited, fun tokens error failed => ?_, parseWithin_siblings⟩
  have fine := reason_of_unlimited failed
  obtain ⟨i, offends⟩ := exists_offends failed
  have offends := offends_unlimited fine offends
  exact ⟨fine, i, offends, fun j offends' => offends'.unique offends⟩

def opening : Token := ⟨.openParen, "(", .empty⟩

def openings : List Token := List.replicate Grammar.maxDepth opening

/-- Behind as many parentheses as may be open an operand is missing. With one more of them
it still is, but that comes too late. -/
theorem nesting_limit_openings :
    Settled Grammar.maxDepth openings ∧ parseTokens openings = parseUnlimited openings ∧
      tooDeep? Grammar.maxDepth (openings ++ [opening]) = some 256 ∧
      ¬ Settled Grammar.maxDepth (openings ++ [opening]) ∧
      parseTokens (openings ++ [opening]) = .error ⟨.nestedTooDeeply, some opening, none⟩ ∧
      (openings ++ [opening]).length ≤ 300 ∧
      parseWithin 300 (openings ++ [opening]) = parseUnlimited (openings ++ [opening]) ∧
      parseUnlimited (openings ++ [opening]) = .error ⟨.unexpected, none, none⟩ ∧
      ∃ i, Offends parseUnlimited (openings ++ [opening]) ⟨.unexpected, none, none⟩ i := by
  have shallow : Shallow Grammar.maxDepth openings := by decide +kernel
  have settled : Settled Grammar.maxDepth openings := by
    intro i deep
    rw [shallow.tooDeep?_eq_none] at deep
    cases deep
  have reached : Overrun Grammar.maxDepth (fun _ => True) openings opening :=
    ⟨rfl, by decide +kernel, shallow, trivial⟩
  have deep : tooDeep? Grammar.maxDepth (openings ++ [opening]) = some 256 := by
    rw [tooDeep?_of_overrun reached, openings, List.length_replicate, Grammar.maxDepth]
  have failed : parseTokens (openings ++ [opening]) = .error ⟨.nestedTooDeeply, some opening, none⟩ :=
    parseWithin_eq_error_iff.mpr (by decide +kernel)
  have failed' : parseUnlimited (openings ++ [opening]) = .error ⟨.unexpected, none, none⟩ :=
    parseWithin_eq_error_iff.mpr (by decide +kernel)
  have unsettled : ¬ Settled Grammar.maxDepth (openings ++ [opening]) := by
    intro settled
    have same := nesting_limit_exact.1 _ settled
    rw [failed, failed'] at same
    cases same
  have enough : (openings ++ [opening]).length ≤ 300 := by decide +kernel
  obtain ⟨-, i, offends, -⟩ := nesting_limit_exact.2.2.2.1 _ _ failed'
  exact ⟨settled, nesting_limit_exact.1 openings settled, deep, unsettled,
    nesting_limit_exact.2.1 _ 256 deep unsettled, enough, nesting_limit_exact.2.2.1 _ 300 enough,
    failed', i, offends⟩

end Formula
