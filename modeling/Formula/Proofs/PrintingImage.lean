import Formula.Proofs.GrammarPrograms
import Formula.Proofs.LexingSegmentation
import Formula.Proofs.Printing

/-! What is read from a text can be printed. By induction on the room for groups, every
tree is formed for the place its phrase stands in, its text opens no more parentheses than
the phrase does, and only a phrase that begins with a name has a text that does. -/

namespace Formula

def Token.IsLexed (token : Token) : Prop := Lexing.IsLexeme token.kind token.text.toList

namespace Token.IsLexed

variable {token : Token}

theorem isName (lexed : token.IsLexed) (isName : token.kind = .identifier) : Expr.IsName token.text := by
  rw [IsLexed, isName] at lexed
  cases lexed with
  | name filled letters other =>
    refine ⟨filled, letters, fun word => other ?_⟩
    rw [word]
    rfl

private theorem text_const (lexed : token.IsLexed) (isConst : token.kind = .const) : token.text = "const" := by
  rw [IsLexed, isConst] at lexed
  generalize spelled : token.text.toList = run at lexed
  cases lexed
  rw [← String.ofList_toList (s := token.text), spelled]

theorem isWhole {value : Binary64} (lexed : token.IsLexed) (isNumber : token.kind = .number)
    (read : Binary64.read? token.text = some value) : value.IsWhole := by
  rw [IsLexed, isNumber] at lexed
  rw [← String.ofList_toList (s := token.text)] at read
  cases lexed with
  | number filled digits => exact Binary64.isWhole_of_read? filled digits read

theorem exists_value (lexed : token.IsLexed) (isNumber : token.kind = .number) :
    ∃ value, Binary64.read? token.text = some value := by
  rw [IsLexed, isNumber] at lexed
  cases lexed with
  | number filled digits =>
    have read := Binary64.read?_of_digits filled digits
    rw [String.ofList_toList] at read
    exact ⟨_, read⟩

theorem exists_operator (lexed : token.IsLexed) (isOperator : token.kind = .binaryOperator) :
    ∃ op, token.operator? = some op := by
  rw [IsLexed, isOperator] at lexed
  generalize spelled : token.text.toList = run at lexed
  cases lexed with
  | @operator ch sign =>
    obtain ⟨op, symbol⟩ : ∃ op : Operator, op.symbol = String.ofList [ch] := by
      rcases Lexing.mem_operators.mp sign with rfl | rfl | rfl | rfl
      · exact ⟨.add, rfl⟩
      · exact ⟨.sub, rfl⟩
      · exact ⟨.mul, rfl⟩
      · exact ⟨.div, rfl⟩
    refine ⟨op, Token.operator?_eq_some_iff.mpr ⟨isOperator, ?_⟩⟩
    rw [symbol, ← spelled, String.ofList_toList]

end Token.IsLexed

namespace Expr

/-- What is known of the tree of a phrase that is written with `tokens` and stands where a
rank is asked for. -/
structure Stands (least room : Nat) (tokens : List Token) (expr : Expr) : Prop where
  formed : expr.Formed
  fits : expr.Fits least
  inside : expr.around least expr.depth ≤ room
  named : least ≤ expr.rank → expr.startsWithName = true → ∃ token ∈ tokens.head?, token.kind = .identifier

structure Stated (room : Nat) (expr : Expr) : Prop where
  formed : expr.Formed
  free : expr.startsWithName = false
  inside : expr.depth ≤ room

private theorem depth_le_around (least : Nat) (expr : Expr) (depth : Nat) :
    depth ≤ expr.around least depth := by
  unfold around
  split <;> omega

private theorem around_le_succ (least : Nat) (expr : Expr) (depth : Nat) :
    expr.around least depth ≤ depth + 1 := by
  unfold around
  split <;> omega

private theorem around_binary (left : Expr) (op : Operator) (right : Expr) (depth : Nat) :
    (binary left op right).around op.rank depth = depth := if_neg (Nat.lt_irrefl op.rank)

variable {least room : Nat} {tokens : List Token} {expr left right : Expr}

theorem Stands.append (stands : expr.Stands least room tokens) (more : List Token) :
    expr.Stands least room (tokens ++ more) where
  formed := stands.formed
  fits := stands.fits
  inside := stands.inside
  named enough starts := by
    obtain ⟨token, first, isName⟩ := stands.named enough starts
    exact ⟨token, by simp [Option.mem_def.mp first], isName⟩

private theorem Stands.relax (stands : expr.Stands (least + 1) room tokens) :
    expr.Stands least room tokens where
  formed := stands.formed
  fits lower := stands.fits (Nat.lt_succ_of_lt lower)
  inside := by
    refine Nat.le_trans ?_ stands.inside
    unfold around
    split <;> split <;> omega
  named enough starts := by
    rcases Nat.lt_or_ge expr.rank (least + 1) with lower | enough
    · exact absurd starts (by simp [stands.fits lower])
    · exact stands.named enough starts

/-- An operator carries the parentheses of its operands and begins as the left one does. -/
theorem Stands.binary {op : Operator} (isRank : op.rank = least) (stands : left.Stands least room tokens)
    {tokens' : List Token} (stands' : right.Stands (least + 1) room tokens') :
    (Expr.binary left op right).Stands least room tokens where
  formed := by
    subst isRank
    exact ⟨stands.fits, stands.formed, stands'.fits, stands'.formed⟩
  fits lower := absurd isRank (Nat.ne_of_lt lower)
  inside := by
    subst isRank
    rw [around_binary]
    exact Nat.max_le.mpr ⟨stands.inside, stands'.inside⟩
  named _ starts := by
    subst isRank
    obtain ⟨enough, starts⟩ : op.rank ≤ left.rank ∧ left.startsWithName = true := by
      simpa [startsWithName] using starts
    exact stands.named enough starts

/-- Parentheses let a statement stand anywhere. -/
theorem Stated.stands (stated : expr.Stated room) (least : Nat) (tokens : List Token) :
    expr.Stands least (room + 1) tokens where
  formed := stated.formed
  fits _ := stated.free
  inside := Nat.le_trans (around_le_succ _ _ _) (Nat.succ_le_succ stated.inside)
  named _ starts := absurd starts (by simp [stated.free])

end Expr

namespace Phrases

/-- The trees of a sort, read from lexemes, can stand where a rank is asked for. -/
def Fills (phrases : Phrases Expr) (least room : Nat) : Prop :=
  ∀ d, (∀ token ∈ phrases.tokens d, token.IsLexed) →
    (phrases.meaning d).Stands least room (phrases.tokens d)

variable {operand group : Phrases Expr} {level : Operator → Bool} {least room : Nat}

private theorem stands_fold (fills : operand.Fills (least + 1) room)
    (isRank : ∀ op, level op = true → op.rank = least) {links : List (Link operand level)}
    (lexed : ∀ token ∈ links.flatMap Link.tokens, token.IsLexed) {left : Expr} {tokens : List Token}
    (stands : left.Stands least room tokens) : (fold left links).Stands least room tokens := by
  induction links generalizing left with
  | nil => exact stands
  | cons link links ih =>
    have right := fills link.right fun token inside => lexed token (by simp [Link.tokens, inside])
    refine ih (fun token inside => lexed token ?_) (stands.binary (isRank _ link.inside) right)
    exact List.mem_append_right _ inside

theorem fills_chain (fills : operand.Fills (least + 1) room)
    (isRank : ∀ op, level op = true → op.rank = least) : (operand.chain level).Fills least room := by
  intro d lexed
  have first := fills d.first fun token inside => lexed token (List.mem_append_left _ inside)
  refine (stands_fold fills isRank (fun token inside => lexed token ?_) first.relax).append _
  exact List.mem_append_right _ inside

private theorem fills_primary (fills : group.Fills 3 room) : (primary group).Fills 3 room := by
  intro d lexed
  cases d with
  | number token value isNumber isNumeral =>
    have isLexed := lexed token (List.mem_singleton_self token)
    exact ⟨isLexed.isWhole isNumber isNumeral, fun _ => rfl, Nat.zero_le _, nofun⟩
  | name token isName =>
    have isLexed := lexed token (List.mem_singleton_self token)
    exact ⟨isLexed.isName isName, fun lower => absurd lower (Nat.lt_irrefl 3), Nat.zero_le _,
      fun _ _ => ⟨token, rfl, isName⟩⟩
  | group inner => exact fills inner lexed

theorem fills_additive (fills : group.Fills 3 room) : (additive group).Fills 1 room := by
  refine fills_chain (fills_chain (fills_primary fills) fun op inside => ?_) fun op inside => ?_
  all_goals cases op <;> first | rfl | cases inside

private theorem formed_binding (fills : group.Fills 3 room) (bound : Binding group)
    (lexed : ∀ token ∈ (binding group).tokens bound, token.IsLexed) :
    Expr.IsName bound.name.text ∧
      ((additive group).meaning bound.init).Stands 1 room ((additive group).tokens bound.init) := by
  have isLexed := lexed bound.name List.mem_cons_self
  refine ⟨isLexed.isName bound.isName, fills_additive fills bound.init fun token inside => lexed token ?_⟩
  exact List.mem_cons_of_mem _ (List.mem_cons_of_mem _ inside)

theorem stated_statement (fills : group.Fills 3 room) (d : (statement group).Derivation)
    (lexed : ∀ token ∈ (statement group).tokens d, token.IsLexed) :
    ((statement group).meaning d).Stated room := by
  cases d with
  | declaration word isConst binding =>
    obtain ⟨isName, init⟩ := formed_binding fills binding fun token inside =>
      lexed token (List.mem_cons_of_mem _ inside)
    have isWord := (lexed word List.mem_cons_self).text_const isConst
    exact ⟨⟨isWord, isName, init.formed⟩, rfl, init.inside⟩
  | assignment binding =>
    obtain ⟨isName, init⟩ := formed_binding fills binding lexed
    exact ⟨⟨isName, init.formed⟩, rfl, init.inside⟩
  | plain value noName =>
    have stands := fills_additive fills value lexed
    refine ⟨stands.formed, ?_, Nat.le_trans (Expr.depth_le_around _ _ _) stands.inside⟩
    rcases Nat.lt_or_ge ((additive group).meaning value).rank 1 with lower | enough
    · exact stands.fits lower
    · refine Bool.eq_false_iff.mpr fun starts => ?_
      obtain ⟨token, first, isName⟩ := stands.named enough starts
      exact noName token first isName

private theorem fills_group (room : Nat) : (Phrases.group room).Fills 3 room := by
  induction room with
  | zero => exact nofun
  | succ room ih =>
    intro d lexed
    refine (stated_statement ih d.inside fun token inside => lexed token ?_).stands 3 _
    exact List.mem_cons_of_mem _ (List.mem_append_left _ inside)

end Phrases

private theorem isLexed_of_mem_placed {before : List Char} {pieces : List Lexing.Piece} {token : Token}
    (inside : token ∈ Lexing.placed before pieces) : token.IsLexed := by
  obtain ⟨front, piece, back, -, rfl⟩ := Lexing.mem_placed_iff.mp inside
  rw [Token.IsLexed, Lexing.Piece.token, String.toList_ofList]
  exact piece.lexeme

theorem isLexed_of_mem_tokens {text : List Char} (cut : Lexing.Segmentation text) {token : Token}
    (inside : token ∈ cut.tokens) (going : token.kind ≠ .endOfInput) : token.IsLexed := by
  rcases List.mem_append.mp inside with placed | last
  · exact isLexed_of_mem_placed placed
  · obtain rfl := List.mem_singleton.mp last
    exact absurd rfl going

theorem isLexed_of_mem_beforeEnd {text : List Char} (cut : Lexing.Segmentation text) {token : Token}
    (inside : token ∈ beforeEnd cut.tokens) : token.IsLexed := by
  have going : token.kind ≠ .endOfInput := by
    simpa using List.all_eq_true.mp List.all_takeWhile token inside
  exact isLexed_of_mem_tokens cut ((List.takeWhile_prefix _).subset inside) going

theorem Derivation.stated {limit : Nat} {tokens : List Token} {program : Program}
    (d : Derivation limit tokens program) (lexed : ∀ token ∈ tokens, token.IsLexed) :
    ∀ expr ∈ program.body, expr.Stated limit := by
  intro expr inside
  rw [← d.meant] at inside
  obtain ⟨statement, member, rfl⟩ := List.mem_map.mp inside
  refine Phrases.stated_statement (Phrases.fills_group limit) statement fun token within => lexed token ?_
  rw [← d.spelled]
  exact List.mem_flatMap_of_mem member within

theorem stated_of_parseStrict {source : String} {program : Program}
    (parsed : Source.parseStrict source = .ok program) :
    ∀ expr ∈ program.body, expr.Stated Grammar.maxDepth := by
  obtain ⟨tokens, tokenized, ⟨d⟩⟩ := parseStrict_eq_ok_iff.mp parsed
  obtain ⟨cut⟩ := Lexing.exists_segmentation source.toList
  obtain ⟨-, rfl⟩ := (tryTokenize_eq_ok cut tokens).mp tokenized
  exact d.stated fun token inside => isLexed_of_mem_beforeEnd cut inside

theorem stated_of_parse {source : String} {program : Program} (parsed : Source.parse source = .ok program) :
    ∀ expr ∈ program.body, expr.Stated Grammar.maxDepth := by
  obtain ⟨cut⟩ := Lexing.exists_segmentation source.toList
  rw [Source.parse, tokenize_eq cut, parseTokens, result_statements_iff] at parsed
  obtain ⟨d⟩ := parsed
  exact d.stated fun token inside => isLexed_of_mem_beforeEnd cut inside

end Formula
