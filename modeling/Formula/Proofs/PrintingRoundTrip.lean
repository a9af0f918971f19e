import Formula.Proofs.PrintingImage
import Formula.Proofs.PrintingStretches

/-! What is printed is read again. The text of a formed tree is spelled in the grammar, by
induction on the tree: an operator spells a chain of its rank, and parentheses spell a
group, which takes one more room. A program that was read is formed and needs no more
room than there is, so printing loses nothing that reading has found. -/

namespace Formula
namespace Phrases

open Lexing (Stretch IsLexeme isBlank)

variable {α : Type} {operand group : Phrases Expr} {level : Operator → Bool} {named : Bool}
variable {text : List Char} {expr : Expr}

/-- The text is cut into the tokens of a phrase with the meaning, wherever it stands. It
begins with a name only if it is `named`. -/
def Spells (phrases : Phrases α) (named : Bool) (text : List Char) (meant : α) : Prop :=
  ∃ stretch : Stretch text, (stretch.first.kind = .identifier → named = true) ∧
    ∀ before, ∃ d, phrases.tokens d = stretch.tokens before ∧ phrases.meaning d = meant

theorem lexeme_of_isName {name : String} (isName : Expr.IsName name) :
    IsLexeme .identifier name.toList := by
  refine .name isName.1 isName.2.1 fun same => isName.2.2 ?_
  rw [← String.ofList_toList (s := name), same]

theorem lexeme_symbol (op : Operator) : IsLexeme .binaryOperator op.symbol.toList := by
  cases op
  all_goals exact .operator (by decide)

theorem spells_digits {x : Binary64} (filled : text ≠ []) (digits : text.all Char.isDigit = true)
    (read : Binary64.read? (String.ofList text) = some x) : (primary group).Spells false text (.number x) :=
  ⟨.single (.number filled digits), nofun, fun _ =>
    ⟨.number ⟨.number, String.ofList text, _⟩ x rfl read, rfl, rfl⟩⟩

private theorem spells_number {x : Binary64} (isWhole : x.IsWhole) :
    (primary group).Spells false x.digits (.number x) :=
  spells_digits x.digits_ne_nil x.all_isDigit_digits isWhole.read?_digits

private theorem spells_name {name : String} (isName : Expr.IsName name) :
    (primary group).Spells true name.toList (.reference name) :=
  ⟨.single (lexeme_of_isName isName), fun _ => rfl, fun _ =>
    ⟨.name ⟨.identifier, String.ofList name.toList, _⟩ rfl, rfl,
      congrArg Expr.reference String.ofList_toList⟩⟩

/-- What turns every phrase of a sort into one of another, written with the same tokens,
turns the texts of the one into texts of the other. -/
theorem Spells.map {β : Type} {phrases : Phrases α} {phrases' : Phrases β} (f : α → β) {meant : α}
    (turns : ∀ d, ∃ d', phrases'.tokens d' = phrases.tokens d ∧ phrases'.meaning d' = f (phrases.meaning d))
    (spells : phrases.Spells named text meant) : phrases'.Spells named text (f meant) := by
  obtain ⟨stretch, first, derived⟩ := spells
  refine ⟨stretch, first, fun before => ?_⟩
  obtain ⟨d, tokens, rfl⟩ := derived before
  obtain ⟨d', same, meant'⟩ := turns d
  exact ⟨d', same.trans tokens, meant'⟩

private theorem Spells.asOperand (spells : group.Spells named text expr) :
    (primary group).Spells named text expr :=
  spells.map id fun d => ⟨.group d, rfl, rfl⟩

theorem Spells.asChain (spells : operand.Spells named text expr) :
    (operand.chain level).Spells named text expr :=
  spells.map id fun d => ⟨⟨d, []⟩, List.append_nil _, rfl⟩

theorem Spells.link {named' : Bool} {text' : List Char} {left right : Expr} {op : Operator}
    (inside : level op = true) (spells : (operand.chain level).Spells named text left)
    (spells' : operand.Spells named' text' right) :
    (operand.chain level).Spells named (text ++ ' ' :: (op.symbol.toList ++ ' ' :: text'))
      (.binary left op right) := by
  obtain ⟨front, first, derived⟩ := spells
  obtain ⟨back, -, derived'⟩ := spells'
  have blank : isBlank ' ' = true := rfl
  refine ⟨front.spaced blank ((Stretch.single (lexeme_symbol op)).spaced blank back), first, fun before => ?_⟩
  obtain ⟨sign, isOperator, isSymbol, placed⟩ :=
    back.tokens_single_spaced (lexeme_symbol op) blank (before ++ text ++ [' '])
  obtain ⟨⟨one, links⟩, tokens, rfl⟩ := derived before
  obtain ⟨d, tokens', rfl⟩ := derived' (before ++ text ++ [' '] ++ op.symbol.toList ++ [' '])
  rw [String.ofList_toList] at isSymbol
  let link : Link operand level := ⟨sign, op, isOperator, isSymbol, inside, d⟩
  refine ⟨⟨one, links ++ [link]⟩, ?_, ?_⟩
  · rw [Stretch.tokens_spaced, placed, ← tokens, ← tokens']
    simp [Phrases.chain, Link.tokens, link]
  · simp [Phrases.chain, fold, link]

theorem Spells.plain (spells : (additive group).Spells false text expr) :
    (statement group).Spells false text expr := by
  obtain ⟨stretch, first, derived⟩ := spells
  refine ⟨stretch, first, fun before => ?_⟩
  obtain ⟨d, tokens, meant⟩ := derived before
  refine ⟨.plain d fun token begins isName => ?_, tokens, meant⟩
  rw [tokens] at begins
  obtain rfl := Option.some.inj begins
  exact absurd (first isName) Bool.false_ne_true

theorem Spells.bound {name : String} (isName : Expr.IsName name)
    (spells : (additive group).Spells named text expr) :
    (binding group).Spells true (name.toList ++ ' ' :: '=' :: ' ' :: text) (name, expr) := by
  obtain ⟨stretch, -, derived⟩ := spells
  have blank : isBlank ' ' = true := rfl
  refine ⟨(Stretch.single (lexeme_of_isName isName)).spaced blank
    ((Stretch.single IsLexeme.equals).spaced blank stretch), fun _ => rfl, fun before => ?_⟩
  obtain ⟨word, isWord, spelled, placed⟩ := Stretch.tokens_single_spaced (lexeme_of_isName isName) blank
    ((Stretch.single IsLexeme.equals).spaced blank stretch) before
  obtain ⟨sign, isSign, -, placed'⟩ := stretch.tokens_single_spaced IsLexeme.equals blank
    (before ++ name.toList ++ [' '])
  obtain ⟨d, tokens, rfl⟩ := derived (before ++ name.toList ++ [' '] ++ ['='] ++ [' '])
  rw [String.ofList_toList] at spelled
  exact ⟨⟨word, isWord, sign, isSign, d⟩, by rw [placed, placed', ← tokens]; rfl,
    congrArg (·, (additive group).meaning d) spelled⟩

private theorem Spells.assigned {name : String}
    (spells : (binding group).Spells named text (name, expr)) :
    (statement group).Spells named text (.assign name expr) :=
  spells.map (fun bound : String × Expr => Expr.assign bound.1 bound.2) fun d =>
    ⟨Statement.assignment d, rfl, rfl⟩

private theorem Spells.declared {name : String} (spells : (binding group).Spells named text (name, expr)) :
    (statement group).Spells false ("const".toList ++ ' ' :: text) (.declare "const" name expr) := by
  obtain ⟨stretch, -, derived⟩ := spells
  have blank : isBlank ' ' = true := rfl
  refine ⟨(Stretch.single IsLexeme.keyword).spaced blank stretch, nofun, fun before => ?_⟩
  obtain ⟨word, isWord, spelled, placed⟩ := stretch.tokens_single_spaced IsLexeme.keyword blank before
  obtain ⟨d, tokens, meant⟩ := derived (before ++ ['c', 'o', 'n', 's', 't'] ++ [' '])
  have isConst : word.text = "const" := spelled.trans (by decide)
  refine ⟨.declaration word isWord d, by rw [placed, ← tokens]; rfl, ?_⟩
  rw [← isConst]
  exact congrArg (fun bound : String × Expr => Expr.declare word.text bound.1 bound.2) meant

theorem Spells.enclosed {room : Nat} (spells : (statement (.group room)).Spells named text expr) :
    (Phrases.group (room + 1)).Spells false ('(' :: (text ++ [')'])) expr := by
  obtain ⟨stretch, -, derived⟩ := spells
  refine ⟨stretch.parenthesised, nofun, fun before => ?_⟩
  obtain ⟨opening, closing, isOpening, isClosing, placed⟩ := stretch.tokens_parenthesised before
  obtain ⟨d, tokens, meant⟩ := derived (before ++ ['('])
  exact ⟨⟨opening, isOpening, d, closing, isClosing⟩, by rw [placed, ← tokens]; rfl, meant⟩

def ranked (group : Phrases Expr) : Nat → Phrases Expr
  | 0 => statement group
  | 1 => additive group
  | 2 => multiplicative group
  | _ => primary group

private theorem Spells.asRanked (spells : (primary group).Spells named text expr) {least : Nat}
    (asked : 0 < least) : (ranked group least).Spells named text expr := by
  match least with
  | 1 => exact spells.asChain.asChain
  | 2 => exact spells.asChain
  | _ + 3 => exact spells

theorem Spells.lower {least rank : Nat} (asked : 0 < least) (enough : least ≤ rank)
    (spells : (ranked group rank).Spells named text expr) :
    (ranked group least).Spells named text expr := by
  induction enough with
  | refl => exact spells
  | @step rank enough ih =>
    apply ih
    match rank with
    | 0 => exact absurd asked (Nat.not_lt_of_le enough)
    | 1 => exact spells.asChain
    | 2 => exact spells.asChain
    | _ + 3 => exact spells

private theorem ranked_rank (group : Phrases Expr) (op : Operator) :
    ∃ level, level op = true ∧ ranked group op.rank = (ranked group (op.rank + 1)).chain level := by
  cases op
  case add | sub => exact ⟨Operator.isAdditive, rfl, rfl⟩
  case mul | div => exact ⟨Operator.isMultiplicative, rfl, rfl⟩

end Phrases

open Phrases
open Lexing (Stretch Piece isBlank placed)

/-- The text of the tree spells it as a statement, if it may be one, and in every place
that asks for no more than its rank. -/
def Expr.Readable (expr : Expr) : Prop :=
  ∀ room, expr.depth ≤ room →
    (expr.startsWithName = false → ∃ named, (statement (.group room)).Spells named expr.text expr) ∧
    ∀ least, 0 < least → least ≤ expr.rank →
      (ranked (.group room) least).Spells expr.startsWithName expr.text expr

namespace Expr.Readable

variable {expr left right : Expr}

theorem of_rank (some : 0 < expr.rank)
    (spells : ∀ room, expr.depth ≤ room →
      (ranked (.group room) expr.rank).Spells expr.startsWithName expr.text expr) : expr.Readable := by
  intro room inside
  refine ⟨fun free => ⟨false, ?_⟩, fun least asked enough => (spells room inside).lower asked enough⟩
  have plain := (spells room inside).lower Nat.one_pos some
  rw [free] at plain
  exact plain.plain

/-- A tree that fits a place is read there, in parentheses if need be. -/
theorem enclosed (readable : expr.Readable) {least room : Nat} (asked : 0 < least) (fits : expr.Fits least)
    (inside : expr.around least expr.depth ≤ room) :
    (ranked (.group room) least).Spells (least ≤ expr.rank && expr.startsWithName)
      (expr.enclose least expr.text) expr := by
  unfold around at inside
  unfold enclose
  split
  · next lower =>
    rw [if_pos lower] at inside
    obtain ⟨room, rfl⟩ : ∃ less, room = less + 1 := ⟨room - 1, by omega⟩
    obtain ⟨named, spells⟩ := (readable room (Nat.le_of_succ_le_succ inside)).1 (fits lower)
    rw [fits lower, Bool.and_false]
    exact spells.enclosed.asOperand.asRanked asked
  · next enough =>
    rw [if_neg enough] at inside
    rw [decide_eq_true (Nat.le_of_not_lt enough), Bool.true_and]
    exact (readable room inside).2 least asked (Nat.le_of_not_lt enough)

theorem bound {name : String} (isName : IsName name) (readable : expr.Readable) {room : Nat}
    (inside : expr.around 1 expr.depth ≤ room) :
    (binding (.group room)).Spells true (name.toList ++ ' ' :: '=' :: ' ' :: expr.enclose 1 expr.text)
      (name, expr) :=
  Spells.bound isName (readable.enclosed Nat.one_pos expr.fits_one inside)

end Expr.Readable

theorem Expr.Formed.readable {expr : Expr} (formed : expr.Formed) : expr.Readable := by
  induction expr with
  | number x => exact .of_rank (Nat.succ_pos 2) fun _ _ => spells_number formed
  | reference name => exact .of_rank (Nat.succ_pos 2) fun _ _ => spells_name formed
  | assign name init ih =>
    intro room inside
    refine ⟨fun _ => ⟨true, ((ih formed.2).bound formed.1 inside).assigned⟩, fun least asked enough => ?_⟩
    exact absurd asked (Nat.not_lt_of_le enough)
  | announce => exact formed.elim
  | declare keyword name init ih =>
    obtain ⟨rfl, isName, inner⟩ := formed
    intro room inside
    refine ⟨fun _ => ⟨false, ((ih inner).bound isName inside).declared⟩, fun least asked enough => ?_⟩
    exact absurd asked (Nat.not_lt_of_le enough)
  | binary left op right ihLeft ihRight =>
    obtain ⟨fitsLeft, formedLeft, fitsRight, formedRight⟩ := formed
    refine .of_rank op.rank_pos fun room inside => ?_
    obtain ⟨insideLeft, insideRight⟩ := Nat.max_le.mp inside
    have front := (ihLeft formedLeft).enclosed op.rank_pos fitsLeft insideLeft
    have back := (ihRight formedRight).enclosed (Nat.succ_pos _) fitsRight insideRight
    obtain ⟨level, isLevel, chains⟩ := ranked_rank (.group room) op
    rw [chains] at front
    change (ranked (.group room) op.rank).Spells _ _ _
    rw [chains]
    exact front.link isLevel back

def Phrases.statements (group : Phrases Expr) : Phrases (List Expr) where
  Derivation := List (statement group).Derivation
  tokens ds := ds.flatMap (statement group).tokens
  meaning ds := ds.map (statement group).meaning

private theorem spells_lines (group : Phrases Expr) (expr : Expr) (exprs : List Expr)
    (spells : ∀ one ∈ expr :: exprs, ∃ named, (statement group).Spells named one.text one) :
    ∃ named, (Phrases.statements group).Spells named
      (['\n'].intercalate ((expr :: exprs).map Expr.text)) (expr :: exprs) := by
  induction exprs generalizing expr with
  | nil =>
    obtain ⟨named, alone⟩ := spells expr (List.mem_singleton_self expr)
    rw [List.map_singleton, List.intercalate_singleton]
    exact ⟨named, alone.map ([·]) fun d => ⟨[d], List.append_nil _, rfl⟩⟩
  | cons next exprs ih =>
    obtain ⟨⟨named, front, first, derived⟩, others⟩ := List.forall_mem_cons.mp spells
    obtain ⟨-, back, -, derived'⟩ := ih next others
    have blank : isBlank '\n' = true := rfl
    rw [List.map_cons, List.map_cons, List.intercalate_cons_cons, List.append_assoc, List.singleton_append]
    refine ⟨named, front.spaced blank back, first, fun before => ?_⟩
    obtain ⟨d, tokens, meant⟩ := derived before
    obtain ⟨ds, tokens', meant'⟩ := derived' (before ++ expr.text ++ ['\n'])
    exact ⟨d :: ds, by rw [Stretch.tokens_spaced, ← tokens, ← tokens']; rfl, congrArg₂ List.cons meant meant'⟩

theorem parseStrict_of_spells {source : String} {exprs : List Expr} {named : Bool}
    (spells : (Phrases.statements (.group Grammar.maxDepth)).Spells named source.toList exprs) :
    Source.parseStrict source = .ok ⟨exprs⟩ := by
  obtain ⟨stretch, -, derived⟩ := spells
  obtain ⟨ds, tokens, meant⟩ := derived []
  let whole : Derivation Grammar.maxDepth (stretch.tokens []) ⟨exprs⟩ := ⟨ds, tokens, meant⟩
  have known : ∀ piece ∈ stretch.segmentation.pieces, piece.kind ≠ .endOfInput := by
    intro piece member
    obtain ⟨front, back, pieces⟩ := List.append_of_mem member
    exact whole.inside (Lexing.mem_placed_iff.mpr ⟨front, piece, back, pieces, rfl⟩)
  have all := beforeEnd_append ⟨[⟨.endOfInput, "", .behind source.toList []⟩], 0⟩
    (fun _ member => whole.inside member) rfl
  refine parseStrict_eq_ok_iff.mpr ⟨_, (tryTokenize_eq_ok stretch.segmentation _).mpr ⟨known, rfl⟩, ?_⟩
  exact ⟨all ▸ whole⟩

theorem Program.Formed.parseStrict_print {program : Program} (formed : program.Formed)
    (inside : ∀ expr ∈ program.body, expr.depth ≤ Grammar.maxDepth) :
    Source.parseStrict program.print = .ok program := by
  obtain ⟨body⟩ := program
  cases body with
  | nil => decide +kernel
  | cons expr exprs =>
    obtain ⟨named, spells⟩ := spells_lines (.group Grammar.maxDepth) expr exprs fun one member =>
      ((formed one member).1.readable _ (inside one member)).1 (formed one member).2
    rw [← text, ← String.toList_ofList (l := text _)] at spells
    exact parseStrict_of_spells spells

/-- Printing undoes reading, and the programs that are read are those that can be printed:
what is read is formed, and what is formed and opens no more parentheses than may be open
is read from its text. -/
theorem parseStrict_print_formed :
    (∀ source program, Source.parseStrict source = .ok program →
      program.Formed ∧ Source.parseStrict program.print = .ok program) ∧
    ∀ program : Program, program.Formed → nesting 0 program.print.toList ≤ Grammar.maxDepth →
      Source.parseStrict program.print = .ok program := by
  constructor
  · intro source program parsed
    have stated := stated_of_parseStrict parsed
    have formed : program.Formed :=
      fun expr member => ⟨(stated expr member).formed, (stated expr member).free⟩
    exact ⟨formed, formed.parseStrict_print fun expr member => (stated expr member).inside⟩
  · intro program formed inside
    exact formed.parseStrict_print ((program.nesting_print_le_iff formed _).mp inside)

def scaledDifference : Program :=
  ⟨[.declare "const" "x" (.binary (.number (.nearest false 2 1)) .mul
    (.binary (.number (.nearest false 30 1)) .sub (.reference "y")))]⟩

/-- Of the parentheses around the number, the difference and the product one pair is left. -/
theorem parseStrict_print_scaledDifference :
    Source.parseStrict "const x=((2)*(30 -y))" = .ok scaledDifference ∧ scaledDifference.Formed ∧
      scaledDifference.print = "const x = 2 * (30 - y)" ∧
      Source.parseStrict scaledDifference.print = .ok scaledDifference := by
  have parsed : Source.parseStrict "const x=((2)*(30 -y))" = .ok scaledDifference := by decide +kernel
  have formed := (parseStrict_print_formed.1 _ _ parsed).1
  exact ⟨parsed, formed, by decide +kernel, parseStrict_print_formed.2 _ formed (by decide +kernel)⟩

end Formula
