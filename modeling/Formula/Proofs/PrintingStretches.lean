import Formula.Proofs.LexingSegmentation
import Formula.Proofs.GrammarPrograms

/-! Texts that are cut into the tokens of a phrase, wherever they stand. Putting such
texts together with a blank between them, or parentheses around, puts the phrases
together, and no run of one ever goes on into the next. -/

namespace Formula
namespace Lexing

def Piece.indent {ch : Char} (blank : isBlank ch = true) (piece : Piece) : Piece where
  gap := ch :: piece.gap
  blank := by rw [List.all_cons, blank, piece.blank, Bool.and_self]
  kind := piece.kind
  run := piece.run
  lexeme := piece.lexeme

/-- A cut of a stretch of text that has a lexeme at its end. -/
structure Stretch (text : List Char) where
  first : Piece
  more : List Piece
  apart : Apart (first :: more)
  whole : (first :: more).flatMap Piece.text = text

namespace Stretch

variable {text text' : List Char}

def tokens (stretch : Stretch text) (before : List Char) : List Token :=
  placed before (stretch.first :: stretch.more)

def single {kind : Kind} {run : List Char} (lexeme : IsLexeme kind run) : Stretch run where
  first := ⟨[], rfl, kind, run, lexeme⟩
  more := []
  apart := .singleton _
  whole := by simp [Piece.text]

def spaced {ch : Char} (blank : isBlank ch = true) (front : Stretch text) (back : Stretch text') :
    Stretch (text ++ ch :: text') where
  first := front.first
  more := front.more ++ back.first.indent blank :: back.more
  apart := by
    have indented : Apart (back.first.indent blank :: back.more) :=
      List.isChain_cons.mpr (List.isChain_cons.mp back.apart)
    exact List.isChain_append.mpr ⟨front.apart, indented, fun _ _ _ first => by
      obtain rfl := Option.some.inj first
      nofun⟩
  whole := by
    obtain ⟨first, more, -, rfl⟩ := front
    obtain ⟨first', more', -, rfl⟩ := back
    simp [Piece.text, Piece.indent]

def parenthesised (stretch : Stretch text) : Stretch ('(' :: (text ++ [')'])) where
  first := ⟨[], rfl, .openParen, ['('], .openParen⟩
  more := stretch.first :: stretch.more ++ [⟨[], rfl, .closeParen, [')'], .closeParen⟩]
  apart := by
    refine List.isChain_cons.mpr ⟨fun _ _ _ => rfl, ?_⟩
    refine List.isChain_append.mpr ⟨stretch.apart, .singleton _, fun _ _ _ last _ => ?_⟩
    obtain rfl := Option.some.inj last
    simp [merge, isLetter]
  whole := by
    obtain ⟨first, more, -, rfl⟩ := stretch
    simp [Piece.text]

theorem tokens_spaced {ch : Char} (blank : isBlank ch = true) (front : Stretch text) (back : Stretch text')
    (before : List Char) :
    (front.spaced blank back).tokens before =
      front.tokens before ++ back.tokens (before ++ text ++ [ch]) := by
  have whole := front.whole
  have spread := placed_append before (front.first :: front.more) (back.first.indent blank :: back.more)
  rw [whole] at spread
  refine spread.trans (congrArg _ ?_)
  simp [tokens, placed, Piece.indent, Piece.token, Piece.text]

theorem tokens_single_spaced {kind : Kind} {run : List Char} {ch : Char} (lexeme : IsLexeme kind run)
    (blank : isBlank ch = true) (back : Stretch text) (before : List Char) :
    ∃ token, token.kind = kind ∧ token.text = String.ofList run ∧
      ((single lexeme).spaced blank back).tokens before = token :: back.tokens (before ++ run ++ [ch]) :=
  ⟨_, rfl, rfl, tokens_spaced blank (single lexeme) back before⟩

theorem tokens_parenthesised (stretch : Stretch text) (before : List Char) :
    ∃ opening closing, opening.kind = .openParen ∧ closing.kind = .closeParen ∧
      stretch.parenthesised.tokens before = opening :: (stretch.tokens (before ++ ['(']) ++ [closing]) := by
  have spread := placed_append (before ++ ['(']) (stretch.first :: stretch.more)
    [⟨[], rfl, .closeParen, [')'], .closeParen⟩]
  exact ⟨_, _, rfl, rfl, congrArg (_ :: ·) spread⟩

def segmentation (stretch : Stretch text) : Segmentation text where
  pieces := stretch.first :: stretch.more
  last := []
  blank := rfl
  apart := stretch.apart
  whole := by rw [List.append_nil, stretch.whole]

end Stretch
end Lexing
end Formula
