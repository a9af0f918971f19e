import Formula.Proofs.LexingConcatenation

/-! Texts made from lexemes. Whatever blanks are written around the lexemes, as long as
none are missing where two runs would become one, cutting the text gives the lexemes
back. So the tokens of any text say enough to write a text that has the same tokens. -/

namespace Formula

def Token.spelling (token : Token) : Kind × String := (token.kind, token.text)

namespace Lexing

def Piece.spelling (piece : Piece) : Kind × String := (piece.kind, String.ofList piece.run)

/-- Digits, letters, or one character that is no blank. -/
def Spellable (run : List Char) : Prop :=
  run ≠ [] ∧ run.all Char.isDigit = true ∨ run ≠ [] ∧ run.all isLetter = true ∨
    ∃ ch, run = [ch] ∧ isBlank ch = false

theorem IsLexeme.spellable {kind : Kind} {run : List Char} (lexeme : IsLexeme kind run) : Spellable run := by
  cases lexeme with
  | number filled digits => exact .inl ⟨filled, digits⟩
  | keyword => exact .inr (.inl ⟨List.cons_ne_nil _ _, rfl⟩)
  | name filled letters other => exact .inr (.inl ⟨filled, letters⟩)
  | equals | semicolon | openParen | closeParen => exact .inr (.inr ⟨_, rfl, rfl⟩)
  | operator sign =>
    refine .inr (.inr ⟨_, rfl, ?_⟩)
    rcases mem_operators.mp sign with rfl | rfl | rfl | rfl <;> rfl
  | unknown noBlank noDigit noLetter noSign => exact .inr (.inr ⟨_, rfl, noBlank⟩)

private theorem exists_kind {run : List Char} (spellable : Spellable run) : ∃ kind, IsLexeme kind run := by
  rcases spellable with ⟨filled, digits⟩ | ⟨filled, letters⟩ | ⟨ch, rfl, noBlank⟩
  · exact ⟨_, .number filled digits⟩
  · by_cases word : run = ['c', 'o', 'n', 's', 't']
    · exact ⟨.const, word ▸ IsLexeme.keyword⟩
    · exact ⟨_, .name filled letters word⟩
  · obtain ⟨kind, run, rest, spelled, lexeme, -⟩ := exists_lexeme [] noBlank
    obtain ⟨first, more, rfl, -⟩ := lexeme.first
    simp only [List.cons_append, List.cons.injEq, List.nil_eq, List.append_eq_nil_iff] at spelled
    obtain ⟨rfl, rfl, -⟩ := spelled
    exact ⟨kind, lexeme⟩

theorem map_spelling_placed (before : List Char) (pieces : List Piece) :
    (placed before pieces).map Token.spelling = pieces.map Piece.spelling := by
  induction pieces generalizing before with
  | nil => rfl
  | cons piece pieces ih =>
    rw [placed, List.map_cons, List.map_cons, ih]
    rfl

private theorem map_text_placed (before : List Char) (pieces : List Piece) :
    (placed before pieces).map Token.text = pieces.map fun piece => String.ofList piece.run := by
  have texts := congrArg (List.map Prod.snd) (map_spelling_placed before pieces)
  simpa [List.map_map, Function.comp_def, Token.spelling, Piece.spelling] using texts

theorem Segmentation.map_spelling_tokens {text : List Char} (cut : Segmentation text) :
    cut.tokens.map Token.spelling = cut.pieces.map Piece.spelling ++ [(.endOfInput, "")] := by
  rw [Segmentation.tokens, List.map_append, map_spelling_placed]
  rfl

private theorem apart_nil : Apart [] := .nil

def Piece.behind {gap : List Char} (blank : gap.all isBlank = true) (piece : Piece) : Piece :=
  { piece with gap, blank }

section Spaced

variable {gap : List Char} (blank : gap.all isBlank = true)

private theorem apart_behind (filled : gap ≠ []) (piece : Piece) (pieces : List Piece) :
    Apart (piece :: pieces.map (Piece.behind blank)) := by
  induction pieces generalizing piece with
  | nil => exact .singleton _
  | cons next pieces ih =>
    rw [List.map_cons]
    exact List.isChain_cons_cons.mpr ⟨fun empty => absurd empty filled, ih _⟩

private theorem text_behind (piece : Piece) (pieces : List Piece) :
    gap.intercalate ((piece :: pieces).map Piece.run ++ [[]]) =
      piece.run ++ (pieces.map (Piece.behind blank)).flatMap Piece.text ++ gap := by
  induction pieces generalizing piece with
  | nil => simp
  | cons next pieces ih =>
    have further := ih next
    simp only [List.map_cons, List.cons_append] at further ⊢
    rw [List.intercalate_cons_cons, further]
    simp [Piece.text, Piece.behind]

/-- The lexemes with the gap between any two of them, and behind the last. -/
def spaced (filled : gap ≠ []) (pieces : List Piece) :
    Segmentation (gap.intercalate (pieces.map Piece.run ++ [[]])) :=
  match pieces with
  | [] => ⟨[], [], List.all_nil, apart_nil, rfl⟩
  | piece :: pieces =>
    { pieces := piece.behind List.all_nil :: pieces.map (Piece.behind blank)
      last := gap
      blank
      apart := apart_behind blank filled _ pieces
      whole := by
        rw [text_behind blank, List.flatMap_cons]
        simp [Piece.text, Piece.behind] }

private theorem spelling_spaced (filled : gap ≠ []) (pieces : List Piece) :
    (spaced blank filled pieces).pieces.map Piece.spelling = pieces.map Piece.spelling := by
  cases pieces with
  | nil => rfl
  | cons piece pieces => simp [spaced, Piece.spelling, Piece.behind, Function.comp_def]

end Spaced

end Lexing

open Lexing

private theorem spelling_tokenize_intercalate {gap : String} (blank : gap.toList.all isBlank = true)
    (filled : gap ≠ "")
    (source : String) :
    (Source.tokenize (gap.intercalate ((Source.tokenize source).map Token.text))).map Token.spelling =
      (Source.tokenize source).map Token.spelling := by
  obtain ⟨cut⟩ := exists_segmentation source.toList
  have filled : gap.toList ≠ [] := by simpa using filled
  have text : (gap.intercalate ((Source.tokenize source).map Token.text)).toList =
      gap.toList.intercalate (cut.pieces.map Piece.run ++ [[]]) := by
    rw [String.toList_intercalate, tokenize_eq cut, Segmentation.tokens, List.map_append, map_text_placed]
    simp [Function.comp_def]
  rw [tokenize_of_toList text (spaced blank filled cut.pieces), Segmentation.map_spelling_tokens,
    spelling_spaced, tokenize_eq cut, Segmentation.map_spelling_tokens]

/-- Cutting undoes rendering: the lexemes come back in order, each with its text and kind,
and the end behind them. What can be a lexeme is any run of digits, any run of letters and
any other character alone. So tokens written one blank apart are read as the same tokens. -/
theorem tokenize_rendering :
    (∀ run, (∃ kind, IsLexeme kind run) ↔ Spellable run) ∧
    (∀ pieces last, Apart pieces → last.all isBlank = true →
      (Source.tokenize (String.ofList (pieces.flatMap Piece.text ++ last))).map Token.spelling =
        pieces.map Piece.spelling ++ [(.endOfInput, "")]) ∧
    ∀ source,
      (Source.tokenize (" ".intercalate ((Source.tokenize source).map Token.text))).map Token.spelling =
        (Source.tokenize source).map Token.spelling := by
  refine ⟨fun run => ⟨fun ⟨_, lexeme⟩ => lexeme.spellable, exists_kind⟩, fun pieces last apart blank => ?_, ?_⟩
  · let cut : Segmentation (pieces.flatMap Piece.text ++ last) := ⟨pieces, last, blank, apart, rfl⟩
    rw [tokenize_of_toList String.toList_ofList cut, cut.map_spelling_tokens]
  · exact spelling_tokenize_intercalate (by decide) (by decide)

/-- A number and a name with nothing between them, and a carriage return in front of the
next number. -/
def Lexing.returned : List Piece :=
  [⟨[], List.all_nil, .number, ['1', '2'], .number (by decide) (by decide)⟩,
    ⟨[], List.all_nil, .identifier, ['x'], .name (by decide) (by decide) (by decide)⟩,
    ⟨['\t'], rfl, .endOfInput, ['\r'], .unknown (by decide) (by decide) (by decide) (by decide)⟩,
    ⟨[], List.all_nil, .number, ['3'], .number (by decide) (by decide)⟩]

theorem tokenize_returned :
    Apart returned ∧ ['\n'].all isBlank = true ∧
      String.ofList (returned.flatMap Piece.text ++ ['\n']) = "12x\t\r3\n" ∧
      (Source.tokenize (String.ofList (returned.flatMap Piece.text ++ ['\n']))).map Token.spelling =
        [(.number, "12"), (.identifier, "x"), (.endOfInput, "\r"), (.number, "3"), (.endOfInput, "")] := by
  have apart : Apart returned := by
    refine List.isChain_cons_cons.mpr ⟨fun _ => by decide, List.isChain_cons_cons.mpr ⟨nofun, ?_⟩⟩
    exact List.isChain_cons_cons.mpr ⟨fun _ => by decide, .singleton _⟩
  exact ⟨apart, by decide, by decide, tokenize_rendering.2.1 returned ['\n'] apart (by decide)⟩

end Formula
