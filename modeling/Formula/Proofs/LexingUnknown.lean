import Formula.Proofs.LexingSegmentation
import Mathlib.Data.List.Find

/-! Unknown characters in a text and in its tokens. A character is unknown by itself,
whatever stands around it; in the tokens it is an end of the input that has a text. The
first of them is where the strict policy stops, with its character and its place. -/

namespace Formula

/-- The token of an unknown character. The end of the whole text has no text of its own. -/
def Token.isUnknown (token : Token) : Bool := token.kind = .endOfInput && token.text ≠ ""

def Source.firstUnknown? (source : String) : Option Token :=
  (Source.tokenize source).find? Token.isUnknown

namespace Lexing

/-- A character that is no blank and no part of a number, a name or a sign. -/
def IsUnknown (ch : Char) : Prop :=
  isBlank ch = false ∧ ch.isDigit = false ∧ isLetter ch = false ∧
    ch ∉ ['=', ';', '(', ')', '+', '-', '*', '/']

instance (ch : Char) : Decidable (IsUnknown ch) :=
  inferInstanceAs (Decidable (_ ∧ _ ∧ _ ∧ _))

theorem IsLexeme.exists_unknown_iff {kind : Kind} {run : List Char} (lexeme : IsLexeme kind run) :
    (∃ ch ∈ run, IsUnknown ch) ↔ kind = .endOfInput := by
  have ofLetters {letters : List Char} (all : letters.all isLetter = true) :
      ¬ ∃ ch ∈ letters, IsUnknown ch := by
    rintro ⟨ch, inside, unknown⟩
    have letter := List.all_eq_true.mp all ch inside
    simp [unknown.2.2.1] at letter
  have ofSign {sign : Char} (inside : sign ∈ ['=', ';', '(', ')', '+', '-', '*', '/']) :
      ¬ ∃ ch ∈ [sign], IsUnknown ch := by
    rintro ⟨ch, member, unknown⟩
    obtain rfl := List.mem_singleton.mp member
    exact unknown.2.2.2 inside
  cases lexeme with
  | number filled digits =>
    simp only [reduceCtorEq, iff_false]
    rintro ⟨ch, inside, unknown⟩
    have digit := List.all_eq_true.mp digits ch inside
    simp [unknown.2.1] at digit
  | keyword => exact iff_of_false (ofLetters rfl) nofun
  | name filled letters other => exact iff_of_false (ofLetters letters) nofun
  | equals | semicolon | openParen | closeParen => exact iff_of_false (ofSign (by simp)) nofun
  | operator sign =>
    refine iff_of_false (ofSign ?_) nofun
    rcases mem_operators.mp sign with rfl | rfl | rfl | rfl
    all_goals simp
  | unknown noBlank noDigit noLetter noSign =>
    exact iff_of_true ⟨_, List.mem_singleton_self _, noBlank, noDigit, noLetter, noSign⟩ rfl

private theorem IsLexeme.eq_singleton {run : List Char} (lexeme : IsLexeme .endOfInput run) :
    ∃ ch, run = [ch] := by
  cases lexeme
  exact ⟨_, rfl⟩

theorem not_unknown_of_blank {gap : List Char} (blank : gap.all isBlank = true) :
    ¬ ∃ ch ∈ gap, IsUnknown ch := by
  rintro ⟨ch, inside, unknown⟩
  have space := List.all_eq_true.mp blank ch inside
  simp [unknown.1] at space

/-- Gaps hold no unknown character, so a cut shows all there are in its pieces. -/
theorem Segmentation.exists_unknown_iff {text : List Char} (cut : Segmentation text) :
    (∃ ch ∈ text, IsUnknown ch) ↔ ∃ piece ∈ cut.pieces, piece.kind = .endOfInput := by
  constructor
  · rintro ⟨ch, inside, unknown⟩
    rw [← cut.whole] at inside
    rcases List.mem_append.mp inside with inside | inside
    · obtain ⟨piece, member, inside⟩ := List.mem_flatMap.mp inside
      refine ⟨piece, member, piece.lexeme.exists_unknown_iff.mp ?_⟩
      rcases List.mem_append.mp inside with inside | inside
      · exact absurd ⟨ch, inside, unknown⟩ (not_unknown_of_blank piece.blank)
      · exact ⟨ch, inside, unknown⟩
    · exact absurd ⟨ch, inside, unknown⟩ (not_unknown_of_blank cut.blank)
  · rintro ⟨piece, member, isEnd⟩
    obtain ⟨ch, inside, unknown⟩ := piece.lexeme.exists_unknown_iff.mpr isEnd
    refine ⟨ch, ?_, unknown⟩
    rw [← cut.whole]
    exact List.mem_append_left _ (List.mem_flatMap_of_mem member (List.mem_append_right _ inside))

private theorem Piece.isUnknown_token (piece : Piece) (before : List Char) :
    (piece.token before).isUnknown = decide (piece.kind = .endOfInput) := by
  obtain ⟨first, more, spelled, -⟩ := piece.lexeme.first
  have filled : String.ofList piece.run ≠ "" := by
    rw [spelled, ne_eq, ← String.toList_inj]
    simp
  have text : decide ((piece.token before).text ≠ "") = true := decide_eq_true filled
  rw [Token.isUnknown, text, Bool.and_true]
  rfl

theorem find?_isUnknown {text : List Char} (cut : Segmentation text) :
    cut.tokens.find? Token.isUnknown = (placed [] cut.pieces).find? (·.kind = .endOfInput) := by
  have last : ([⟨.endOfInput, "", .behind text []⟩] : List Token).find? Token.isUnknown = none := rfl
  rw [Segmentation.tokens, List.find?_append, last, Option.or_none]
  apply List.find?_congr
  intro token inside
  obtain ⟨front, piece, back, -, rfl⟩ := mem_placed_iff.mp inside
  exact piece.isUnknown_token _

end Lexing

open Lexing

/-- The strict policy keeps the tokens of the other one, or stops at the first token
that is made of an unknown character. -/
theorem tryTokenize_eq_firstUnknown (source : String) :
    Source.tryTokenize source =
      match Source.firstUnknown? source with
      | none => .ok (Source.tokenize source)
      | some stop => .error ⟨stop.text.toList.headD ' ', stop.span⟩ := by
  obtain ⟨cut⟩ := exists_segmentation source.toList
  have strict := tryTokenize_eq cut
  rw [Source.firstUnknown?, tokenize_eq cut, find?_isUnknown cut]
  exact strict

theorem parse_of_parseStrict {source : String} {outcome : Except ParseError Program}
    (read : Source.parseStrict source = outcome.mapError .parse) : Source.parse source = outcome := by
  have strict := tryTokenize_eq_firstUnknown source
  unfold Source.parseStrict at read
  cases known : Source.firstUnknown? source with
  | none =>
    simp only [strict, known] at read
    unfold Source.parse
    cases parsed : parseTokens (Source.tokenize source) <;> cases outcome <;>
      simp_all [Except.mapError]
  | some stop =>
    simp only [strict, known] at read
    cases outcome <;> simp [Except.mapError] at read

private theorem text_firstUnknown {source : String} {stop : Token}
    (found : Source.firstUnknown? source = some stop) : ∃ ch, stop.text = String.singleton ch := by
  obtain ⟨cut⟩ := exists_segmentation source.toList
  rw [Source.firstUnknown?, tokenize_eq cut, find?_isUnknown cut] at found
  have ended := List.find?_some found
  obtain ⟨front, piece, back, -, rfl⟩ := mem_placed_iff.mp (List.mem_of_find?_eq_some found)
  have isEnd : piece.kind = .endOfInput := of_decide_eq_true ended
  obtain ⟨ch, run⟩ := (isEnd ▸ piece.lexeme).eq_singleton
  exact ⟨ch, by rw [Piece.token, run, String.singleton_eq_ofList]⟩

theorem isSome_firstUnknown_iff (source : String) :
    (Source.firstUnknown? source).isSome ↔ ∃ ch ∈ source.toList, IsUnknown ch := by
  obtain ⟨cut⟩ := exists_segmentation source.toList
  rw [Source.firstUnknown?, tokenize_eq cut, find?_isUnknown cut, cut.exists_unknown_iff,
    List.find?_isSome]
  constructor
  · rintro ⟨token, inside, isEnd⟩
    obtain ⟨front, piece, back, pieces, rfl⟩ := mem_placed_iff.mp inside
    exact ⟨piece, by simp [pieces], of_decide_eq_true isEnd⟩
  · rintro ⟨piece, member, isEnd⟩
    obtain ⟨front, back, pieces⟩ := List.append_of_mem member
    exact ⟨_, mem_placed_iff.mpr ⟨front, piece, back, pieces, rfl⟩, decide_eq_true isEnd⟩

/-- Both policies agree on a text without unknown characters. On any other the strict one
fails at the first of them, whatever can be read in front of it. -/
theorem strict_agrees_until_unknown (source : String) :
    (Source.firstUnknown? source = none →
      Source.tryTokenize source = .ok (Source.tokenize source) ∧
        Source.parseStrict source = (Source.parse source).mapError .parse) ∧
    (∀ stop, Source.firstUnknown? source = some stop → ∃ ch, stop.text = String.singleton ch ∧
      Source.tryTokenize source = .error ⟨ch, stop.span⟩ ∧
        Source.parseStrict source = .error (.lex ⟨ch, stop.span⟩)) ∧
    (∀ program, Source.parseStrict source = .ok program → Source.parse source = .ok program) ∧
    ((Source.firstUnknown? source).isSome ↔ ∃ ch ∈ source.toList, IsUnknown ch) := by
  have strict := tryTokenize_eq_firstUnknown source
  have agrees (known : Source.firstUnknown? source = none) :
      Source.tryTokenize source = .ok (Source.tokenize source) ∧
        Source.parseStrict source = (Source.parse source).mapError .parse := by
    rw [known] at strict
    exact ⟨strict, by rw [Source.parseStrict, strict, Source.parse]⟩
  have stops (stop : Token) (found : Source.firstUnknown? source = some stop) :
      ∃ ch, stop.text = String.singleton ch ∧ Source.tryTokenize source = .error ⟨ch, stop.span⟩ ∧
        Source.parseStrict source = .error (.lex ⟨ch, stop.span⟩) := by
    obtain ⟨ch, text⟩ := text_firstUnknown found
    have stopped : Source.tryTokenize source = .error ⟨ch, stop.span⟩ := by simp [strict, found, text]
    exact ⟨ch, text, stopped, by rw [Source.parseStrict, stopped]⟩
  refine ⟨agrees, stops, fun program parsed => ?_, isSome_firstUnknown_iff source⟩
  cases found : Source.firstUnknown? source with
  | none =>
    rw [(agrees found).2] at parsed
    cases read : Source.parse source with
    | ok other => rw [read] at parsed; cases parsed; rfl
    | error error => rw [read] at parsed; cases parsed
  | some stop =>
    obtain ⟨ch, -, -, failed⟩ := stops stop found
    rw [failed] at parsed
    cases parsed

/-- The strict policy does not come to see that an operand is missing. -/
theorem strict_stops_at_dollar :
    Source.firstUnknown? "x = 1 + * $ 2" = some ⟨.endOfInput, "$", ⟨10, 11, 1⟩⟩ ∧
      Source.firstUnknown? "x = 1" = none ∧
      (∃ ch, "$" = String.singleton ch ∧
        Source.tryTokenize "x = 1 + * $ 2" = .error ⟨ch, ⟨10, 11, 1⟩⟩ ∧
        Source.parseStrict "x = 1 + * $ 2" = .error (.lex ⟨ch, ⟨10, 11, 1⟩⟩)) ∧
      Source.parseStrict "x = 1" = (Source.parse "x = 1").mapError .parse := by
  have found : Source.firstUnknown? "x = 1 + * $ 2" = some ⟨.endOfInput, "$", ⟨10, 11, 1⟩⟩ := by
    decide +kernel
  have known : Source.firstUnknown? "x = 1" = none := by decide +kernel
  exact ⟨found, known, (strict_agrees_until_unknown "x = 1 + * $ 2").2.1 _ found,
    ((strict_agrees_until_unknown "x = 1").1 known).2⟩

end Formula
