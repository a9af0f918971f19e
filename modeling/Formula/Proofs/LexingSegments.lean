import Formula.Lexing
import Mathlib.Data.List.Chain

/-! A text as lexemes with gaps between them. Which cuts of a text are allowed is said
without scanning it: every gap is blank, every lexeme is of one of the kinds, and no
two runs stand side by side that would be one. The tokens of a cut carry their place,
counted from the start of the text. -/

namespace Formula

namespace Offset

theorem size_utf8Encode (text : List Char) : text.utf8Encode.size = bytes text := by
  induction text with
  | nil => rfl
  | cons ch text ih =>
    rw [List.utf8Encode_cons, ByteArray.size_append, ih, List.utf8Encode_singleton]
    simp [bytes]

theorem utf8ByteSize_eq_bytes (text : String) : text.utf8ByteSize = bytes text.toList := by
  rw [← size_utf8Encode, ← String.toByteArray_ofList, String.ofList_toList, String.size_toByteArray]

end Offset

namespace Span

def behind (before run : List Char) : Span where
  start := min Offset.greatest (Offset.bytes before)
  stop := min Offset.greatest (Offset.bytes (before ++ run))
  line := 1 + before.count '\n'

theorem start_behind_le (before run : List Char) : (behind before run).start ≤ (behind before run).stop := by
  simp only [behind, Offset.bytes_append]
  omega

/-- In a text whose bytes can all be counted a span cuts out what stands there. -/
theorem extract_behind {before run back : List Char}
    (inside : Offset.bytes (before ++ run ++ back) ≤ Offset.greatest) :
    (before ++ run ++ back).utf8Encode.extract (behind before run).start (behind before run).stop =
      run.utf8Encode := by
  simp only [Offset.bytes_append] at inside
  have start : (behind before run).start = before.utf8Encode.size + 0 := by
    simp only [behind, Offset.size_utf8Encode]
    omega
  have stop : (behind before run).stop = before.utf8Encode.size + run.utf8Encode.size := by
    simp only [behind, Offset.size_utf8Encode, Offset.bytes_append]
    omega
  rw [List.append_assoc, List.utf8Encode_append, List.utf8Encode_append, start, stop,
    ByteArray.extract_append_size_add, ByteArray.extract_append_eq_left rfl]

end Span

namespace Lexing

/-- The runs that are one lexeme. Any character that begins no other lexeme is one of
its own, and has the kind of the end of the input. -/
inductive IsLexeme : Kind → List Char → Prop where
  | number {run : List Char} (filled : run ≠ []) (digits : run.all Char.isDigit = true) :
      IsLexeme .number run
  | keyword : IsLexeme .const ['c', 'o', 'n', 's', 't']
  | name {run : List Char} (filled : run ≠ []) (letters : run.all isLetter = true)
      (other : run ≠ ['c', 'o', 'n', 's', 't']) : IsLexeme .identifier run
  | equals : IsLexeme .equals ['=']
  | semicolon : IsLexeme .semicolon [';']
  | openParen : IsLexeme .openParen ['(']
  | closeParen : IsLexeme .closeParen [')']
  | operator {ch : Char} (sign : ch ∈ ['+', '-', '*', '/']) : IsLexeme .binaryOperator [ch]
  | unknown {ch : Char} (noBlank : isBlank ch = false) (noDigit : ch.isDigit = false)
      (noLetter : isLetter ch = false) (noSign : ch ∉ ['=', ';', '(', ')', '+', '-', '*', '/']) :
      IsLexeme .endOfInput [ch]

def merge (run next : List Char) : Bool :=
  (run.all Char.isDigit && next.all Char.isDigit) || (run.all isLetter && next.all isLetter)

structure Piece where
  gap : List Char
  blank : gap.all isBlank = true
  kind : Kind
  run : List Char
  lexeme : IsLexeme kind run

def Piece.text (piece : Piece) : List Char := piece.gap ++ piece.run

/-- A gap may be empty, but not between two runs that would merge. -/
def Apart (pieces : List Piece) : Prop :=
  pieces.IsChain fun piece next => next.gap = [] → merge piece.run next.run = false

/-- A cut of a text into pieces and the gap behind the last of them. -/
structure Segmentation (text : List Char) where
  pieces : List Piece
  last : List Char
  blank : last.all isBlank = true
  apart : Apart pieces
  whole : pieces.flatMap Piece.text ++ last = text

def Piece.token (before : List Char) (piece : Piece) : Token :=
  ⟨piece.kind, String.ofList piece.run, .behind (before ++ piece.gap) piece.run⟩

def placed (before : List Char) : List Piece → List Token
  | [] => []
  | piece :: pieces => piece.token before :: placed (before ++ piece.text) pieces

theorem placed_append (before : List Char) (front back : List Piece) :
    placed before (front ++ back) =
      placed before front ++ placed (before ++ front.flatMap Piece.text) back := by
  induction front generalizing before with
  | nil => simp [placed]
  | cons piece front ih => simp [placed, ih]

/-- Of what kinds the tokens are does not depend on where they stand. -/
theorem map_kind_placed (before : List Char) (pieces : List Piece) :
    (placed before pieces).map Token.kind = pieces.map Piece.kind := by
  induction pieces generalizing before with
  | nil => rfl
  | cons piece pieces ih => rw [placed, List.map_cons, List.map_cons, ih, Piece.token]

theorem mem_placed_iff {before : List Char} {pieces : List Piece} {token : Token} :
    token ∈ placed before pieces ↔ ∃ front piece back, pieces = front ++ piece :: back ∧
      token = piece.token (before ++ front.flatMap Piece.text) := by
  constructor
  · intro inside
    induction pieces generalizing before with
    | nil => cases inside
    | cons first pieces ih =>
      rcases List.mem_cons.mp inside with rfl | inside
      · exact ⟨[], first, pieces, rfl, by simp⟩
      · obtain ⟨front, piece, back, rfl, rfl⟩ := ih inside
        exact ⟨first :: front, piece, back, rfl, by simp⟩
  · rintro ⟨front, piece, back, rfl, rfl⟩
    rw [placed_append]
    exact List.mem_append_right _ List.mem_cons_self

/-- One token for every lexeme, and the end of the input behind them all. -/
def Segmentation.tokens {text : List Char} (cut : Segmentation text) : List Token :=
  placed [] cut.pieces ++ [⟨.endOfInput, "", .behind text []⟩]

theorem isLetter_of_isDigit {ch : Char} (digit : ch.isDigit = true) : isLetter ch = false := by
  have bounds : 48 ≤ ch.toNat ∧ ch.toNat ≤ 57 := Char.isDigit_iff_toNat.mp digit
  refine Bool.eq_false_iff.mpr fun letter => ?_
  rcases (Bool.or_eq_true _ _).mp letter with line | alpha
  · obtain rfl : ch = '_' := by simpa using line
    exact absurd digit (by decide)
  rcases (Bool.or_eq_true _ _).mp alpha with upper | lower
  · have least : 65 ≤ ch.toNat := (of_decide_eq_true upper).1
    omega
  · have least : 97 ≤ ch.toNat := of_decide_eq_true ((Bool.and_eq_true _ _).mp lower).1
    omega

theorem isBlank_iff {ch : Char} : isBlank ch = true ↔ ch = ' ' ∨ ch = '\t' ∨ ch = '\x08' ∨ ch = '\n' := by
  simp [isBlank, or_assoc]

theorem isDigit_of_isBlank {ch : Char} (blank : isBlank ch = true) : ch.isDigit = false := by
  rcases isBlank_iff.mp blank with rfl | rfl | rfl | rfl <;> rfl

theorem isLetter_of_isBlank {ch : Char} (blank : isBlank ch = true) : isLetter ch = false := by
  rcases isBlank_iff.mp blank with rfl | rfl | rfl | rfl <;> rfl

theorem mem_operators {ch : Char} :
    ch ∈ ['+', '-', '*', '/'] ↔ ch = '+' ∨ ch = '-' ∨ ch = '*' ∨ ch = '/' := by
  simp

theorem IsLexeme.first {kind : Kind} {run : List Char} (lexeme : IsLexeme kind run) :
    ∃ ch more, run = ch :: more ∧ isBlank ch = false ∧
      (ch.isDigit = true → run.all Char.isDigit = true) ∧ (isLetter ch = true → run.all isLetter = true) := by
  cases lexeme with
  | @number run filled digits =>
    obtain ⟨ch, more, rfl⟩ := List.exists_cons_of_ne_nil filled
    have digit : ch.isDigit = true := by simp_all
    refine ⟨ch, more, rfl, ?_, fun _ => digits, fun letter => ?_⟩
    · exact Bool.eq_false_iff.mpr fun blank => by simp [isDigit_of_isBlank blank] at digit
    · simp [isLetter_of_isDigit digit] at letter
  | keyword => exact ⟨'c', _, rfl, by decide, by decide, by decide⟩
  | @name run filled letters other =>
    obtain ⟨ch, more, rfl⟩ := List.exists_cons_of_ne_nil filled
    have letter : isLetter ch = true := by simp_all
    refine ⟨ch, more, rfl, ?_, fun digit => ?_, fun _ => letters⟩
    · exact Bool.eq_false_iff.mpr fun blank => by simp [isLetter_of_isBlank blank] at letter
    · simp [isLetter_of_isDigit digit] at letter
  | equals | semicolon | openParen | closeParen => exact ⟨_, _, rfl, by decide, by decide, by decide⟩
  | @operator ch sign =>
    rcases mem_operators.mp sign with rfl | rfl | rfl | rfl
    all_goals exact ⟨_, [], rfl, by decide, by decide, by decide⟩
  | @unknown ch noBlank noDigit noLetter noSign =>
    exact ⟨ch, [], rfl, noBlank, by simp [noDigit], by simp [noLetter]⟩

private theorem ofSign?_eq_none {ch : Char} (noSign : ch ∉ ['=', ';', '(', ')', '+', '-', '*', '/']) :
    Kind.ofSign? ch = none := by
  unfold Kind.ofSign?
  split <;> simp_all

theorem IsLexeme.kindOf_eq {kind : Kind} {ch : Char} {more : List Char}
    (lexeme : IsLexeme kind (ch :: more)) :
    kindOf ch (ch :: more) = if kind = .endOfInput then none else some kind := by
  generalize same : ch :: more = run at lexeme ⊢
  cases lexeme with
  | number filled digits =>
    have digit : ch.isDigit = true := by simp_all [← same]
    simp [kindOf, digit]
  | keyword =>
    obtain ⟨rfl, rfl⟩ := List.cons.inj same
    decide
  | name filled letters other =>
    have letter : isLetter ch = true := by simp_all [← same]
    have noDigit : ch.isDigit = false :=
      Bool.eq_false_iff.mpr fun digit => by simp [isLetter_of_isDigit digit] at letter
    have noKeyword : String.ofList run ≠ "const" := fun word => other (by
      rw [← String.toList_ofList (l := run), word]; rfl)
    simp [kindOf, noDigit, letter, Kind.ofWord, Kind.ofKeyword?, noKeyword]
  | equals | semicolon | openParen | closeParen =>
    obtain ⟨rfl, rfl⟩ := List.cons.inj same
    decide
  | operator sign =>
    obtain ⟨rfl, rfl⟩ := List.cons.inj same
    rcases mem_operators.mp sign with rfl | rfl | rfl | rfl <;> rfl
  | unknown noBlank noDigit noLetter noSign =>
    obtain ⟨rfl, rfl⟩ := List.cons.inj same
    simp [kindOf, noDigit, noLetter, ofSign?_eq_none noSign]

theorem IsLexeme.alone {kind : Kind} {ch : Char} {more : List Char} (lexeme : IsLexeme kind (ch :: more))
    (noDigit : ch.isDigit = false) (noLetter : isLetter ch = false) : more = [] := by
  generalize same : ch :: more = run at lexeme
  cases lexeme with
  | number filled digits => simp [← same, noDigit] at digits
  | name filled letters other => simp [← same, noLetter] at letters
  | keyword =>
    obtain ⟨rfl, -⟩ := List.cons.inj same
    exact absurd noLetter (by decide)
  | equals | semicolon | openParen | closeParen | operator | unknown => exact (List.cons.inj same).2

theorem IsLexeme.kind_unique {kind kind' : Kind} {run : List Char} (lexeme : IsLexeme kind run)
    (lexeme' : IsLexeme kind' run) : kind = kind' := by
  obtain ⟨ch, more, rfl, -⟩ := lexeme.first
  have same := lexeme.kindOf_eq.symm.trans lexeme'.kindOf_eq
  split at same <;> split at same <;> simp_all

/-- The run stops before the text: its next character would not carry it on. -/
def Ends (run rest : List Char) : Prop :=
  ∀ ch ∈ rest.head?, (run.all Char.isDigit = true → ch.isDigit = false) ∧
    (run.all isLetter = true → isLetter ch = false)

theorem ends_of_isBlank {run gap rest : List Char} (blank : gap.all isBlank = true)
    (stop : gap = [] → Ends run rest) : Ends run (gap ++ rest) := by
  cases gap with
  | nil => exact stop rfl
  | cons space gap =>
    intro ch first
    obtain rfl : space = ch := by simpa using first
    have isSpace : isBlank space = true := by simp_all
    exact ⟨fun _ => isDigit_of_isBlank isSpace, fun _ => isLetter_of_isBlank isSpace⟩

/-- Every run of a cut is as long as it can be. -/
theorem Apart.ends {piece : Piece} {pieces : List Piece} {last : List Char}
    (apart : Apart (piece :: pieces)) (blank : last.all isBlank = true) :
    Ends piece.run (pieces.flatMap Piece.text ++ last) := by
  cases pieces with
  | nil =>
    rw [List.flatMap_nil, List.nil_append, ← List.append_nil last]
    exact ends_of_isBlank blank (fun _ => nofun)
  | cons next pieces =>
    simp only [List.flatMap_cons, Piece.text, List.append_assoc]
    refine ends_of_isBlank next.blank fun empty => ?_
    have separate := (List.isChain_cons_cons.mp apart).1 empty
    obtain ⟨first, more, spelled, -, digits, letters⟩ := next.lexeme.first
    intro ch same
    obtain rfl : first = ch := by simpa [spelled] using same
    simp only [merge, Bool.or_eq_false_iff, Bool.and_eq_false_iff] at separate
    constructor
    · intro all
      refine Bool.eq_false_iff.mpr fun digit => ?_
      rw [all, digits digit] at separate
      exact separate.1.elim nofun nofun
    · intro all
      refine Bool.eq_false_iff.mpr fun letter => ?_
      rw [all, letters letter] at separate
      exact separate.2.elim nofun nofun

end Lexing
end Formula
