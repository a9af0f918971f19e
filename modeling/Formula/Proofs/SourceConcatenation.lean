import Formula.Proofs.GrammarLikeness
import Formula.Proofs.LexingConcatenation

/-! Programs one behind the other. Nothing is written between statements, so a program
stops at the end of its tokens unless an operator carries it on, and what follows is
read as if it stood alone. Texts go together line by line, because no run goes on over
the end of a line. -/

namespace Formula

open Lexing

private theorem Token.operator?_eq_none_iff {token : Token} :
    token.operator? = none ↔ (token.kind = .binaryOperator → token.text ∉ ["+", "-", "*", "/"]) := by
  have symbols : token.text ∈ ["+", "-", "*", "/"] ↔ ∃ op : Operator, token.text = op.symbol := by
    constructor
    · intro inside
      simp only [List.mem_cons, List.not_mem_nil, or_false] at inside
      rcases inside with text | text | text | text
      · exact ⟨.add, text⟩
      · exact ⟨.sub, text⟩
      · exact ⟨.mul, text⟩
      · exact ⟨.div, text⟩
    · rintro ⟨op, text⟩
      cases op <;> simp [text, Operator.symbol]
  simp only [Option.eq_none_iff_forall_ne_some, ne_eq, Token.operator?_eq_some_iff, symbols, not_and,
    not_exists]
  exact ⟨fun none isOperator op => none op isOperator, fun none op isOperator => none isOperator op⟩

section Tokens

variable {front back : List Token} {program next : Program}

/-- A program that an operator does not carry on is read, and then what follows. -/
theorem parseTokens_append (inside : ∀ token ∈ front, token.kind ≠ .endOfInput)
    (parsed : parseTokens front = .ok program) (rests : State.Rests (fun _ => true) ⟨back, 0⟩) :
    parseTokens (front ++ back) = (parseTokens back).map fun next => ⟨program.body ++ next.body⟩ := by
  obtain ⟨ds, spelled, meant⟩ := result_statements_iff.mp parsed
  rw [beforeEnd_eq_self inside] at spelled
  -- The loop comes to `back` with the statements of `front` done, which only stand in front.
  have read := Grammar.statementsOnto_statements [] ds (Nat.sub_zero Grammar.maxDepth) rests
  rw [spelled, List.append_nil, meant, Grammar.statementsOnto_eq Grammar.maxDepth program.body.reverse,
    List.reverse_reverse] at read
  rw [parseTokens, Grammar.statements, read, parseTokens]
  unfold Progress.result
  cases (Grammar.statements Grammar.maxDepth ⟨back, 0⟩).failure <;> rfl

private theorem rests_of_parsed (parsed : parseTokens front = .ok program) :
    State.Rests (fun _ => true) ⟨front, 0⟩ := by
  obtain ⟨ds, spelled, -⟩ := result_statements_iff.mp parsed
  have rests := Grammar.rests_statements ds (rests_behind front 0)
  rwa [spelled, beforeEnd, List.takeWhile_append_dropWhile] at rests

private theorem parseTokens_append_ok (inside : ∀ token ∈ front, token.kind ≠ .endOfInput)
    (parsed : parseTokens front = .ok program) (parsed' : parseTokens back = .ok next) :
    parseTokens (front ++ back) = .ok ⟨program.body ++ next.body⟩ := by
  rw [parseTokens_append inside parsed (rests_of_parsed parsed'), parsed']
  rfl

end Tokens

namespace Lexing

private theorem placed_alike (before before' : List Char) (pieces : List Piece) :
    List.Forall₂ Token.Alike (placed before pieces) (placed before' pieces) := by
  induction pieces generalizing before before' with
  | nil => exact .nil
  | cons piece pieces ih => exact .cons ⟨rfl, fun _ => rfl⟩ (ih _ _)

/-- It does not matter where in a text the pieces of a program stand. -/
private theorem parseTokens_placed (before before' : List Char) (pieces : List Piece) (program : Program) :
    parseTokens (placed before pieces) = .ok program ↔ parseTokens (placed before' pieces) = .ok program := by
  have matching : Matching Token.Alike (placed before pieces) (placed before' pieces) := by
    simpa using Matching.append (placed_alike before before' pieces) .nil
  exact (parseTokens_matching (fun _ _ alike => alike) matching).ok_iff program

theorem parseStrict_iff_placed {source : String} {text : List Char} (spelled : source.toList = text)
    (cut : Segmentation text) (before : List Char) (program : Program) :
    Source.parseStrict source = .ok program ↔
      (∀ token ∈ placed before cut.pieces, token.kind ≠ .endOfInput) ∧
        parseTokens (placed before cut.pieces) = .ok program := by
  subst spelled
  have kinds (before : List Char) : (∀ token ∈ placed before cut.pieces, token.kind ≠ .endOfInput) ↔
      ∀ piece ∈ cut.pieces, piece.kind ≠ .endOfInput := by
    rw [← List.forall_mem_map (P := (· ≠ Kind.endOfInput)), map_kind_placed, List.forall_mem_map]
  rw [parseTokens_placed before [], kinds before, parseStrict_eq_ok_iff]
  simp only [tryTokenize_eq_ok cut, and_assoc, ← kinds [], exists_and_left, exists_eq_left]
  apply and_congr_right
  intro inside
  rw [← result_statements_iff]
  exact parseTokens_before_end [] rfl inside program

private theorem parted_before_lineFeed (line rest : List Char) : Parted line (['\n'] ++ rest) := by
  intro ch _ next first
  obtain rfl := Option.some.inj first
  exact ⟨fun _ => rfl, fun _ => rfl⟩

private theorem parted_behind_lineFeed (rest : List Char) : Parted ['\n'] rest := by
  intro ch last next _
  obtain rfl := Option.some.inj last
  exact ⟨nofun, nofun⟩

def lineFeed : Segmentation ['\n'] := ⟨[], ['\n'], by decide, .nil, rfl⟩

def Segmentation.lines {line rest : List Char} (cut : Segmentation line) (cut' : Segmentation rest) :
    Segmentation (line ++ (['\n'] ++ rest)) :=
  cut.append (lineFeed.append cut' (parted_behind_lineFeed rest)) (parted_before_lineFeed line rest)

private theorem Segmentation.placed_lines {line rest : List Char} (cut : Segmentation line)
    (cut' : Segmentation rest) :
    placed [] (cut.lines cut').pieces = placed [] cut.pieces ++ placed (line ++ ['\n']) cut'.pieces := by
  rw [lines, placed_append, placed_append]
  rfl

end Lexing

private theorem parseStrict_line {line rest : String} {program next : Program}
    (parsed : Source.parseStrict line = .ok program) (parsed' : Source.parseStrict rest = .ok next) :
    Source.parseStrict (line ++ "\n" ++ rest) = .ok ⟨program.body ++ next.body⟩ := by
  obtain ⟨cut⟩ := exists_segmentation line.toList
  obtain ⟨cut'⟩ := exists_segmentation rest.toList
  obtain ⟨known, read⟩ := (parseStrict_iff_placed rfl cut [] program).mp parsed
  obtain ⟨known', read'⟩ := (parseStrict_iff_placed rfl cut' (line.toList ++ ['\n']) next).mp parsed'
  apply (parseStrict_iff_placed (by simp) (cut.lines cut') [] _).mpr
  rw [cut.placed_lines cut']
  refine ⟨fun token inside => ?_, parseTokens_append_ok known read read'⟩
  rcases List.mem_append.mp inside with inside | inside
  · exact known token inside
  · exact known' token inside

private theorem parseStrict_lines {lines : List String} {programs : List Program}
    (parsed : List.Forall₂ (fun line program => Source.parseStrict line = .ok program) lines programs) :
    Source.parseStrict ("\n".intercalate lines) = .ok ⟨programs.flatMap Program.body⟩ := by
  induction parsed with
  | nil => decide +kernel
  | @cons line program lines programs first more ih =>
    cases more with
    | nil => simpa using first
    | cons second more =>
      rw [String.intercalate_cons_cons]
      exact parseStrict_line first ih

/-- Programs that are put together are read one after the other, and an error of the
second is the same as if it stood alone. So a text of many lines, each of them a program,
is the program of all their statements in order. -/
theorem parse_concatenation :
    (∀ front back program, (∀ token ∈ front, token.kind ≠ .endOfInput) → parseTokens front = .ok program →
      (∀ token ∈ back.head?, token.kind = .binaryOperator → token.text ∉ ["+", "-", "*", "/"]) →
        parseTokens (front ++ back) =
          (parseTokens back).map fun next => ⟨program.body ++ next.body⟩) ∧
    ∀ lines programs, List.Forall₂ (fun line program => Source.parseStrict line = .ok program) lines programs →
      Source.parseStrict ("\n".intercalate lines) = .ok ⟨programs.flatMap Program.body⟩ := by
  constructor
  · intro front back program inside parsed apart
    apply parseTokens_append inside parsed
    cases back with
    | nil => exact State.rests_nil
    | cons token back =>
      have noOperator := Token.operator?_eq_none_iff.mpr (apart token rfl)
      exact State.rests_cons_iff.mpr fun op next => by simp [noOperator] at next
  · intro lines programs
    exact parseStrict_lines

def copied : List Token := [⟨.identifier, "x", .empty⟩, ⟨.equals, "=", .empty⟩, ⟨.identifier, "y", .empty⟩]

def stray : List Token := [⟨.equals, "=", .empty⟩, ⟨.number, "1", .empty⟩]

/-- A stray equals sign is blamed behind a statement as at the start, and a group on a
line of its own is no part of the line in front of it. -/
theorem parse_concatenation_copied :
    (∀ token ∈ copied, token.kind ≠ .endOfInput) ∧
      parseTokens copied = .ok ⟨[.assign "x" (.reference "y")]⟩ ∧
      (∀ token ∈ stray.head?, token.kind = .binaryOperator → token.text ∉ ["+", "-", "*", "/"]) ∧
      parseTokens (copied ++ stray) =
        (parseTokens stray).map (fun next => ⟨[.assign "x" (.reference "y")] ++ next.body⟩) ∧
      Source.parseStrict "x = y" = .ok ⟨[.assign "x" (.reference "y")]⟩ ∧
      Source.parseStrict "(x = y) * z" =
        .ok ⟨[.binary (.assign "x" (.reference "y")) .mul (.reference "z")]⟩ ∧
      Source.parseStrict "x = y\n(x = y) * z" = .ok ⟨[.assign "x" (.reference "y"),
        .binary (.assign "x" (.reference "y")) .mul (.reference "z")]⟩ := by
  have inside : ∀ token ∈ copied, token.kind ≠ .endOfInput := by decide
  have parsed : parseTokens copied = .ok ⟨[.assign "x" (.reference "y")]⟩ := by decide +kernel
  have apart : ∀ token ∈ stray.head?, token.kind = .binaryOperator → token.text ∉ ["+", "-", "*", "/"] := by
    decide
  have line : Source.parseStrict "x = y" = .ok ⟨[.assign "x" (.reference "y")]⟩ := by decide +kernel
  have line' : Source.parseStrict "(x = y) * z" =
      .ok ⟨[.binary (.assign "x" (.reference "y")) .mul (.reference "z")]⟩ := by decide +kernel
  exact ⟨inside, parsed, apart, parse_concatenation.1 copied stray _ inside parsed apart, line, line',
    parse_concatenation.2 ["x = y", "(x = y) * z"] _ (.cons line (.cons line' .nil))⟩

end Formula
