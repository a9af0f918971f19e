import Formula.Proofs.LexingExactness

/-! Every text has one segmentation and no other. A piece can be put in front of a
segmentation whenever its run ends there, which gives the one that exists; that the run
ends there is also what fixes the piece, which leaves no second one. -/

namespace Formula
namespace Lexing

private theorem dropWhile_stop (accepts : Char → Bool) (text : List Char) :
    ∀ ch ∈ (text.dropWhile accepts).head?, accepts ch = false := by
  intro ch first
  have stopped := List.head?_dropWhile_not accepts text
  rw [Option.mem_def.mp first] at stopped
  simpa using stopped

/-- Where the text does not go on with a blank, a lexeme begins, and it ends where
nothing carries it on. -/
theorem exists_lexeme {ch : Char} (more : List Char) (noBlank : isBlank ch = false) :
    ∃ kind run rest, ch :: more = run ++ rest ∧ IsLexeme kind run ∧ Ends run rest := by
  by_cases digit : ch.isDigit = true
  · refine ⟨.number, (ch :: more).takeWhile Char.isDigit, (ch :: more).dropWhile Char.isDigit,
      List.takeWhile_append_dropWhile.symm, .number (by simp [digit]) (List.all_takeWhile), ?_⟩
    intro next first
    refine ⟨fun _ => dropWhile_stop _ _ next first, fun letters => ?_⟩
    simp [digit, isLetter_of_isDigit digit] at letters
  by_cases letter : isLetter ch = true
  · have ends : Ends ((ch :: more).takeWhile isLetter) ((ch :: more).dropWhile isLetter) := by
      intro next first
      refine ⟨fun digits => ?_, fun _ => dropWhile_stop _ _ next first⟩
      simp [letter, digit] at digits
    by_cases word : (ch :: more).takeWhile isLetter = ['c', 'o', 'n', 's', 't']
    · exact ⟨.const, _, _, List.takeWhile_append_dropWhile.symm, word ▸ .keyword, ends⟩
    · exact ⟨.identifier, _, _, List.takeWhile_append_dropWhile.symm,
        .name (by simp [letter]) List.all_takeWhile word, ends⟩
  have ends : Ends [ch] more := by
    intro next _
    simp [digit, letter]
  by_cases sign : ch ∈ ['=', ';', '(', ')', '+', '-', '*', '/']
  · have lexeme : ∃ kind, IsLexeme kind [ch] := by
      simp only [List.mem_cons, List.not_mem_nil, or_false] at sign
      rcases sign with rfl | rfl | rfl | rfl | rfl | rfl | rfl | rfl
      · exact ⟨_, .equals⟩
      · exact ⟨_, .semicolon⟩
      · exact ⟨_, .openParen⟩
      · exact ⟨_, .closeParen⟩
      all_goals exact ⟨_, .operator (by decide)⟩
    obtain ⟨kind, lexeme⟩ := lexeme
    exact ⟨kind, [ch], more, rfl, lexeme, ends⟩
  · have unknown : IsLexeme .endOfInput [ch] :=
      .unknown noBlank (by simpa using digit) (by simpa using letter) sign
    exact ⟨.endOfInput, [ch], more, rfl, unknown, ends⟩

private theorem merge_of_ends {run rest : List Char} {next : Piece} (ends : Ends run (next.text ++ rest))
    (empty : next.gap = []) : merge run next.run = false := by
  obtain ⟨first, more, spelled, -⟩ := next.lexeme.first
  obtain ⟨digits, letters⟩ := ends first (by simp [Piece.text, empty, spelled])
  simp only [merge, Bool.or_eq_false_iff, Bool.and_eq_false_iff, spelled, List.all_cons]
  cases all : run.all Char.isDigit <;> cases all' : run.all isLetter <;> simp_all

def Segmentation.push (piece : Piece) {rest : List Char} (ends : Ends piece.run rest)
    (cut : Segmentation rest) : Segmentation (piece.text ++ rest) where
  pieces := piece :: cut.pieces
  last := cut.last
  blank := cut.blank
  apart := by
    refine List.isChain_cons.mpr ⟨fun next first => ?_, cut.apart⟩
    obtain ⟨more, pieces⟩ : ∃ more, cut.pieces = next :: more := List.head?_eq_some_iff.mp first
    rw [← cut.whole, pieces, List.flatMap_cons, List.append_assoc] at ends
    exact merge_of_ends ends
  whole := by rw [List.flatMap_cons, List.append_assoc, cut.whole]

theorem exists_segmentation (text : List Char) : Nonempty (Segmentation text) := by
  induction size : text.length using Nat.strongRecOn generalizing text with
  | ind size ih =>
    subst size
    have split := List.takeWhile_append_dropWhile (p := isBlank) (l := text)
    have blank : (text.takeWhile isBlank).all isBlank = true := List.all_takeWhile
    cases skipped : text.dropWhile isBlank with
    | nil =>
      rw [skipped, List.append_nil] at split
      exact ⟨⟨[], text.takeWhile isBlank, blank, .nil, split⟩⟩
    | cons ch more =>
      have noBlank := dropWhile_stop isBlank text ch (by simp [skipped])
      obtain ⟨kind, run, rest, spelled, lexeme, ends⟩ := exists_lexeme more noBlank
      have filled : run ≠ [] := by
        obtain ⟨first, more, rfl, -⟩ := lexeme.first
        exact List.cons_ne_nil _ _
      have shorter : rest.length < text.length := by
        have longer := List.length_pos_iff.mpr filled
        rw [← split, skipped, spelled]
        simp only [List.length_append]
        omega
      obtain ⟨cut⟩ := ih rest.length shorter rest rfl
      have whole : text.takeWhile isBlank ++ run ++ rest = text := by
        rw [List.append_assoc, ← spelled, ← skipped, split]
      exact ⟨whole ▸ cut.push ⟨_, blank, kind, run, lexeme⟩ ends⟩

private theorem piece_unique {piece piece' : Piece} {rest rest' : List Char} (ends : Ends piece.run rest)
    (ends' : Ends piece'.run rest') (same : piece.text ++ rest = piece'.text ++ rest') :
    piece = piece' ∧ rest = rest' := by
  obtain ⟨gap, blank, kind, run, lexeme⟩ := piece
  obtain ⟨gap', blank', kind', run', lexeme'⟩ := piece'
  simp only [Piece.text, List.append_assoc] at same
  obtain ⟨rfl, onward⟩ := run_unique blank blank' (lexeme.stop rest) (lexeme'.stop rest') same
  obtain rfl : run = run' := by
    obtain ⟨ch, more, rfl, -⟩ := lexeme.first
    obtain ⟨ch', more', rfl, -⟩ := lexeme'.first
    obtain ⟨rfl, -⟩ := List.cons.inj onward
    rw [← lexeme.runAt_eq ⟨ch :: more ++ rest, 0, 0⟩ ends rfl,
      lexeme'.runAt_eq ⟨ch :: more ++ rest, 0, 0⟩ ends' onward]
  obtain rfl := lexeme.kind_unique lexeme'
  exact ⟨rfl, List.append_cancel_left onward⟩

private theorem last_ne_piece {last rest : List Char} (blank : last.all isBlank = true) (piece : Piece) :
    last ≠ piece.text ++ rest := by
  rintro rfl
  obtain ⟨first, more, spelled, noBlank, -⟩ := piece.lexeme.first
  simp [Piece.text, spelled, noBlank] at blank

private theorem pieces_unique {pieces pieces' : List Piece} {last last' : List Char} (apart : Apart pieces)
    (apart' : Apart pieces') (blank : last.all isBlank = true) (blank' : last'.all isBlank = true)
    (same : pieces.flatMap Piece.text ++ last = pieces'.flatMap Piece.text ++ last') :
    pieces = pieces' ∧ last = last' := by
  induction pieces generalizing pieces' with
  | nil =>
    cases pieces' with
    | nil => exact ⟨rfl, same⟩
    | cons piece' pieces' =>
      rw [List.flatMap_cons, List.append_assoc] at same
      exact absurd same (last_ne_piece blank piece')
  | cons piece pieces ih =>
    cases pieces' with
    | nil =>
      rw [List.flatMap_cons, List.append_assoc] at same
      exact absurd same.symm (last_ne_piece blank' piece)
    | cons piece' pieces' =>
      simp only [List.flatMap_cons, List.append_assoc] at same
      obtain ⟨rfl, onward⟩ := piece_unique (apart.ends blank) (apart'.ends blank') same
      obtain ⟨rfl, rfl⟩ := ih (List.isChain_cons.mp apart).2 (List.isChain_cons.mp apart').2 onward
      exact ⟨rfl, rfl⟩

theorem Segmentation.unique {text : List Char} (cut cut' : Segmentation text) : cut = cut' := by
  obtain ⟨pieces, last, blank, apart, whole⟩ := cut
  obtain ⟨pieces', last', blank', apart', whole'⟩ := cut'
  obtain ⟨rfl, rfl⟩ := pieces_unique apart apart' blank blank' (whole.trans whole'.symm)
  rfl

private theorem Segmentation.mem_tokens {text : List Char} (cut : Segmentation text) {token : Token}
    (inside : token ∈ cut.tokens) :
    ∃ front run back, text = front ++ run ++ back ∧
      token.text = String.ofList run ∧ token.span = .behind front run := by
  rcases List.mem_append.mp inside with inside | inside
  · obtain ⟨front, piece, back, pieces, rfl⟩ := mem_placed_iff.mp inside
    refine ⟨front.flatMap Piece.text ++ piece.gap, piece.run, back.flatMap Piece.text ++ cut.last, ?_,
      rfl, rfl⟩
    simpa [pieces, Piece.text] using cut.whole.symm
  · obtain rfl := List.mem_singleton.mp inside
    exact ⟨text, [], [], by simp, rfl, rfl⟩

end Lexing

open Lexing

/-- A text has one segmentation, and its tokens are the tokens of the text. Their spans
run forwards, and cut out their texts as long as the bytes can be counted. -/
theorem tokenize_eq_segmentation (source : String) :
    (∃ cut : Segmentation source.toList, Source.tokenize source = cut.tokens ∧ ∀ other, other = cut) ∧
    (source.utf8ByteSize ≤ Offset.greatest → ∀ token ∈ Source.tokenize source,
      source.toByteArray.extract token.span.start token.span.stop = token.text.toByteArray) ∧
    ∀ token ∈ Source.tokenize source, token.span.start ≤ token.span.stop := by
  obtain ⟨cut⟩ := exists_segmentation source.toList
  refine ⟨⟨cut, tokenize_eq cut, fun other => other.unique cut⟩, fun counted token inside => ?_,
    fun token inside => ?_⟩
  all_goals
    rw [tokenize_eq cut] at inside
    obtain ⟨front, run, back, whole, text, span⟩ := cut.mem_tokens inside
    rw [span]
  · rw [Offset.utf8ByteSize_eq_bytes, whole] at counted
    have bytes : source.toByteArray = (front ++ run ++ back).utf8Encode := by
      rw [← whole, ← String.toByteArray_ofList, String.ofList_toList]
    rw [bytes, Span.extract_behind counted, text, String.toByteArray_ofList]
  · exact Span.start_behind_le front run

/-- A letter of two bytes, which begins no lexeme, is cut out whole all the same. -/
theorem tokenize_slices_accent :
    ∀ token ∈ Source.tokenize "é = 1",
      "é = 1".toByteArray.extract token.span.start token.span.stop = token.text.toByteArray :=
  (tokenize_eq_segmentation "é = 1").2.1 (by decide +kernel)

end Formula
