import Formula.Proofs.LexingConcatenation

/-! Tokens of a text that stands behind another. They are the tokens of the text alone,
moved on by the bytes and lines in front, as long as the bytes can all be counted. So two
texts that are put together, with no run over the seam, have the tokens of the first
without its end and then those of the second, moved. -/

namespace Formula

/-- The same stretch with the text `front` put in front of everything. -/
def Span.later (front : List Char) (span : Span) : Span where
  start := span.start + Offset.bytes front
  stop := span.stop + Offset.bytes front
  line := span.line + front.count '\n'

def Token.later (front : List Char) (token : Token) : Token := { token with span := token.span.later front }

def UnknownChar.later (front : List Char) (unknown : UnknownChar) : UnknownChar :=
  { unknown with span := unknown.span.later front }

theorem Span.behind_append {front before run : List Char}
    (counted : Offset.bytes (front ++ before ++ run) ≤ Offset.greatest) :
    behind (front ++ before) run = (behind before run).later front := by
  simp only [Offset.bytes_append] at counted
  simp only [behind, later, Offset.bytes_append, List.count_append, Span.mk.injEq]
  omega

namespace Lexing

private theorem placed_later {front before : List Char} {pieces : List Piece}
    (counted : Offset.bytes (front ++ before ++ pieces.flatMap Piece.text) ≤ Offset.greatest) :
    placed (front ++ before) pieces = (placed before pieces).map (Token.later front) := by
  induction pieces generalizing before with
  | nil => rfl
  | cons piece pieces ih =>
    have whole : front ++ before ++ (piece :: pieces).flatMap Piece.text =
        front ++ (before ++ piece.text) ++ pieces.flatMap Piece.text := by simp
    have rest := ih (whole ▸ counted)
    have here : Offset.bytes (front ++ (before ++ piece.gap) ++ piece.run) ≤ Offset.greatest := by
      simp only [List.flatMap_cons, Piece.text, Offset.bytes_append] at counted ⊢
      omega
    have span := Span.behind_append here
    rw [← List.append_assoc] at rest span
    rw [placed, placed, List.map_cons, rest, Piece.token, span]
    rfl

namespace Segmentation

variable {front back : List Char} (cut : Segmentation front) (cut' : Segmentation back)
  (parted : Parted front back)

include cut'

theorem placed_behind (counted : Offset.bytes (front ++ back) ≤ Offset.greatest) :
    placed front cut'.pieces = (placed [] cut'.pieces).map (Token.later front) := by
  have inside : Offset.bytes (front ++ [] ++ cut'.pieces.flatMap Piece.text) ≤ Offset.greatest := by
    rw [← cut'.whole] at counted
    simp only [List.append_nil, Offset.bytes_append] at counted ⊢
    omega
  have moved := placed_later inside
  rwa [List.append_nil] at moved

private theorem tokens_append (counted : Offset.bytes (front ++ back) ≤ Offset.greatest) :
    (cut.append cut' parted).tokens = cut.tokens.dropLast ++ cut'.tokens.map (Token.later front) := by
  have last : Span.behind (front ++ back) [] = (Span.behind back []).later front :=
    Span.behind_append (by simpa using counted)
  have moved := cut'.placed_behind counted
  rw [tokens, tokens, tokens, List.dropLast_concat, placed_append, List.nil_append, moved, last, List.map_append,
    List.append_assoc]
  rfl

theorem find?_append (counted : Offset.bytes (front ++ back) ≤ Offset.greatest) :
    (placed [] (cut.append cut' parted).pieces).find? (·.kind = .endOfInput) =
      ((placed [] cut.pieces).find? (·.kind = .endOfInput)).or
        (((placed [] cut'.pieces).find? (·.kind = .endOfInput)).map (Token.later front)) := by
  rw [placed_append, List.nil_append, cut'.placed_behind counted, List.find?_append, List.find?_map]
  rfl

end Segmentation
end Lexing

open Lexing

private theorem tryTokenize_of_toList {source : String} {text : List Char} (spelled : source.toList = text)
    (cut : Segmentation text) :
    Source.tryTokenize source =
      match (placed [] cut.pieces).find? (·.kind = .endOfInput) with
      | none => .ok cut.tokens
      | some stop => .error ⟨stop.text.toList.headD ' ', stop.span⟩ := by
  subst spelled
  exact tryTokenize_eq cut

/-- The tokens of two texts are those of the first up to its end and those of the second,
which stand further behind. The strict policy fails where the first text fails, and
otherwise where the second does. -/
theorem tokenize_append_parted (front back : String)
    (counted : front.utf8ByteSize + back.utf8ByteSize ≤ Offset.greatest) (parted : Parted front.toList back.toList) :
    Source.tokenize (front ++ back) =
      (Source.tokenize front).dropLast ++ (Source.tokenize back).map (Token.later front.toList) ∧
    Source.tryTokenize (front ++ back) =
      match Source.tryTokenize front, Source.tryTokenize back with
      | .error unknown, _ => .error unknown
      | .ok _, .error unknown => .error (unknown.later front.toList)
      | .ok tokens, .ok tokens' => .ok (tokens.dropLast ++ tokens'.map (Token.later front.toList)) := by
  obtain ⟨cut⟩ := exists_segmentation front.toList
  obtain ⟨cut'⟩ := exists_segmentation back.toList
  have counted : Offset.bytes (front.toList ++ back.toList) ≤ Offset.greatest := by
    rwa [Offset.bytes_append, ← Offset.utf8ByteSize_eq_bytes, ← Offset.utf8ByteSize_eq_bytes]
  have tokens := cut.tokens_append cut' parted counted
  constructor
  · rw [tokenize_of_toList String.toList_append (cut.append cut' parted), tokens, tokenize_eq cut, tokenize_eq cut']
  · rw [tryTokenize_of_toList String.toList_append (cut.append cut' parted), cut.find?_append cut' parted counted,
      tryTokenize_eq cut, tryTokenize_eq cut', tokens]
    cases (placed [] cut.pieces).find? (·.kind = .endOfInput) with
    | some stop => rfl
    | none =>
      cases (placed [] cut'.pieces).find? (·.kind = .endOfInput) with
      | some stop => rfl
      | none => rfl

/-- The accent of the second text is found where it stands in both, one line and six bytes
further behind. -/
theorem tokenize_append_accented :
    "const\n".utf8ByteSize + "x = 1\n + é".utf8ByteSize ≤ Offset.greatest ∧
      Parted "const\n".toList "x = 1\n + é".toList ∧
      Source.tokenize ("const\n" ++ "x = 1\n + é") =
        (Source.tokenize "const\n").dropLast ++
          (Source.tokenize "x = 1\n + é").map (Token.later "const\n".toList) ∧
      Source.tryTokenize "const\n" = .ok [⟨.const, "const", ⟨0, 5, 1⟩⟩, ⟨.endOfInput, "", ⟨6, 6, 2⟩⟩] ∧
      Source.tryTokenize "x = 1\n + é" = .error ⟨'é', ⟨9, 11, 2⟩⟩ ∧
      Source.tryTokenize ("const\n" ++ "x = 1\n + é") = .error ⟨'é', ⟨15, 17, 3⟩⟩ := by
  have counted : "const\n".utf8ByteSize + "x = 1\n + é".utf8ByteSize ≤ Offset.greatest := by decide +kernel
  have parted : Parted "const\n".toList "x = 1\n + é".toList := by
    intro ch last
    obtain rfl : '\n' = ch := Option.some.inj last
    exact fun _ _ => ⟨nofun, nofun⟩
  have front : Source.tryTokenize "const\n" =
      .ok [⟨.const, "const", ⟨0, 5, 1⟩⟩, ⟨.endOfInput, "", ⟨6, 6, 2⟩⟩] := by decide +kernel
  have back : Source.tryTokenize "x = 1\n + é" = .error ⟨'é', ⟨9, 11, 2⟩⟩ := by decide +kernel
  obtain ⟨tokens, strict⟩ := tokenize_append_parted "const\n" "x = 1\n + é" counted parted
  rw [front, back] at strict
  exact ⟨counted, parted, tokens, front, back, strict⟩

end Formula
