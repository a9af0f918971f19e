import Formula.Proofs.GrammarBlame
import Formula.Proofs.GrammarLikeness
import Formula.Proofs.LexingRendering

/-! Where tokens stand does not matter to what is read from them. Lists of tokens that are
alike in what the grammar looks at are the same program, or they fail at the same place for
the same reason. So texts with the same lexemes are read alike whatever blanks stand between
these; the blanks only show in the places that an error names. -/

namespace Formula

open Lexing

def Token.unplaced (token : Token) : Token := { token with span := .empty }

def UnknownChar.unplaced (unknown : UnknownChar) : UnknownChar := { unknown with span := .empty }

def ParseError.unplaced (error : ParseError) : ParseError :=
  { error with found := error.found.map Token.unplaced }

def SourceError.unplaced : SourceError → SourceError
  | lex unknown => lex unknown.unplaced
  | parse error => parse error.unplaced

theorem forall₂_iff_map {f : α → β} {items items' : List α} :
    List.Forall₂ (fun item item' => f item = f item') items items' ↔ items.map f = items'.map f := by
  rw [← List.forall₂_eq_eq_eq, List.forall₂_map_left_iff, List.forall₂_map_right_iff]

theorem Token.Alike.symm {token token' : Token} (alike : token.Alike token') : token'.Alike token :=
  ⟨alike.kind.symm, fun spelled => (alike.text (alike.kind ▸ spelled)).symm⟩

private theorem Token.alike_of_spelling {token token' : Token} (same : token.spelling = token'.spelling) :
    token.Alike token' :=
  ⟨congrArg Prod.fst same, fun _ => congrArg Prod.snd same⟩

theorem ParseError.Matching.unplaced {error error' : ParseError}
    (matching : error.Matching (fun token token' => token.spelling = token'.spelling) error') :
    error.unplaced = error'.unplaced := by
  obtain ⟨reason, found, expected⟩ := error
  obtain ⟨reason', found', expected'⟩ := error'
  obtain ⟨rfl, spelled, rfl⟩ := matching
  cases spelled with
  | none => rfl
  | @some token token' same =>
    obtain ⟨kind, text⟩ := Prod.mk.inj same
    simp [ParseError.unplaced, Token.unplaced, kind, text]

section Tokens

variable {tokens tokens' : List Token}

theorem matching_of_alike (alike : List.Forall₂ Token.Alike tokens tokens') :
    Matching Token.Alike tokens tokens' := by
  simpa using Matching.append alike .nil

theorem parseTokens_alike (alike : List.Forall₂ Token.Alike tokens tokens') :
    Results Token.Alike Eq (parseTokens tokens) (parseTokens tokens') :=
  parseTokens_matching (fun _ _ alike => alike) (matching_of_alike alike)

/-- An error cannot be put down to an earlier place in a list that is alike: up to there
the tokens of both lists can be completed. -/
theorem Offends.le_of_alike {error error' : ParseError} {i j : Nat}
    (alike : List.Forall₂ Token.Alike tokens tokens') (offends : Offends parseTokens tokens error i)
    (offends' : Offends parseTokens tokens' error' j) : j ≤ i := by
  refine Nat.le_of_not_lt fun before => ?_
  obtain ⟨more, program, accepted⟩ := offends'.viable
  obtain ⟨between, split⟩ := List.take_prefix_take_left (l := tokens') before
  have inside : i < tokens.length := alike.length_eq ▸ Nat.lt_of_lt_of_le before offends'.inside
  have front := List.forall₂_take (i + 1) alike
  have back : Matching Token.Alike (between ++ more) (between ++ more) :=
    matching_of_alike (List.forall₂_same.mpr fun _ _ => ⟨rfl, fun _ => rfl⟩)
  have results := parseTokens_matching (fun _ _ alike => alike) (Matching.append front back)
  rw [← split, List.append_assoc, ← results.ok_iff, offends.final inside] at accepted
  cases accepted

private theorem exists_offends_alike {error error' : ParseError}
    (alike : List.Forall₂ Token.Alike tokens tokens')
    (failed : parseTokens tokens = .error error) (failed' : parseTokens tokens' = .error error') :
    ∃ i, Offends parseTokens tokens error i ∧ Offends parseTokens tokens' error' i := by
  have alike' : List.Forall₂ Token.Alike tokens' tokens := alike.flip.imp fun _ _ => Token.Alike.symm
  obtain ⟨i, offends⟩ := exists_offends failed
  obtain ⟨j, offends'⟩ := exists_offends failed'
  obtain rfl : i = j := Nat.le_antisymm (offends'.le_of_alike alike' offends) (offends.le_of_alike alike offends')
  exact ⟨i, offends, offends'⟩

/-- Tokens that say the same are read as the same program or with the same error, except for
the place where this is found. -/
theorem parseTokens_spelling (same : tokens.map Token.spelling = tokens'.map Token.spelling) :
    (parseTokens tokens).mapError ParseError.unplaced = (parseTokens tokens').mapError ParseError.unplaced := by
  have spelled : List.Forall₂ (fun token token' => token.spelling = token'.spelling) tokens tokens' :=
    forall₂_iff_map.mpr same
  have matching : Matching (fun token token' => token.spelling = token'.spelling) tokens tokens' := by
    simpa using Matching.append spelled .nil
  have results := parseTokens_matching (fun _ _ => Token.alike_of_spelling) matching
  generalize parseTokens tokens = result, parseTokens tokens' = result' at results
  cases results with
  | ok meant => rw [meant]
  | error failed => exact congrArg Except.error failed.unplaced

end Tokens

private theorem firstUnknown_spelling {source source' : String}
    (same : (Source.tokenize source).map Token.spelling = (Source.tokenize source').map Token.spelling) :
    (Source.firstUnknown? source).map Token.spelling = (Source.firstUnknown? source').map Token.spelling := by
  let isUnknown : Kind × String → Bool := fun (kind, text) => kind = .endOfInput && text ≠ ""
  have first (tokens : List Token) :
      (tokens.find? Token.isUnknown).map Token.spelling = (tokens.map Token.spelling).find? isUnknown := by
    rw [List.find?_map]
    rfl
  rw [Source.firstUnknown?, Source.firstUnknown?, first, first, same]

private theorem parseStrict_spelling {source source' : String}
    (same : (Source.tokenize source).map Token.spelling = (Source.tokenize source').map Token.spelling) :
    (Source.parseStrict source).mapError SourceError.unplaced =
      (Source.parseStrict source').mapError SourceError.unplaced := by
  have first := firstUnknown_spelling same
  have parsed := parseTokens_spelling same
  rw [Source.parseStrict, Source.parseStrict, tryTokenize_eq_firstUnknown, tryTokenize_eq_firstUnknown]
  cases found : Source.firstUnknown? source with
  | none =>
    have known : Source.firstUnknown? source' = none :=
      Option.map_eq_none_iff.mp (first.symm.trans (congrArg (Option.map Token.spelling) found))
    simp only [known]
    cases read : parseTokens (Source.tokenize source) <;>
      cases read' : parseTokens (Source.tokenize source') <;>
        simp_all [Except.mapError, SourceError.unplaced]
  | some stop =>
    rw [found, Option.map_some, eq_comm, Option.map_eq_some_iff] at first
    obtain ⟨stop', found', spelled⟩ := first
    obtain ⟨-, text⟩ := Prod.mk.inj spelled
    simp [found', text, Except.mapError, SourceError.unplaced, UnknownChar.unplaced]

private theorem spelling_tokenize {source source' : String} (cut : Segmentation source.toList)
    (cut' : Segmentation source'.toList) (same : cut.pieces.map Piece.run = cut'.pieces.map Piece.run) :
    (Source.tokenize source).map Token.spelling = (Source.tokenize source').map Token.spelling := by
  have pieces : cut.pieces.map Piece.spelling = cut'.pieces.map Piece.spelling := by
    refine forall₂_iff_map.mp ((forall₂_iff_map.mpr same).imp fun piece piece' run => ?_)
    have kind : piece.kind = piece'.kind := piece.lexeme.kind_unique (run ▸ piece'.lexeme)
    rw [Piece.spelling, Piece.spelling, kind, run]
  rw [tokenize_eq cut, tokenize_eq cut', cut.map_spelling_tokens, cut'.map_spelling_tokens, pieces]

/-- Lists of tokens with the same kinds, and with the same texts where these are looked at,
are the same program or fail at the same place for the same reason. Texts whose tokens say
the same give the same program or the same error up to its place, and tokens say the same
when only the gaps between the lexemes differ. -/
theorem parse_ignores_layout :
    (∀ tokens tokens', List.Forall₂ Token.Alike tokens tokens' →
      (∀ program, parseTokens tokens = .ok program ↔ parseTokens tokens' = .ok program) ∧
      ∀ error error', parseTokens tokens = .error error → parseTokens tokens' = .error error' →
        error.reason = error'.reason ∧ error.expected = error'.expected ∧
          ∃ i, Offends parseTokens tokens error i ∧ Offends parseTokens tokens' error' i) ∧
    (∀ tokens tokens', tokens.map Token.spelling = tokens'.map Token.spelling →
      (parseTokens tokens).mapError ParseError.unplaced = (parseTokens tokens').mapError ParseError.unplaced) ∧
    (∀ source source',
      (Source.tokenize source).map Token.spelling = (Source.tokenize source').map Token.spelling →
        (Source.parse source).mapError ParseError.unplaced = (Source.parse source').mapError ParseError.unplaced ∧
        (Source.parseStrict source).mapError SourceError.unplaced =
          (Source.parseStrict source').mapError SourceError.unplaced) ∧
    ∀ source source' (cut : Segmentation source.toList) (cut' : Segmentation source'.toList),
      cut.pieces.map Piece.run = cut'.pieces.map Piece.run →
        (Source.tokenize source).map Token.spelling = (Source.tokenize source').map Token.spelling := by
  refine ⟨fun tokens tokens' alike => ?_, fun _ _ => parseTokens_spelling,
    fun source source' same => ⟨parseTokens_spelling same, parseStrict_spelling same⟩,
    fun _ _ => spelling_tokenize⟩
  refine ⟨(parseTokens_alike alike).ok_iff, fun error error' failed failed' => ?_⟩
  have matching := (parseTokens_alike alike).failed failed failed'
  exact ⟨matching.reason, matching.expected, exists_offends_alike alike failed failed'⟩

namespace Lexing

private theorem isLexeme_x : IsLexeme .identifier ['x'] := .name (by decide) (by decide) (by decide)

private theorem all_isBlank_lineFeed : ['\n'].all isBlank = true := rfl

def namePieces (gap : List Char) (blank : gap.all isBlank = true) : List Piece :=
  [⟨[], List.all_nil, .identifier, ['x'], isLexeme_x⟩,
    ⟨gap, blank, .equals, ['='], .equals⟩]

theorem apart_namePieces (gap : List Char) (blank : gap.all isBlank = true) : Apart (namePieces gap blank) :=
  List.isChain_cons_cons.mpr ⟨fun _ => rfl, .singleton _⟩

def cramped : Segmentation "x=".toList :=
  ⟨namePieces [] List.all_nil, [], List.all_nil, apart_namePieces _ _, by decide⟩

def roomy : Segmentation "x\n =\n".toList :=
  ⟨namePieces ['\n', ' '] (by decide), ['\n'], all_isBlank_lineFeed, apart_namePieces _ _, by decide⟩

end Lexing

/-- The tokens of an assignment without a value, which come from no text. -/
def unassigned : List Token :=
  [⟨.identifier, "x", .empty⟩, ⟨.equals, ":=", .empty⟩, ⟨.endOfInput, "end", .empty⟩]

/-- The end of the text is blamed wherever it stands. -/
theorem parse_ignores_layout_roomy :
    List.Forall₂ Token.Alike unassigned (Source.tokenize "x\n =\n") ∧
      parseTokens unassigned = .error ⟨.unexpected, some ⟨.endOfInput, "end", .empty⟩, none⟩ ∧
      Source.parse "x\n =\n" = .error ⟨.unexpected, some ⟨.endOfInput, "", ⟨5, 5, 3⟩⟩, none⟩ ∧
      (∃ i, Offends parseTokens unassigned ⟨.unexpected, some ⟨.endOfInput, "end", .empty⟩, none⟩ i ∧
        Offends parseTokens (Source.tokenize "x\n =\n")
          ⟨.unexpected, some ⟨.endOfInput, "", ⟨5, 5, 3⟩⟩, none⟩ i) ∧
      cramped.pieces.map Piece.run = roomy.pieces.map Piece.run ∧
      (Source.tokenize "x=").map Token.spelling = (Source.tokenize "x\n =\n").map Token.spelling ∧
      (Source.parse "x=").mapError ParseError.unplaced =
        (Source.parse "x\n =\n").mapError ParseError.unplaced ∧
      (parseTokens (Source.tokenize "x=")).mapError ParseError.unplaced =
        (parseTokens (Source.tokenize "x\n =\n")).mapError ParseError.unplaced := by
  have tokens : Source.tokenize "x\n =\n" = [⟨.identifier, "x", ⟨0, 1, 1⟩⟩, ⟨.equals, "=", ⟨3, 4, 2⟩⟩,
      ⟨.endOfInput, "", ⟨5, 5, 3⟩⟩] := by decide +kernel
  have alike : List.Forall₂ Token.Alike unassigned (Source.tokenize "x\n =\n") := by
    rw [tokens]
    exact .cons ⟨rfl, fun _ => rfl⟩ (.cons ⟨rfl, nofun⟩ (.cons ⟨rfl, nofun⟩ .nil))
  have failed : parseTokens unassigned = .error ⟨.unexpected, some ⟨.endOfInput, "end", .empty⟩, none⟩ :=
    parseWithin_eq_error_iff.mpr (by decide +kernel)
  have failed' : Source.parse "x\n =\n" = .error ⟨.unexpected, some ⟨.endOfInput, "", ⟨5, 5, 3⟩⟩, none⟩ :=
    parseWithin_eq_error_iff.mpr (by decide +kernel)
  obtain ⟨-, places⟩ := parse_ignores_layout.1 _ _ alike
  obtain ⟨-, -, offends⟩ := places _ _ failed failed'
  have runs : cramped.pieces.map Piece.run = roomy.pieces.map Piece.run := rfl
  have same := parse_ignores_layout.2.2.2 _ _ cramped roomy runs
  exact ⟨alike, failed, failed', offends, runs, same, (parse_ignores_layout.2.2.1 _ _ same).1,
    parse_ignores_layout.2.1 _ _ same⟩

end Formula
