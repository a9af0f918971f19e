import Formula.Source
import Formula.Proofs.LexingSegments
import Formula.Proofs.TextRuns

/-! Cutting a text finds its one segmentation. Every step takes the next piece, and
what a character that is no lexeme becomes is left to whoever cuts, so the tokens of
both policies are told by the same pieces. -/

namespace Formula

namespace Cursor

def between (before rest : List Char) : Cursor :=
  ⟨rest, Offset.after 0 before, 1 + before.count '\n'⟩

theorem between_pass (before run rest : List Char) :
    (between before (run ++ rest)).pass run = between (before ++ run) rest := by
  simp [between, pass, Offset.after_append, Nat.add_assoc]

theorem between_spanTo (before run rest rest' : List Char) :
    (between before rest).spanTo (between (before ++ run) rest') = .behind before run := by
  simp [between, spanTo, Span.behind, Offset.after_eq_min 0 _ (Nat.zero_le _)]

end Cursor

namespace Lexing

open Cursor (between)

theorem skip_eq (before : List Char) {gap : List Char} (rest : List Char) (blank : gap.all isBlank = true)
    (stop : ∀ ch ∈ rest.head?, isBlank ch = false) :
    ((between before (gap ++ rest)).takeWhile isBlank).2 = between (before ++ gap) rest := by
  have run : (between before (gap ++ rest)).rest.takeWhile isBlank = gap := takeWhile_run blank stop
  rw [Cursor.takeWhile, run, Cursor.between_pass]

theorem IsLexeme.stop {kind : Kind} {run : List Char} (lexeme : IsLexeme kind run) (rest : List Char) :
    ∀ ch ∈ (run ++ rest).head?, isBlank ch = false := by
  obtain ⟨first, more, rfl, noBlank, -⟩ := lexeme.first
  intro ch same
  obtain rfl : first = ch := by simpa using same
  exact noBlank

theorem IsLexeme.runAt_eq {kind : Kind} {ch : Char} {more rest : List Char} (start : Cursor)
    (lexeme : IsLexeme kind (ch :: more)) (ends : Ends (ch :: more) rest)
    (comes : start.rest = ch :: more ++ rest) : runAt start ch = ch :: more := by
  have digits (all : (ch :: more).all Char.isDigit = true) :
      start.rest.takeWhile Char.isDigit = ch :: more := by
    rw [comes]
    exact takeWhile_run all fun next first => (ends next first).1 all
  have letters (all : (ch :: more).all isLetter = true) :
      start.rest.takeWhile isLetter = ch :: more := by
    rw [comes]
    exact takeWhile_run all fun next first => (ends next first).2 all
  obtain ⟨first, tail, same, -, wholeDigits, wholeLetters⟩ := lexeme.first
  obtain ⟨rfl, rfl⟩ := List.cons.inj same
  unfold runAt
  split
  · next digit => exact digits (wholeDigits digit)
  · split
    · next letter => exact letters (wholeLetters letter)
    · next noDigit noLetter => rw [lexeme.alone (by simpa using noDigit) (by simpa using noLetter)]

def Piece.found (before : List Char) (piece : Piece) : Lexeme :=
  if piece.kind = .endOfInput then
    .unknown ⟨piece.run.headD ' ', .behind (before ++ piece.gap) piece.run⟩
  else .token (piece.token before)

private theorem scan_piece (before : List Char) (piece : Piece) {rest : List Char}
    (ends : Ends piece.run rest) :
    scan (between before (piece.text ++ rest)) =
      (piece.found before, between (before ++ piece.text) rest) := by
  obtain ⟨gap, blank, kind, run, lexeme⟩ := piece
  obtain ⟨ch, more, rfl, -⟩ := lexeme.first
  have skipped := skip_eq before _ blank (lexeme.stop rest)
  have run := lexeme.runAt_eq (between (before ++ gap) (ch :: more ++ rest)) ends rfl
  have passed := Cursor.between_pass (before ++ gap) (ch :: more) rest
  have spans := Cursor.between_spanTo (before ++ gap) (ch :: more) (ch :: more ++ rest) rest
  simp only [List.append_assoc] at passed spans
  have comes : (between (before ++ gap) (ch :: more ++ rest)).rest = ch :: (more ++ rest) := rfl
  unfold scan
  simp only [Piece.text, List.append_assoc, skipped, comes, run, lexeme.kindOf_eq]
  by_cases unknown : kind = .endOfInput
  · simp only [unknown, if_true, Piece.found, List.headD_cons, passed, spans]
  · simp only [unknown, if_false, Piece.found, Piece.token, tokenAt, passed, spans]

private theorem scan_last (before : List Char) {last : List Char} (blank : last.all isBlank = true) :
    scan (between before last) =
      (.last ⟨.endOfInput, "", .behind (before ++ last) []⟩, between (before ++ last) []) := by
  have skipped := skip_eq before [] blank nofun
  have spans := Cursor.between_spanTo (before ++ last) [] [] []
  rw [List.append_nil] at skipped spans
  unfold scan
  rw [skipped]
  simp [between, tokenAt] at spans ⊢
  exact spans

variable {ε : Type} {take : UnknownChar → Except ε Token} {cursor after : Cursor}

theorem cut_of_last {token : Token} (scanned : scan cursor = (.last token, after)) :
    cut take cursor = (.ok [token], after) := by
  rw [cut, cutOnto]
  split <;> simp_all

theorem cut_of_token {token : Token}
    (scanned : scan cursor = (.token token, after) ∨
      ∃ unknown, scan cursor = (.unknown unknown, after) ∧ take unknown = .ok token) :
    cut take cursor = ((cut take after).1.map (token :: ·), (cut take after).2) := by
  rw [cut, cutOnto]
  rcases scanned with scanned | ⟨unknown, scanned, taken⟩ <;> split <;> simp_all [cutOnto_eq take [token]]

theorem cut_of_stop {stop : ε} {unknown : UnknownChar}
    (scanned : scan cursor = (.unknown unknown, after)) (refused : take unknown = .error stop) :
    cut take cursor = (.error stop, after) := by
  rw [cut, cutOnto]
  split <;> simp_all

/-- What becomes of a token under a policy on unknown characters. -/
def accept (take : UnknownChar → Except ε Token) (token : Token) : Except ε Token :=
  if token.kind = .endOfInput then take ⟨token.text.toList.headD ' ', token.span⟩ else .ok token

private theorem map_cons (token : Token) (last : List Token) (rest : Except ε (List Token)) :
    (rest.map (· ++ last)).map (token :: ·) = (rest.bind fun more => .ok (token :: more)).map (· ++ last) := by
  cases rest <;> rfl

theorem cut_pieces (take : UnknownChar → Except ε Token) (before : List Char) {pieces : List Piece}
    {last : List Char} (apart : Apart pieces) (blank : last.all isBlank = true) :
    (cut take (between before (pieces.flatMap Piece.text ++ last))).1 =
      ((placed before pieces).mapM (accept take)).map
        (· ++ [⟨.endOfInput, "", .behind (before ++ pieces.flatMap Piece.text ++ last) []⟩]) := by
  induction pieces generalizing before with
  | nil =>
    rw [List.flatMap_nil, List.nil_append, cut_of_last (scan_last before blank)]
    simp [placed, pure, Except.pure, Except.map]
  | cons piece pieces ih =>
    have scanned := scan_piece before piece (apart.ends blank)
    have onward := ih (before ++ piece.text) (List.isChain_cons.mp apart).2
    have taken : accept take (piece.token before) = if piece.kind = .endOfInput
        then take ⟨piece.run.headD ' ', .behind (before ++ piece.gap) piece.run⟩
        else .ok (piece.token before) := by simp [accept, Piece.token]
    rw [List.append_assoc before piece.text] at onward
    rw [List.flatMap_cons, List.append_assoc, placed, List.mapM_cons, taken]
    by_cases unknown : piece.kind = .endOfInput
    · rw [Piece.found, if_pos unknown] at scanned
      rw [if_pos unknown]
      cases accepted : take ⟨piece.run.headD ' ', .behind (before ++ piece.gap) piece.run⟩ with
      | error stop =>
        rw [cut_of_stop scanned accepted]
        rfl
      | ok token =>
        rw [cut_of_token (.inr ⟨_, scanned, accepted⟩), onward]
        exact map_cons token _ _
    · rw [Piece.found, if_neg unknown] at scanned
      rw [if_neg unknown, cut_of_token (.inl scanned), onward]
      exact map_cons _ _ _

private theorem accept_asEnd (before : List Char) (piece : Piece) :
    accept (fun unknown => (.ok unknown.asEnd : Except Empty Token)) (piece.token before) =
      .ok (piece.token before) := by
  obtain ⟨gap, blank, kind, run, lexeme⟩ := piece
  by_cases unknown : kind = .endOfInput
  · subst unknown
    obtain ⟨ch, rfl⟩ : ∃ ch, run = [ch] := by
      cases lexeme
      exact ⟨_, rfl⟩
    rw [accept, if_pos (by rfl), UnknownChar.asEnd, String.singleton_eq_ofList]
    simp [Piece.token]
  · simp [accept, Piece.token, unknown]

private theorem mapM_accept_asEnd (before : List Char) (pieces : List Piece) :
    (placed before pieces).mapM (accept fun unknown => (.ok unknown.asEnd : Except Empty Token)) =
      .ok (placed before pieces) := by
  induction pieces generalizing before with
  | nil => rfl
  | cons piece pieces ih =>
    rw [placed, List.mapM_cons, accept_asEnd, ih]
    rfl

/-- The tokens are kept, up to the first that stands for an unknown character. -/
private theorem mapM_accept_error (tokens : List Token) :
    tokens.mapM (accept Except.error) =
      match tokens.find? (·.kind = .endOfInput) with
      | none => .ok tokens
      | some stop => .error ⟨stop.text.toList.headD ' ', stop.span⟩ := by
  induction tokens with
  | nil => rfl
  | cons token tokens ih =>
    rw [List.mapM_cons, ih, List.find?_cons]
    by_cases ended : token.kind = .endOfInput
    · simp [accept, ended, bind, Except.bind]
    · rw [accept, if_neg ended]
      simp only [ended, decide_false]
      cases tokens.find? (·.kind = .endOfInput) <;> rfl

end Lexing

open Lexing

theorem ofText_eq_between (source : String) : Cursor.ofText source = .between [] source.toList := rfl

/-- Every cut of a text into pieces tells its tokens. -/
theorem tokenize_eq {source : String} (cut : Segmentation source.toList) :
    Source.tokenize source = cut.tokens := by
  have cuts := cut_pieces (fun unknown => (.ok unknown.asEnd : Except Empty Token)) []
    cut.apart cut.blank
  rw [mapM_accept_asEnd, List.nil_append, cut.whole, ← ofText_eq_between] at cuts
  unfold Source.tokenize Lexing.tokens
  split
  next all after outcome =>
  rw [outcome] at cuts
  exact Except.ok.inj cuts

theorem tryTokenize_eq {source : String} (cut : Segmentation source.toList) :
    Source.tryTokenize source =
      match (placed [] cut.pieces).find? (·.kind = .endOfInput) with
      | none => .ok cut.tokens
      | some stop => .error ⟨stop.text.toList.headD ' ', stop.span⟩ := by
  have cuts := cut_pieces Except.error [] cut.apart cut.blank
  rw [List.nil_append, cut.whole, ← ofText_eq_between, mapM_accept_error] at cuts
  rw [Source.tryTokenize, tokens?, cuts]
  cases (placed [] cut.pieces).find? (·.kind = .endOfInput) <;> rfl

theorem tryTokenize_eq_ok {source : String} (cut : Segmentation source.toList) (tokens : List Token) :
    Source.tryTokenize source = .ok tokens ↔
      (∀ piece ∈ cut.pieces, piece.kind ≠ .endOfInput) ∧ tokens = cut.tokens := by
  have known : (placed [] cut.pieces).find? (·.kind = .endOfInput) = none ↔
      ∀ piece ∈ cut.pieces, piece.kind ≠ .endOfInput := by
    rw [List.find?_eq_none, ← List.forall_mem_map (P := (· ≠ Kind.endOfInput)), ← map_kind_placed []]
    simp
  rw [tryTokenize_eq cut, ← known]
  cases (placed [] cut.pieces).find? (·.kind = .endOfInput) <;> simp [eq_comm]

end Formula
