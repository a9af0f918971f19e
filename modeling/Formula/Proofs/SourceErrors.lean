import Formula.Proofs.GrammarNumerals
import Formula.Proofs.GrammarTruthfulness
import Formula.Proofs.LexingUnknown
import Formula.Proofs.PrintingImage

/-! What an error can be that is found in a text. Every list of tokens that is cut from a
text has an end, so there always is a token to blame, and it has a place in the text. The
texts of numbers and of operators are what the grammar takes them for, so none of them is
ever at fault; and an operator is only blamed where an operand or an equals sign is missing. -/

namespace Formula

namespace Lexing

variable {text : List Char}

/-- What stands in front of the token at `i`: the pieces before it, and its gap. -/
def Segmentation.ahead (cut : Segmentation text) (i : Nat) : List Char :=
  (cut.pieces.take i).flatMap Piece.text ++ (cut.pieces[i]?.map Piece.gap).getD cut.last

private theorem length_placed (before : List Char) (pieces : List Piece) :
    (placed before pieces).length = pieces.length := by
  rw [← List.length_map Token.kind, map_kind_placed, List.length_map]

private theorem getElem?_placed (before : List Char) (pieces : List Piece) (i : Nat) :
    (placed before pieces)[i]? =
      pieces[i]?.map (Piece.token (before ++ (pieces.take i).flatMap Piece.text)) := by
  induction pieces generalizing before i with
  | nil => rfl
  | cons piece pieces ih =>
    cases i with
    | zero => simp [placed]
    | succ i => simp [placed, ih]

private theorem Segmentation.place_of_getElem? (cut : Segmentation text) {i : Nat} {token : Token}
    (here : cut.tokens[i]? = some token) :
    token.span = .behind (cut.ahead i) token.text.toList ∧ cut.ahead i ++ token.text.toList <+: text := by
  rw [Segmentation.tokens, List.getElem?_append, length_placed] at here
  split at here
  · next inside =>
    have next := List.getElem?_eq_getElem inside
    rw [getElem?_placed, next] at here
    obtain rfl := Option.some.inj here
    have split : cut.pieces = cut.pieces.take i ++ cut.pieces[i] :: cut.pieces.drop (i + 1) := by
      rw [← List.drop_eq_getElem_cons inside, List.take_append_drop]
    have whole := cut.whole
    rw [split, List.flatMap_append, List.flatMap_cons] at whole
    rw [ahead, next, Piece.token, String.toList_ofList]
    refine ⟨rfl, (cut.pieces.drop (i + 1)).flatMap Piece.text ++ cut.last, ?_⟩
    calc
      _ = _ := by simp [Piece.text]
      _ = text := whole
  · next past =>
    obtain ⟨short, isLast⟩ := List.getElem?_eq_some_iff.mp here
    obtain rfl : i = cut.pieces.length := by
      rw [List.length_singleton] at short
      omega
    obtain rfl := List.mem_singleton.mp (List.mem_of_getElem? here)
    have all : cut.ahead cut.pieces.length = text := by
      rw [ahead, List.take_length, List.getElem?_eq_none (Nat.le_refl _)]
      exact cut.whole
    rw [all, String.toList_empty, List.append_nil]
    exact ⟨rfl, List.prefix_rfl⟩

end Lexing
/-- An operator is not blamed for closing no group, so it stands behind what leads on, or
where a name is given no value. -/
private theorem Diagnosis.eq_nil_or_sign {front : List Token} {error : ParseError} {token : Token}
    {op : Operator}
    (diagnosis : Diagnosis front error) (recurs : error.Recurs error.found) (found : error.found = some token)
    (isOperator : token.operator? = some op) :
    front = [] ∨ ∃ lead sign, front = lead ++ [sign] ∧
      (sign.kind.leadsOn = true ∨ sign.kind = .identifier ∧ error.expected = some .equals) := by
  cases diagnosis with
  | first => exact .inl rfl
  | operand leadsOn => exact .inr ⟨_, _, rfl, .inl leadsOn⟩
  | name isConst => exact .inr ⟨_, _, rfl, .inl (by rw [isConst]; rfl)⟩
  | equals isName => exact .inr ⟨_, _, rfl, .inr ⟨isName, rfl⟩⟩
  | closing isOpen =>
    have none := ((ParseError.recurs_iff rfl).mp recurs token found).2 rfl
    rw [isOperator] at none
    cases none

namespace Breakdown

variable {limit : Nat} {tokens : List Token} {error : ParseError}

private theorem proper_before (parts : Breakdown limit tokens error) :
    ∀ token ∈ parts.before, token.kind.inPhrases = true := by
  have proper := Phrases.proper_statement (Phrases.proper_group limit)
  intro token inside
  rcases List.mem_append.mp inside with earlier | begun
  · obtain ⟨d, -, member⟩ := List.mem_flatMap.mp earlier
    exact proper d token member
  · obtain ⟨d, more, completed⟩ := parts.blame.begins
    apply proper d token
    rw [completed]
    exact List.mem_append_left _ begun

private theorem exists_found (parts : Breakdown limit tokens error) {stop : Token} (ends : stop ∈ tokens)
    (isEnd : stop.kind = .endOfInput) : ∃ token, error.found = some token := by
  refine Option.ne_none_iff_exists'.mp fun nothing => ?_
  have empty : parts.back = [] := by
    rw [← List.head?_eq_none_iff, ← parts.blame.found, nothing]
  rw [parts.tokens_eq, empty, List.append_nil] at ends
  have proper := parts.proper_before stop ends
  rw [isEnd] at proper
  cases proper

private theorem eq_zero_or_sign (parts : Breakdown limit tokens error) {token : Token} {op : Operator}
    (found : error.found = some token) (isOperator : token.operator? = some op) :
    parts.before.length = 0 ∨ ∃ j sign, parts.before.length = j + 1 ∧ tokens[j]? = some sign ∧
      (sign.kind.leadsOn = true ∨ sign.kind = .identifier ∧ error.expected = some .equals) := by
  rcases parts.blame.diagnosis.eq_nil_or_sign parts.blame.recurs found isOperator with
    empty | ⟨lead, sign, front, about⟩
  · -- behind a statement no operator would be at fault, it would go on with it
    rcases parts.behind with none | rests
    · left
      rw [before, none, empty]
      rfl
    · have next : State.current ⟨parts.front ++ parts.back, 0⟩ = some token := by
        rw [empty, ← found, parts.blame.found]
        rfl
      have other := State.rests_all_iff.mp rests token next
      rw [isOperator] at other
      cases other
  · obtain ⟨j, place, here⟩ := parts.getElem?_last front
    exact .inr ⟨j, sign, place, here, about⟩

private theorem ne_numeral (parts : Breakdown limit tokens error)
    (readable : ∀ token, error.found = some token → token.kind = .number →
      ∃ value, Binary64.read? token.text = some value) :
    error.reason.message ≠ "Expected a valid numeric literal" := by
  intro said
  have same : error.reason = .numeralInvalid :=
    Reason.message_injective parts.blame.diagnosis.ne_stated (by simp) said
  obtain ⟨token, found, isNumber, refused⟩ := isJudged_of_failed parts.offends.failed same
  obtain ⟨value, read⟩ := readable token found isNumber
  rw [refused] at read
  cases read

end Breakdown

theorem ParseError.describeFound_of_line {token : Token} (line : 0 < token.span.line) :
    describeFound (some token) = "; found " ++ token.describe ++ " at Ln " ++ toString token.span.line := by
  rw [describeFound, if_pos line]

private theorem Token.length_describe_pos (token : Token) : 0 < token.describe.length := by
  have named : 0 < token.kind.describe.length := by cases token.kind <;> decide
  unfold Token.describe
  split
  · exact named
  · simp only [String.length_append]
    omega

/-- To name a token and its line takes longer than to say that there is nothing. -/
private theorem ParseError.describeFound_ne {token : Token} (line : 0 < token.span.line) :
    describeFound (some token) ≠ "; found nothing" := by
  intro same
  have length := congrArg String.length same
  have named := token.length_describe_pos
  have fixed : "; found nothing".length = 15 ∧ "; found ".length = 8 ∧ " at Ln ".length = 7 := by decide
  rw [describeFound_of_line line] at length
  simp only [String.length_append, fixed] at length
  omega

open Lexing (Segmentation)

/-- What is reported of a text: a token of its own, with the place where it stands. -/
structure Reported {text : List Char} (cut : Segmentation text) (error : ParseError) (i : Nat) (token : Token) :
    Prop where
  offends : Offends parseTokens cut.tokens error i
  here : cut.tokens[i]? = some token
  found : error.found = some token
  place : cut.ahead i ++ token.text.toList <+: text
  line : token.span.line = 1 + (cut.ahead i).count '\n'
  message : error.message = "Parser Error: " ++ error.reason.message ++
    ("; found " ++ token.describe ++ " at Ln " ++ toString token.span.line) ++
      ParseError.describeExpected error.expected
  something : ParseError.describeFound error.found ≠ "; found nothing"
  numeral : error.reason.message ≠ "Expected a valid numeric literal"
  operator : token.kind = .binaryOperator → i = 0 ∨ ∃ j sign, i = j + 1 ∧ cut.tokens[j]? = some sign ∧
    (sign.kind.leadsOn = true ∨ sign.kind = .identifier ∧ error.expected = some .equals)

private theorem exists_reported {text : List Char} (cut : Segmentation text) {error : ParseError}
    (failed : parseTokens cut.tokens = .error error) : ∃ i token, Reported cut error i token := by
  obtain ⟨parts⟩ := exists_breakdown failed
  obtain ⟨token, found⟩ := parts.exists_found (List.mem_append_right _ (List.mem_singleton_self _)) rfl
  have here := parts.getElem?_before.trans found
  have lexed := isLexed_of_mem_tokens cut (List.mem_of_getElem? here)
  obtain ⟨place, whole⟩ := cut.place_of_getElem? here
  have line : token.span.line = 1 + (cut.ahead parts.before.length).count '\n' := by
    rw [place]
    rfl
  have named : 0 < token.span.line := by omega
  refine ⟨parts.before.length, token, parts.offends, here, found, whole, line, ?_, ?_, ?_, ?_⟩
  · unfold ParseError.message
    rw [found, ParseError.describeFound_of_line named]
  · rw [found]
    exact ParseError.describeFound_ne named
  · apply parts.ne_numeral
    intro other same isNumber
    obtain rfl := Option.some.inj (found.symm.trans same)
    exact (lexed (by rw [isNumber]; decide)).exists_value isNumber
  · intro isOperator
    obtain ⟨op, known⟩ := (lexed (by rw [isOperator]; decide)).exists_operator isOperator
    exact parts.eq_zero_or_sign found known

/-- The operators in a text are all known. An error that is found in a text, with unknown
characters let through or not, is about a token of the text and says on which line it is. -/
theorem parse_eq_error_reported :
    (∀ source, ∀ token ∈ Source.tokenize source, token.kind = .binaryOperator →
      ∃ op, token.operator? = some op) ∧
    ∀ source error,
      Source.parse source = .error error ∨ Source.parseStrict source = .error (.parse error) →
        ∃ (cut : Segmentation source.toList) (i : Nat) (token : Token),
          Source.tokenize source = cut.tokens ∧ Reported cut error i token := by
  constructor
  · intro source token inside isOperator
    obtain ⟨cut⟩ := Lexing.exists_segmentation source.toList
    rw [tokenize_eq cut] at inside
    exact (isLexed_of_mem_tokens cut inside (by rw [isOperator]; decide)).exists_operator isOperator
  · intro source error failed
    have same : Source.parse source = .error error := by
      rcases failed with failed | failed
      · exact failed
      · exact parse_of_parseStrict failed
    obtain ⟨cut⟩ := Lexing.exists_segmentation source.toList
    have tokens := tokenize_eq cut
    rw [Source.parse, tokens] at same
    obtain ⟨i, token, reported⟩ := exists_reported cut same
    exact ⟨cut, i, token, tokens, reported⟩

/-- An operand is missing on the second line, in front of an operator. -/
theorem parse_eq_error_reported_star :
    ∃ star : Token, star.span.line = 2 ∧ star ∈ Source.tokenize "x = (1 +\n * 2)" ∧
      (∃ op, star.operator? = some op) ∧
      Source.parse "x = (1 +\n * 2)" = .error ⟨.unexpected, some star, none⟩ ∧
      ∃ (cut : Segmentation "x = (1 +\n * 2)".toList) (i : Nat),
        Reported cut ⟨.unexpected, some star, none⟩ i star := by
  let star : Token := ⟨.binaryOperator, "*", ⟨10, 11, 2⟩⟩
  have inside : star ∈ Source.tokenize "x = (1 +\n * 2)" := by decide +kernel
  have failed : Source.parse "x = (1 +\n * 2)" = .error ⟨.unexpected, some star, none⟩ := by decide +kernel
  obtain ⟨known, reported⟩ := parse_eq_error_reported
  obtain ⟨cut, i, token, -, about⟩ := reported _ _ (.inl failed)
  obtain rfl := Option.some.inj about.found
  exact ⟨star, rfl, inside, known _ star inside rfl, failed, cut, i, about⟩

end Formula
