import Formula.Proofs.GrammarLikeness
import Formula.Proofs.LexingConcatenation

/-! Where a program is cut off. The first end of the input in a list of tokens cuts off
all that stands behind it, and in front of it the list reads as if it ended there. An
unknown character cuts a text in the same way; only an error that blames the end of the
text then blames the unknown character instead, which stands at the same place. -/

namespace Formula

open Lexing

variable {last stop : Token}

private theorem parseTokens_behind_end (front back back' : List Token) (isEnd : stop.kind = .endOfInput) :
    parseTokens (front ++ stop :: back) = parseTokens (front ++ stop :: back') := by
  have keeps : Keeps (@Eq Token) := fun _ _ same => same ▸ ⟨rfl, fun _ => rfl⟩
  have same : List.Forall₂ Eq front front := List.forall₂_same.mpr fun _ _ => rfl
  exact (parseTokens_matching keeps (.append same (.stop rfl isEnd))).eq

/-- The tokens of two texts that go the same way and end in different ends. -/
def Swapped (last stop token token' : Token) : Prop :=
  token.kind ≠ .endOfInput ∧ token = token' ∨ token = last ∧ token' = stop

private theorem keeps_swapped (isLast : last.kind = .endOfInput) (isStop : stop.kind = .endOfInput) :
    Keeps (Swapped last stop) := by
  intro token token' swapped
  rcases swapped with ⟨-, rfl⟩ | ⟨rfl, rfl⟩
  · exact ⟨rfl, fun _ => rfl⟩
  · exact ⟨isLast.trans isStop.symm, by simp [isLast, Kind.isSpelled]⟩

/-- The error where the tokens end with `stop`, beside the error where they end with
`last` instead. -/
structure ParseError.Recast (last stop : Token) (error error' : ParseError) : Prop where
  reason : error'.reason = error.reason
  expected : error'.expected = error.expected
  found : error'.found = error.found.map fun token => if token = last then stop else token

theorem ParseError.Matching.recast {error error' : ParseError} (isLast : last.kind = .endOfInput)
    (failed : error.Matching (Swapped last stop) error') : error.Recast last stop error' := by
  obtain ⟨reason, found, expected⟩ := error
  obtain ⟨reason', found', expected'⟩ := error'
  obtain ⟨rfl, swapped, rfl⟩ := failed
  refine ⟨rfl, rfl, ?_⟩
  cases swapped with
  | none => rfl
  | @some token token' swapped =>
    rcases swapped with ⟨other, rfl⟩ | ⟨rfl, rfl⟩
    · have apart : token ≠ last := by
        rintro rfl
        exact other isLast
      simp [apart]
    · simp

private theorem parseTokens_swapped {front : List Token} (back back' : List Token)
    (isLast : last.kind = .endOfInput)
    (isStop : stop.kind = .endOfInput) (inside : ∀ token ∈ front, token.kind ≠ .endOfInput) :
    Results (Swapped last stop) Eq (parseTokens (front ++ last :: back)) (parseTokens (front ++ stop :: back')) := by
  have same : List.Forall₂ (Swapped last stop) front front :=
    List.forall₂_same.mpr fun token member => .inl ⟨inside token member, rfl⟩
  exact parseTokens_matching (keeps_swapped isLast isStop) (.append same (.stop (.inr ⟨rfl, rfl⟩) isLast))

/-- The first end of the input cuts off what stands behind it, and an unknown character
is such an end. -/
theorem cut_at_first_end :
    (∀ front back back' stop, (∀ token ∈ front, token.kind ≠ .endOfInput) → stop.kind = .endOfInput →
      parseTokens (front ++ stop :: back) = parseTokens (front ++ stop :: back') ∧
        ∀ program, parseTokens (front ++ stop :: back) = .ok program ↔ parseTokens front = .ok program) ∧
    ∀ front back ch, (∀ ch ∈ front.toList, ¬ IsUnknown ch) → IsUnknown ch →
      let source := front ++ String.singleton ch ++ back
      (∀ program, Source.parse source = .ok program ↔ Source.parse front = .ok program) ∧
        ∃ last stop, (Source.tokenize front).getLast? = some last ∧ last.kind = .endOfInput ∧ last.text = "" ∧
          Source.firstUnknown? source = some stop ∧ stop.kind = .endOfInput ∧
          stop.text = String.singleton ch ∧
          stop.span.start = last.span.start ∧ stop.span.line = last.span.line ∧
          ∀ error error', Source.parse front = .error error → Source.parse source = .error error' →
            error.Recast last stop error' := by
  constructor
  · intro front back back' stop inside isEnd
    exact ⟨parseTokens_behind_end front back back' isEnd, parseTokens_before_end back isEnd inside⟩
  · intro front back ch known unknown
    -- Both texts have the same tokens up to their ends, and these stand at the same place.
    obtain ⟨tokens, later, inside, ends, stops⟩ := tokenize_unknown back known unknown
    let last : Token := ⟨.endOfInput, "", .behind front.toList []⟩
    let stop : Token := ⟨.endOfInput, String.singleton ch, .behind front.toList [ch]⟩
    have results : Results (Swapped last stop) Eq (Source.parse front)
        (Source.parse (front ++ String.singleton ch ++ back)) := by
      rw [Source.parse, Source.parse, ends, stops]
      exact parseTokens_swapped [] later rfl rfl inside
    have first : Source.firstUnknown? (front ++ String.singleton ch ++ back) = some stop := by
      have nothing : tokens.find? Token.isUnknown = none :=
        List.find?_eq_none.mpr fun token member => by simp [Token.isUnknown, inside token member]
      have found : stop.isUnknown = true := by simp [stop, Token.isUnknown]
      rw [Source.firstUnknown?, stops, List.find?_append, nothing, Option.none_or,
        List.find?_cons_of_pos found]
    refine ⟨fun program => (results.ok_iff program).symm, last, stop, ?_, rfl, rfl, first, rfl, rfl, rfl, rfl, ?_⟩
    · rw [ends, List.getLast?_concat]
    · intro error error' fails fails'
      exact (results.failed fails fails').recast rfl

def one : Token := ⟨.number, "1", .empty⟩

/-- The sum would go on behind the unknown character, but nothing of that is read. -/
theorem dollar_cuts_sum :
    (∀ token ∈ [one], token.kind ≠ .endOfInput) ∧
      parseTokens [one, .endOfInput, one] = parseTokens [one, .endOfInput] ∧
      (∀ ch ∈ "x = (1 +\n".toList, ¬ IsUnknown ch) ∧ IsUnknown '$' ∧
      Source.parse "x = (1 +\n" = .error ⟨.unexpected, some ⟨.endOfInput, "", ⟨9, 9, 2⟩⟩, none⟩ ∧
      ∃ last stop, (Source.tokenize "x = (1 +\n").getLast? = some last ∧
        Source.firstUnknown? "x = (1 +\n$ 2)" = some stop ∧
        ∀ error', Source.parse "x = (1 +\n$ 2)" = .error error' →
          ParseError.Recast last stop ⟨.unexpected, some ⟨.endOfInput, "", ⟨9, 9, 2⟩⟩, none⟩ error' := by
  have inside : ∀ token ∈ [one], token.kind ≠ .endOfInput := by decide
  have nothing : Source.firstUnknown? "x = (1 +\n" = none := by decide +kernel
  have known : ∀ ch ∈ "x = (1 +\n".toList, ¬ IsUnknown ch := by
    intro ch inside unknown
    have found := (isSome_firstUnknown_iff "x = (1 +\n").mpr ⟨ch, inside, unknown⟩
    rw [nothing] at found
    cases found
  have unknown : IsUnknown '$' := by decide
  have failed : Source.parse "x = (1 +\n" =
      .error ⟨.unexpected, some ⟨.endOfInput, "", ⟨9, 9, 2⟩⟩, none⟩ :=
    parseWithin_eq_error_iff.mpr (by decide +kernel)
  have spelled : "x = (1 +\n" ++ String.singleton '$' ++ " 2)" = "x = (1 +\n$ 2)" := by decide
  obtain ⟨-, last, stop, ends, -, -, first, -, -, -, -, recast⟩ :=
    cut_at_first_end.2 "x = (1 +\n" " 2)" '$' known unknown
  rw [spelled] at first recast
  exact ⟨inside, (cut_at_first_end.1 [one] [one] [] .endOfInput inside rfl).1, known, unknown, failed,
    last, stop, ends, first, fun error' fails' => recast _ error' failed fails'⟩

end Formula
