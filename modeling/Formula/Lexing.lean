import Formula.Cursor
import Formula.Token

/-! Cutting a text into tokens. Blanks part tokens and are dropped; runs of
digits and runs of letters are taken as long as they go; a few signs are tokens
by themselves. Any other character is unknown, and the reader of the text says
what becomes of it. -/

namespace Formula

structure UnknownChar where
  ch : Char
  span : Span
deriving DecidableEq

def UnknownChar.message (unknown : UnknownChar) : String :=
  "unknown char '" ++ String.singleton unknown.ch ++ "' at " ++ unknown.span.describe

/-- An unknown character that is let through ends the input where it stands. -/
def UnknownChar.asEnd (unknown : UnknownChar) : Token :=
  ⟨.endOfInput, String.singleton unknown.ch, unknown.span⟩

namespace Lexing

/-- Space, tab, backspace and line feed. A carriage return is not a blank. -/
def isBlank (ch : Char) : Bool := ch == ' ' || ch == '\t' || ch == '\x08' || ch == '\n'

def isLetter (ch : Char) : Bool := ch == '_' || ch.isAlpha

inductive Lexeme where
  | last (token : Token)
  | token (token : Token)
  | unknown (unknown : UnknownChar)
deriving DecidableEq

def tokenAt (start : Cursor) (kind : Kind) (run : List Char) : Token :=
  ⟨kind, String.ofList run, start.spanTo (start.pass run)⟩

def runAt (start : Cursor) (ch : Char) : List Char :=
  if ch.isDigit then start.rest.takeWhile Char.isDigit
  else if isLetter ch then start.rest.takeWhile isLetter
  else [ch]

def kindOf (ch : Char) (run : List Char) : Option Kind :=
  if ch.isDigit then some .number
  else if isLetter ch then some (.ofWord (String.ofList run))
  else Kind.ofSign? ch

def scan (cursor : Cursor) : Lexeme × Cursor :=
  let start := (cursor.takeWhile isBlank).2
  match start.rest with
  | [] => (.last (tokenAt start .endOfInput []), start)
  | ch :: _ =>
    let run := runAt start ch
    match kindOf ch run with
    | some kind => (.token (tokenAt start kind run), start.pass run)
    | none => (.unknown ⟨ch, start.spanTo (start.pass run)⟩, start.pass run)

private theorem runAt_ne_nil {start : Cursor} {ch : Char} {rest : List Char}
    (comes : start.rest = ch :: rest) : runAt start ch ≠ [] := by
  unfold runAt
  split
  · next digit => simp [comes, digit]
  · split
    · next letter => simp [comes, letter]
    · simp

private theorem length_rest_takeWhile_le (cursor : Cursor) (accepts : Char → Bool) :
    (cursor.takeWhile accepts).2.rest.length ≤ cursor.rest.length := by
  rw [Cursor.rest_takeWhile]
  exact (List.dropWhile_suffix accepts).length_le

/-- Every lexeme but the last uses up a character. -/
theorem length_scan_lt {cursor after : Cursor} {lexeme : Lexeme}
    (scanned : scan cursor = (lexeme, after)) :
    (∃ token, lexeme = .last token) ∨ after.rest.length < cursor.rest.length := by
  have skipped := length_rest_takeWhile_le cursor isBlank
  unfold scan at scanned
  simp only at scanned
  split at scanned
  · left; exact ⟨_, (Prod.mk.inj scanned).1.symm⟩
  · next ch rest comes =>
    right
    have used : ((cursor.takeWhile isBlank).2.pass
        (runAt (cursor.takeWhile isBlank).2 ch)).rest.length < cursor.rest.length := by
      have filled := List.length_pos_iff.2 (runAt_ne_nil comes)
      have some_left : 0 < (cursor.takeWhile isBlank).2.rest.length := by simp [comes]
      simp only [Cursor.pass, List.length_drop] at *
      omega
    split at scanned <;> exact (Prod.mk.inj scanned).2 ▸ used

/-- Cut all that is left, adding to the tokens `done`, which are held latest
first. `take` says what an unknown character becomes: a token, or the end of
the attempt, which leaves the cursor right behind that character. -/
def cutOnto (take : UnknownChar → Except ε Token) (done : List Token) (cursor : Cursor) :
    Except ε (List Token) × Cursor :=
  match _scanned : scan cursor with
  | (.last token, after) => (.ok (token :: done).reverse, after)
  | (.token token, after) => cutOnto take (token :: done) after
  | (.unknown unknown, after) =>
    match take unknown with
    | .ok token => cutOnto take (token :: done) after
    | .error stop => (.error stop, after)
termination_by cursor.rest.length
decreasing_by all_goals simpa using length_scan_lt _scanned

def cut (take : UnknownChar → Except ε Token) (cursor : Cursor) :
    Except ε (List Token) × Cursor := cutOnto take [] cursor

/-- Cut all that is left; an unknown character ends the input where it stands,
and what follows it is cut all the same. -/
def tokens (cursor : Cursor) : List Token × Cursor :=
  match cut (fun unknown => (.ok unknown.asEnd : Except Empty Token)) cursor with
  | (.ok tokens, after) => (tokens, after)

def tokens? (cursor : Cursor) : Except UnknownChar (List Token) × Cursor :=
  cut .error cursor

theorem cutOnto_eq (take : UnknownChar → Except ε Token) (done : List Token) (cursor : Cursor) :
    cutOnto take done cursor =
      ((cut take cursor).1.map (done.reverse ++ ·), (cut take cursor).2) := by
  unfold cut
  induction size : cursor.rest.length using Nat.strongRecOn generalizing done cursor with
  | ind size ih =>
    subst size
    have onward (more : List Token) (after : Cursor)
        (shorter : after.rest.length < cursor.rest.length) := ih _ shorter more after rfl
    rw [cutOnto, cutOnto]
    split
    · simp [Except.map]
    · next token after scanned =>
      have shorter : after.rest.length < cursor.rest.length := by
        simpa using length_scan_lt scanned
      rw [onward _ _ shorter, onward [token] _ shorter]
      cases (cutOnto take [] after).1 <;> simp [Except.map]
    · next unknown after scanned =>
      have shorter : after.rest.length < cursor.rest.length := by
        simpa using length_scan_lt scanned
      split
      · next token _ =>
        rw [onward _ _ shorter, onward [token] _ shorter]
        cases (cutOnto take [] after).1 <;> simp [Except.map]
      · simp [Except.map]

end Lexing

/-- What a reader makes of unknown characters: an end of the input, or an error. -/
inductive Policy where
  | permissive
  | strict
deriving DecidableEq

namespace Lexing

/-- Cut all that is left under a policy. Reading can go on from the cursor that
comes back, whatever the outcome. -/
def run (policy : Policy) (cursor : Cursor) : Except UnknownChar (List Token) × Cursor :=
  match policy with
  | .permissive =>
    match tokens cursor with
    | (all, after) => (.ok all, after)
  | .strict => tokens? cursor

def runs (cursor : Cursor) : List Policy → List (Except UnknownChar (List Token))
  | [] => []
  | policy :: policies =>
    match run policy cursor with
    | (outcome, after) => outcome :: runs after policies

end Lexing
end Formula
