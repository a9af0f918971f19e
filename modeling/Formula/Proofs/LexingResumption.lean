import Formula.Proofs.LexingUnknown

/-! Cutting goes on where an attempt has stopped. What is still to come from a cursor is
told step by step: known tokens, unknown characters, and the end of the text, where every
further step finds the end again. An attempt that fails takes the steps up to an unknown
character and no others, so the next attempt is faced with the same tokens without these. -/

namespace Formula

theorem Token.isUnknown_asEnd (unknown : UnknownChar) : unknown.asEnd.isUnknown = true := by
  have filled : String.singleton unknown.ch ≠ "" := by
    rw [ne_eq, ← String.toList_inj]
    simp
  simp [Token.isUnknown, UnknownChar.asEnd, filled]

private theorem UnknownChar.asEnd_injective {unknown other : UnknownChar} (same : unknown.asEnd = other.asEnd) :
    unknown = other := by
  obtain ⟨ch, span⟩ := unknown
  obtain ⟨ch', span'⟩ := other
  simp only [UnknownChar.asEnd, Token.mk.injEq, true_and] at same
  obtain ⟨text, rfl⟩ := same
  rw [← String.toList_inj] at text
  simpa using text

namespace Lexing

private theorem kindOf_ne_end (ch : Char) (run : List Char) : kindOf ch run ≠ some .endOfInput := by
  unfold kindOf
  split
  · nofun
  · split
    · unfold Kind.ofWord Kind.ofKeyword?
      split <;> nofun
    · unfold Kind.ofSign?
      split <;> nofun

theorem isUnknown_of_scan {cursor after : Cursor} {token : Token}
    (scanned : scan cursor = (.token token, after)) : token.isUnknown = false := by
  unfold scan at scanned
  simp only at scanned
  split at scanned
  · cases scanned
  · next ch rest comes =>
    split at scanned
    · next kind found =>
      cases scanned
      have other : kind ≠ .endOfInput := by
        rintro rfl
        exact kindOf_ne_end _ _ found
      simp [Token.isUnknown, tokenAt, other]
    · cases scanned

theorem scan_again {cursor finish : Cursor} {final : Token}
    (scanned : scan cursor = (.last final, finish)) :
    scan finish = (.last final, finish) ∧ final.isUnknown = false := by
  unfold scan at scanned
  simp only at scanned
  split at scanned
  · next ended =>
    cases scanned
    refine ⟨?_, rfl⟩
    have stays : ((cursor.takeWhile isBlank).2.takeWhile isBlank).2 = (cursor.takeWhile isBlank).2 := by
      rw [Cursor.takeWhile, ended, List.takeWhile_nil, Cursor.pass_nil]
    unfold scan
    simp only [stays]
    split
    · rfl
    · next ch rest comes =>
      rw [ended] at comes
      cases comes
  · split at scanned <;> cases scanned

/-- From the cursor on come these tokens, and the text ends at `finish`. -/
inductive Yields : Cursor → List Token → Cursor → Prop where
  | last {cursor finish : Cursor} {final : Token} (scanned : scan cursor = (.last final, finish)) :
      Yields cursor [final] finish
  | token {cursor after finish : Cursor} {token : Token} {rest : List Token}
      (scanned : scan cursor = (.token token, after)) (onward : Yields after rest finish) :
      Yields cursor (token :: rest) finish
  | unknown {cursor after finish : Cursor} {unknown : UnknownChar} {rest : List Token}
      (scanned : scan cursor = (.unknown unknown, after)) (onward : Yields after rest finish) :
      Yields cursor (unknown.asEnd :: rest) finish

private theorem exists_yields (cursor : Cursor) : ∃ tokens finish, Yields cursor tokens finish := by
  induction size : cursor.rest.length using Nat.strongRecOn generalizing cursor with
  | ind size ih =>
    subst size
    rcases scanned : scan cursor with ⟨lexeme, after⟩
    cases lexeme with
    | last final => exact ⟨_, _, .last scanned⟩
    | token token =>
      have shorter : after.rest.length < cursor.rest.length := by simpa using length_scan_lt scanned
      obtain ⟨rest, finish, onward⟩ := ih _ shorter after rfl
      exact ⟨_, _, .token scanned onward⟩
    | unknown unknown =>
      have shorter : after.rest.length < cursor.rest.length := by simpa using length_scan_lt scanned
      obtain ⟨rest, finish, onward⟩ := ih _ shorter after rfl
      exact ⟨_, _, .unknown scanned onward⟩

namespace Yields

variable {cursor finish : Cursor} {tokens : List Token}

theorem tokens_eq (yields : Yields cursor tokens finish) : Lexing.tokens cursor = (tokens, finish) := by
  have cuts : cut (fun unknown => (.ok unknown.asEnd : Except Empty Token)) cursor = (.ok tokens, finish) := by
    induction yields with
    | last scanned => exact cut_of_last scanned
    | token scanned onward ih =>
      rw [cut_of_token (.inl scanned), ih]
      rfl
    | unknown scanned onward ih =>
      rw [cut_of_token (.inr ⟨_, scanned, rfl⟩), ih]
      rfl
  unfold Lexing.tokens
  rw [cuts]

/-- Where all tokens are known, the strict policy cuts them like the other one. -/
theorem tokens?_of_known (yields : Yields cursor tokens finish)
    (known : ∀ token ∈ tokens, token.isUnknown = false) : tokens? cursor = (.ok tokens, finish) := by
  induction yields with
  | last scanned => exact cut_of_last scanned
  | token scanned onward ih =>
    have rest := ih fun token inside => known token (List.mem_cons_of_mem _ inside)
    rw [tokens?] at rest
    rw [tokens?, cut_of_token (.inl scanned), rest]
    rfl
  | @unknown _ _ _ unknown _ scanned onward ih =>
    have isUnknown := known unknown.asEnd List.mem_cons_self
    rw [Token.isUnknown_asEnd] at isUnknown
    cases isUnknown

private theorem scan_of_unknown {rest : List Token} {unknown : UnknownChar}
    (yields : Yields cursor (unknown.asEnd :: rest) finish) :
    ∃ after, scan cursor = (.unknown unknown, after) ∧ Yields after rest finish := by
  have isUnknown := Token.isUnknown_asEnd unknown
  generalize same : unknown.asEnd = token at yields isUnknown
  cases yields with
  | last scanned =>
    rw [(scan_again scanned).2] at isUnknown
    cases isUnknown
  | token scanned onward =>
    rw [isUnknown_of_scan scanned] at isUnknown
    cases isUnknown
  | unknown scanned onward =>
    obtain rfl := UnknownChar.asEnd_injective same
    exact ⟨_, scanned, onward⟩

private theorem scan_of_known {token : Token} {rest : List Token}
    (yields : Yields cursor (token :: rest) finish)
    (known : token.isUnknown = false) (more : rest ≠ []) :
    ∃ after, scan cursor = (.token token, after) ∧ Yields after rest finish := by
  cases yields with
  | last scanned => exact absurd rfl more
  | token scanned onward => exact ⟨_, scanned, onward⟩
  | unknown scanned onward =>
    rw [Token.isUnknown_asEnd] at known
    cases known

/-- It stops at the first unknown character, and what stands behind is still to come. -/
private theorem tokens?_of_unknown {front rest : List Token} {unknown : UnknownChar}
    (yields : Yields cursor (front ++ unknown.asEnd :: rest) finish)
    (known : ∀ token ∈ front, token.isUnknown = false) :
    ∃ after, tokens? cursor = (.error unknown, after) ∧ Yields after rest finish := by
  induction front generalizing cursor with
  | nil =>
    obtain ⟨after, scanned, onward⟩ := yields.scan_of_unknown
    exact ⟨after, cut_of_stop scanned rfl, onward⟩
  | cons token front ih =>
    obtain ⟨first, others⟩ := List.forall_mem_cons.mp known
    obtain ⟨middle, scanned, onward⟩ := yields.scan_of_known first (by simp)
    obtain ⟨after, stopped, further⟩ := ih onward others
    rw [tokens?] at stopped
    refine ⟨after, ?_, further⟩
    rw [tokens?, cut_of_token (.inl scanned), stopped]
    rfl

theorem again (yields : Yields cursor tokens finish) :
    ∃ front final, tokens = front ++ [final] ∧ final.isUnknown = false ∧ Yields finish [final] finish := by
  induction yields with
  | last scanned =>
    obtain ⟨again, known⟩ := scan_again scanned
    exact ⟨[], _, rfl, known, .last again⟩
  | @token _ _ _ token _ scanned onward ih =>
    obtain ⟨front, final, rfl, known, again⟩ := ih
    exact ⟨token :: front, final, rfl, known, again⟩
  | @unknown _ _ _ unknown _ scanned onward ih =>
    obtain ⟨front, final, rfl, known, again⟩ := ih
    exact ⟨unknown.asEnd :: front, final, rfl, known, again⟩

end Yields

structure Block where
  front : List Token
  known : ∀ token ∈ front, token.isUnknown = false
  stop : UnknownChar

def Block.tokens (block : Block) : List Token := block.front ++ [block.stop.asEnd]

/-- Tokens broken at their unknown characters: a block for each of these, the known tokens
behind them, and the end of the text. -/
structure Broken where
  blocks : List Block
  last : List Token
  known : ∀ token ∈ last, token.isUnknown = false
  final : Token
  ended : final.isUnknown = false

namespace Broken

def tokens (broken : Broken) : List Token :=
  broken.blocks.flatMap Block.tokens ++ broken.last ++ [broken.final]

def behind (broken : Broken) (count : Nat) : Broken := { broken with blocks := broken.blocks.drop count }

def outcome (broken : Broken) : Policy → Except UnknownChar (List Token)
  | .permissive => .ok broken.tokens
  | .strict =>
    match broken.blocks with
    | [] => .ok (broken.last ++ [broken.final])
    | block :: _ => .error block.stop

end Broken

private theorem Yields.exists_broken {cursor finish : Cursor} {tokens : List Token}
    (yields : Yields cursor tokens finish) : ∃ broken : Broken, broken.tokens = tokens := by
  induction yields with
  | @last _ _ final scanned => exact ⟨⟨[], [], nofun, final, (scan_again scanned).2⟩, rfl⟩
  | @token _ _ _ token _ scanned onward ih =>
    have first := isUnknown_of_scan scanned
    obtain ⟨⟨blocks, last, known, final, ended⟩, rfl⟩ := ih
    cases blocks with
    | nil => exact ⟨⟨[], token :: last, List.forall_mem_cons.mpr ⟨first, known⟩, final, ended⟩, rfl⟩
    | cons block blocks =>
      let wider : Block := ⟨token :: block.front, List.forall_mem_cons.mpr ⟨first, block.known⟩, block.stop⟩
      exact ⟨⟨wider :: blocks, last, known, final, ended⟩, rfl⟩
  | @unknown _ _ _ unknown _ scanned onward ih =>
    obtain ⟨⟨blocks, last, known, final, ended⟩, rfl⟩ := ih
    exact ⟨⟨⟨[], nofun, unknown⟩ :: blocks, last, known, final, ended⟩, rfl⟩

/-- An attempt comes out as its tokens say. If it is cut short, they are still to come up
to the block it has taken; otherwise the text is at its end. -/
theorem Yields.run_eq {cursor finish : Cursor} {broken : Broken} (yields : Yields cursor broken.tokens finish)
    (policy : Policy) :
    ∃ after, run policy cursor = (broken.outcome policy, after) ∧
      if (broken.outcome policy).isOk then after = finish
      else broken.blocks ≠ [] ∧ Yields after (broken.behind 1).tokens finish := by
  obtain ⟨blocks, last, known, final, ended⟩ := broken
  cases policy with
  | permissive =>
    refine ⟨finish, ?_, rfl⟩
    rw [run, yields.tokens_eq]
    rfl
  | strict =>
    cases blocks with
    | nil =>
      refine ⟨finish, yields.tokens?_of_known ?_, rfl⟩
      intro token inside
      rcases List.mem_append.mp inside with inside | inside
      · exact known token (by simpa using inside)
      · obtain rfl := List.mem_singleton.mp inside
        exact ended
    | cons block blocks =>
      have spelled : (Broken.tokens ⟨block :: blocks, last, known, final, ended⟩) =
          block.front ++ block.stop.asEnd :: (Broken.tokens ⟨blocks, last, known, final, ended⟩) := by
        simp [Broken.tokens, Block.tokens]
      rw [spelled] at yields
      obtain ⟨after, stopped, onward⟩ := yields.tokens?_of_unknown block.known
      exact ⟨after, stopped, List.cons_ne_nil _ _, onward⟩

private theorem runs_finished {finish : Cursor} {final : Token} (yields : Yields finish [final] finish)
    (known : final.isUnknown = false) (policies : List Policy) :
    runs finish policies = policies.map fun _ => .ok [final] := by
  have attempt (policy : Policy) : run policy finish = (.ok [final], finish) := by
    cases policy with
    | permissive => rw [run, yields.tokens_eq]
    | strict => exact yields.tokens?_of_known fun token inside => List.mem_singleton.mp inside ▸ known
  induction policies with
  | nil => rfl
  | cons policy policies ih =>
    rw [runs, attempt, List.map_cons]
    simp only [ih]

private theorem runs_append (cursor : Cursor) (front back : List Policy) :
    ∃ after, runs cursor (front ++ back) = runs cursor front ++ runs after back := by
  induction front generalizing cursor with
  | nil => exact ⟨cursor, rfl⟩
  | cons policy front ih =>
    obtain ⟨after, same⟩ := ih (run policy cursor).2
    exact ⟨after, congrArg ((run policy cursor).1 :: ·) same⟩

private theorem length_runs (cursor : Cursor) (policies : List Policy) :
    (runs cursor policies).length = policies.length := by
  induction policies generalizing cursor with
  | nil => rfl
  | cons policy policies ih => exact congrArg (· + 1) (ih (run policy cursor).2)

private theorem Broken.behind_behind (broken : Broken) (first more : Nat) :
    (broken.behind first).behind more = broken.behind (first + more) := by
  simp only [behind, List.drop_drop]

private theorem Yields.again_broken {cursor finish : Cursor} {broken : Broken}
    (yields : Yields cursor broken.tokens finish) : Yields finish [broken.final] finish := by
  obtain ⟨front, final, same, -, again⟩ := yields.again
  obtain ⟨-, same⟩ := List.append_inj' same rfl
  rwa [same]

/-- The next attempt after some that were all cut short, and after one that was not. -/
private theorem Yields.runs_eq {cursor finish : Cursor} {broken : Broken}
    (yields : Yields cursor broken.tokens finish)
    (front : List Policy) (policy : Policy) (back : List Policy) :
    ((runs cursor front).any Except.isOk = false → front.length ≤ broken.blocks.length ∧
      (runs cursor (front ++ policy :: back))[front.length]? = some ((broken.behind front.length).outcome policy)) ∧
    ((runs cursor front).any Except.isOk = true →
      (runs cursor (front ++ policy :: back))[front.length]? = some (.ok [broken.final])) := by
  induction front generalizing cursor broken with
  | nil =>
    obtain ⟨after, ran, -⟩ := yields.run_eq policy
    refine ⟨fun _ => ⟨Nat.zero_le _, ?_⟩, nofun⟩
    rw [List.nil_append, runs, ran]
    rfl
  | cons first front ih =>
    obtain ⟨after, ran, further⟩ := yields.run_eq first
    simp only [List.cons_append, runs, ran, List.any_cons, List.length_cons, List.getElem?_cons_succ]
    cases success : (broken.outcome first).isOk with
    | true =>
      obtain rfl : after = finish := by simpa [success] using further
      refine ⟨nofun, fun _ => ?_⟩
      rw [runs_finished yields.again_broken broken.ended]
      simp
    | false =>
      rw [success] at further
      obtain ⟨filled, onward⟩ := further
      obtain ⟨cutShort, finished⟩ := ih onward
      rw [Bool.false_or]
      refine ⟨fun failed => ?_, finished⟩
      obtain ⟨inside, next⟩ := cutShort failed
      have shorter : (broken.behind 1).blocks.length = broken.blocks.length - 1 := List.length_drop
      have remaining := List.length_pos_iff.mpr filled
      rw [broken.behind_behind, Nat.add_comm 1] at next
      exact ⟨by omega, next⟩

end Lexing

open Lexing

/-- Attempts on one text, one after the other. As long as each of them is cut short by an
unknown character, the next one is faced with what stands behind as many of these as there
were attempts; once an attempt has given tokens, all that is left is the end. -/
theorem runs_resume (source : String) :
    (∃ broken : Broken, broken.tokens = Source.tokenize source) ∧
    ∀ broken : Broken, broken.tokens = Source.tokenize source → ∀ front policy back,
      let earlier := runs (.ofText source) front
      let outcomes := runs (.ofText source) (front ++ policy :: back)
      outcomes.take front.length = earlier ∧
        (earlier.any Except.isOk = false → front.length ≤ broken.blocks.length ∧
          outcomes[front.length]? = some ((broken.behind front.length).outcome policy)) ∧
        (earlier.any Except.isOk = true → outcomes[front.length]? = some (.ok [broken.final])) := by
  obtain ⟨tokens, finish, yields⟩ := exists_yields (.ofText source)
  have whole : Source.tokenize source = tokens := congrArg Prod.fst yields.tokens_eq
  rw [whole]
  refine ⟨yields.exists_broken, ?_⟩
  rintro broken rfl front policy back
  refine ⟨?_, yields.runs_eq front policy back⟩
  obtain ⟨after, same⟩ := runs_append (.ofText source) front (policy :: back)
  rw [same, ← length_runs (.ofText source) front, List.take_left]

namespace Lexing

/-- Two numbers, each in front of an unknown character. The first of these has two bytes. -/
def accented : Broken where
  blocks := [⟨[⟨.number, "1", ⟨0, 1, 1⟩⟩], by simp [Token.isUnknown], ⟨'é', ⟨2, 4, 1⟩⟩⟩,
    ⟨[⟨.number, "2", ⟨5, 6, 2⟩⟩], by simp [Token.isUnknown], ⟨'$', ⟨6, 7, 2⟩⟩⟩]
  last := []
  known := nofun
  final := ⟨.endOfInput, "", ⟨7, 7, 2⟩⟩
  ended := rfl

end Lexing

/-- Behind the accent the other number is still to come, with the place it has in the whole
text, and behind that only the end. -/
theorem runs_resume_accented :
    accented.tokens = Source.tokenize "1 é\n2$" ∧
      (runs (.ofText "1 é\n2$") [.strict]).any Except.isOk = false ∧
      (runs (.ofText "1 é\n2$") [.strict, .permissive, .strict])[1]? =
        some (.ok [⟨.number, "2", ⟨5, 6, 2⟩⟩, ⟨.endOfInput, "$", ⟨6, 7, 2⟩⟩, ⟨.endOfInput, "", ⟨7, 7, 2⟩⟩]) ∧
      (runs (.ofText "1 é\n2$") [.strict, .permissive]).any Except.isOk = true ∧
      (runs (.ofText "1 é\n2$") [.strict, .permissive, .strict])[2]? =
        some (.ok [⟨.endOfInput, "", ⟨7, 7, 2⟩⟩]) := by
  have whole : accented.tokens = Source.tokenize "1 é\n2$" := by decide +kernel
  have cutShort : (runs (.ofText "1 é\n2$") [.strict]).any Except.isOk = false := by decide +kernel
  have finished : (runs (.ofText "1 é\n2$") [.strict, .permissive]).any Except.isOk = true := by
    decide +kernel
  have second := (runs_resume "1 é\n2$").2 accented whole [.strict] .permissive [.strict]
  have third := (runs_resume "1 é\n2$").2 accented whole [.strict, .permissive] .strict []
  exact ⟨whole, cutShort, (second.2.1 cutShort).2, finished, third.2.2 finished⟩

end Formula
