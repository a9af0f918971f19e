import Formula.Command
import Formula.Proofs.OptionsArguments

/-! What the command does where it does not go on to read lines: it shows the one program and
nothing else, or it complains of the one thing that went wrong and shows nothing. Which of these
it is depends on the arguments and on the file that they name, and not on the standard input. -/

namespace Formula

namespace Failure

def name : Failure → String
  | parse _ => "ParseError"
  | read _ => "IoError"
  | usage _ => "UsageError"

def text : Failure → String
  | parse text | read text | usage text => text

def report (failure : Failure) : String :=
  "Error: " ++ failure.name ++ "(" ++ Text.quoted failure.text ++ ")\n"

private theorem outline_eq (failure : Failure) :
    failure.outline = .tuple failure.name [.atom (Text.quoted failure.text)] := by
  cases failure <;> rfl

end Failure

private theorem Outcome.ofFailure_eq (failure : Failure) : ofFailure failure = ⟨1, "", failure.report⟩ := by
  have tuple (head text : String) : (Outline.tuple head [.atom text]).compact = head ++ "(" ++ text ++ ")" := by
    simp [Outline.compact_eq, Outline.tuple, Outline.render, Outline.renderAll, Layout.opening, Layout.closing,
      Layout.inner, Layout.lead, Layout.trail]
  have line : ")" ++ "\n" = ")\n" := rfl
  simp only [ofFailure, Failure.outline_eq, tuple, Failure.report, String.append_assoc, line]

namespace Options

variable {args : List String}

/-- The options are the usual ones but for what the arguments say. -/
structure Follows (options : Options) (args : List String) : Prop where
  usual : options = { policy := options.policy, mode := options.mode }
  policy : options.policy = .permissive ↔ "--permissive" ∈ args
  interactive : options.mode = .interactive ↔ paths args = []
  batch : ∀ path, options.mode = .batch path ↔ paths args = [path]

private theorem follows_asked (good : Good args) : (asked args).Follows args where
  usual := rfl
  policy := by
    rw [asked]
    split <;> simp [*]
  interactive := by
    rw [asked]
    cases paths args <;> simp
  batch path := by
    have few := (good_iff.mp good).2
    rw [asked]
    cases found : paths args with
    | nil => simp
    | cons first more =>
      rw [found] at few
      obtain rfl : more = [] := List.length_eq_zero_iff.mp (Nat.le_zero.mp (Nat.le_of_succ_le_succ few))
      simp

def complaint (arg : String) : String :=
  if IsFlag arg then "unknown option '" ++ arg ++ "'" else "expected at most one input file"

private theorem message_fault (arg : String) : (fault arg).message = complaint arg := by
  rw [fault, complaint]
  split <;> rfl

theorem ofArgs_cases (args : List String) :
    (Good args ∧ ofArgs args = .ok (asked args)) ∨
      ∃ front arg, FirstBad args front arg ∧ ofArgs args = .error (fault arg) := by
  by_cases good : Good args
  · exact .inl ⟨good, ofArgs_of_good good⟩
  · obtain ⟨front, arg, firstBad⟩ := exists_firstBad good
    exact .inr ⟨front, arg, firstBad, ofArgs_of_firstBad firstBad⟩

theorem ofArgs_eq_ok_iff {options : Options} :
    ofArgs args = .ok options ↔ Good args ∧ options = asked args := by
  rcases ofArgs_cases args with ⟨good, read⟩ | ⟨front, arg, firstBad, read⟩
  · simp [read, good, eq_comm]
  · have bad : ¬ Good args := fun good => good front arg firstBad.here firstBad.bad
    simp [read, bad]

private theorem ofArgs_perm {args' : List String} (perm : args.Perm args') (options : Options) :
    ofArgs args = .ok options ↔ ofArgs args' = .ok options := by
  rw [ofArgs_eq_ok_iff, ofArgs_eq_ok_iff]
  constructor
  · rintro ⟨good, rfl⟩
    exact good.perm perm
  · rintro ⟨good, rfl⟩
    exact good.perm perm.symm

end Options

namespace Command

theorem decode_eq_ok_iff {bytes : ByteArray} {text : String} :
    decode bytes = .ok text ↔ bytes = text.toUTF8 := by
  unfold decode String.fromUTF8?
  constructor
  · intro decoded
    split at decoded
    · next found read =>
      cases decoded
      split at read
      · cases read
        rfl
      · cases read
    · cases decoded
  · rintro rfl
    rw [String.toUTF8_eq_toByteArray, dif_pos text.isValidUTF8]
    rfl

private theorem decode_eq_error {bytes : ByteArray} (noText : ∀ text : String, bytes ≠ text.toUTF8) :
    decode bytes = .error .undecodable := by
  cases decoded : decode bytes with
  | ok text => exact absurd (decode_eq_ok_iff.mp decoded) (noText text)
  | error error =>
    unfold decode at decoded
    split at decoded
    · cases decoded
    · exact decoded.symm

/-- The file that the arguments name holds a program, and nothing else. -/
def Delivers (args : List String) (read : String → Except ReadError ByteArray) (program : Program) : Prop :=
  ∃ options path text, Options.ofArgs args = .ok options ∧ options.mode = .batch path ∧
    read path = .ok text.toUTF8 ∧ options.parse text = .ok program

/-- What keeps a program from being shown. -/
inductive Fails (args : List String) (read : String → Except ReadError ByteArray) : Failure → Prop where
  | usage {error : UsageError} (refused : Options.ofArgs args = .error error) :
      Fails args read (.usage error.message)
  | unread {options : Options} {path : String} {error : ReadError}
      (accepted : Options.ofArgs args = .ok options) (batch : options.mode = .batch path)
      (unread : read path = .error error) :
      Fails args read (.read error.message)
  | undecodable {options : Options} {path : String} {bytes : ByteArray}
      (accepted : Options.ofArgs args = .ok options) (batch : options.mode = .batch path)
      (found : read path = .ok bytes) (noText : ∀ text : String, bytes ≠ text.toUTF8) :
      Fails args read (.read "stream did not contain valid UTF-8")
  | source {options : Options} {path text : String} {error : SourceError}
      (accepted : Options.ofArgs args = .ok options) (batch : options.mode = .batch path)
      (found : read path = .ok text.toUTF8) (refused : options.parse text = .error error) :
      Fails args read (.parse error.message)

section

variable {args : List String} {read : String → Except ReadError ByteArray} {options : Options} {path : String}

theorem run_of_batch (accepted : Options.ofArgs args = .ok options) (batch : options.mode = .batch path)
    (lines : List Line) : run args read lines = Command.batch options (read path) := by
  simp only [run, start, accepted, batch, outcome, Outcome.behind_nothing]

private theorem run_of_refused {error : UsageError} (refused : Options.ofArgs args = .error error)
    (lines : List Line) :
    run args read lines = .ofFailure (.ofUsage error) := by
  simp [run, start, refused, Turn.finish, outcome, Outcome.behind, Output.append_eq]

theorem batch_of_text (options : Options) (text : String) :
    batch options (.ok text.toUTF8) =
      match options.parse text with
      | .error error => .ofFailure (.ofSource error)
      | .ok program => ⟨0, Session.shown program, ""⟩ := by
  have decoded : (Except.ok text.toUTF8 : Except ReadError ByteArray).bind decode = .ok text :=
    decode_eq_ok_iff.mpr rfl
  unfold batch
  split
  · next failed =>
    rw [decoded] at failed
    cases failed
  · next found =>
    rw [decoded] at found
    cases found
    rfl

theorem run_of_delivers {program : Program} (delivers : Delivers args read program) (lines : List Line) :
    run args read lines = ⟨0, program.outline.pretty ++ "\n", ""⟩ := by
  obtain ⟨options, path, text, accepted, batch, found, parsed⟩ := delivers
  rw [run_of_batch accepted batch, found, batch_of_text, parsed]
  rfl

private theorem run_of_fails {failure : Failure} (fails : Fails args read failure) (lines : List Line) :
    run args read lines = ⟨1, "", failure.report⟩ := by
  rw [← Outcome.ofFailure_eq]
  cases fails with
  | usage refused =>
    rw [run_of_refused refused]
    rfl
  | unread accepted batch unread =>
    rw [run_of_batch accepted batch, unread]
    rfl
  | undecodable accepted batch found noText =>
    have decoded : (Except.ok _ : Except ReadError ByteArray).bind decode = _ := decode_eq_error noText
    rw [run_of_batch accepted batch, found, Command.batch, decoded]
    rfl
  | source accepted batch found refused =>
    rw [run_of_batch accepted batch, found, batch_of_text, refused]
    rfl

private theorem exists_fails (read : String → Except ReadError ByteArray)
    (once : ∀ options, Options.ofArgs args = .ok options → options.mode ≠ .interactive)
    (nothing : ∀ program, ¬ Delivers args read program) : ∃ failure, Fails args read failure := by
  cases accepted : Options.ofArgs args with
  | error error => exact ⟨_, .usage accepted⟩
  | ok options =>
    cases batch : options.mode with
    | interactive => exact absurd batch (once options accepted)
    | batch path =>
      cases found : read path with
      | error error => exact ⟨_, .unread accepted batch found⟩
      | ok bytes =>
        by_cases noText : ∀ text : String, bytes ≠ text.toUTF8
        · exact ⟨_, .undecodable accepted batch found noText⟩
        · obtain ⟨text, isText⟩ : ∃ text : String, bytes = text.toUTF8 := by simpa using noText
          subst isText
          cases parsed : options.parse text with
          | error error => exact ⟨_, .source accepted batch found parsed⟩
          | ok program => exact absurd ⟨options, path, text, accepted, batch, found, parsed⟩ (nothing program)

end

open Options

/-- The arguments are refused for the first of them that is bad, and otherwise mean the same in
any order. Unless they ask for a session, the command shows a program and ends well where the
file holds one, and in all other cases shows nothing and reports what went wrong. -/
theorem run_outcome (args : List String) :
    ((∃ error, ofArgs args = .error error) ↔ ∃ front arg, front ++ [arg] <+: args ∧ IsBad front arg) ∧
    (∀ error, ofArgs args = .error error →
      ∃ front arg, FirstBad args front arg ∧ error.message = complaint arg) ∧
    (∀ options, ofArgs args = .ok options → options.Follows args) ∧
    (∀ args', args.Perm args' → ∀ options, ofArgs args = .ok options ↔ ofArgs args' = .ok options) ∧
    ((∀ options, ofArgs args = .ok options → options.mode ≠ .interactive) → ∀ read lines,
      (∀ program, Delivers args read program →
        run args read lines = ⟨0, program.outline.pretty ++ "\n", ""⟩) ∧
      ((∀ program, ¬ Delivers args read program) →
        ∃ failure, Fails args read failure ∧ run args read lines = ⟨1, "", failure.report⟩)) := by
  refine ⟨?_, fun error refused => ?_, fun options accepted => ?_, fun args' perm => ofArgs_perm perm,
    fun once read lines => ⟨fun program delivers => run_of_delivers delivers lines, fun nothing => ?_⟩⟩
  · constructor
    · rintro ⟨error, refused⟩
      rcases ofArgs_cases args with ⟨good, accepted⟩ | ⟨front, arg, firstBad, -⟩
      · rw [accepted] at refused
        cases refused
      · exact ⟨front, arg, firstBad.here, firstBad.bad⟩
    · rintro ⟨front, arg, here, bad⟩
      obtain ⟨front, arg, firstBad⟩ := exists_firstBad fun good : Good args => good front arg here bad
      exact ⟨_, ofArgs_of_firstBad firstBad⟩
  · rcases ofArgs_cases args with ⟨good, accepted⟩ | ⟨front, arg, firstBad, refused'⟩
    · rw [accepted] at refused
      cases refused
    · rw [refused'] at refused
      cases refused
      exact ⟨front, arg, firstBad, message_fault arg⟩
  · obtain ⟨good, rfl⟩ := ofArgs_eq_ok_iff.mp accepted
    exact follows_asked good
  · obtain ⟨failure, fails⟩ := exists_fails read once nothing
    exact ⟨failure, fails, run_of_fails fails lines⟩

def sheet (path : String) : Except ReadError ByteArray :=
  if path = "sum" then .ok "1 $".toUTF8 else .error .missing

/-- The file can be read with mercy, wherever that is asked for. Another file is missing, and an
unknown option is noticed before a second path. -/
theorem run_outcome_sheet :
    Follows { policy := .permissive, mode := .batch "sum" } ["sum", "--permissive"] ∧
      ofArgs ["--permissive", "sum"] = .ok { policy := .permissive, mode := .batch "sum" } ∧
      run ["sum", "--permissive"] sheet [] =
        ⟨0, (Program.outline ⟨[.number (.nearest false 1 1)]⟩).pretty ++ "\n", ""⟩ ∧
      (∃ failure, Fails ["none"] sheet failure ∧ run ["none"] sheet [] = ⟨1, "", failure.report⟩) ∧
      ∃ front arg, FirstBad ["sum", "--strict", "more"] front arg ∧
        (UsageError.unknownOption "--strict").message = complaint arg := by
  have accepted : ofArgs ["sum", "--permissive"] = .ok { policy := .permissive, mode := .batch "sum" } := by
    decide +kernel
  obtain ⟨-, -, follows, reordered, outcome⟩ := run_outcome ["sum", "--permissive"]
  have once : ∀ options, ofArgs ["sum", "--permissive"] = .ok options → options.mode ≠ .interactive := by
    rw [accepted]
    rintro options ⟨⟩
    decide
  have delivers : Delivers ["sum", "--permissive"] sheet ⟨[.number (.nearest false 1 1)]⟩ :=
    ⟨_, "sum", "1 $", accepted, rfl, rfl, by decide +kernel⟩
  have single : ofArgs ["none"] = .ok { mode := .batch "none" } := by decide +kernel
  have once' : ∀ options, ofArgs ["none"] = .ok options → options.mode ≠ .interactive := by
    rw [single]
    rintro options ⟨⟩
    decide
  have nothing : ∀ program, ¬ Delivers ["none"] sheet program := by
    rintro program ⟨options, path, text, accepted, batch, found, -⟩
    rw [single] at accepted
    cases accepted
    cases batch
    cases found
  have refused : ofArgs ["sum", "--strict", "more"] = .error (.unknownOption "--strict") := by decide +kernel
  exact ⟨follows _ accepted, (reordered _ (.swap _ _ _) _).mp accepted, (outcome once sheet []).1 _ delivers,
    ((run_outcome ["none"]).2.2.2.2 once' sheet []).2 nothing,
    (run_outcome ["sum", "--strict", "more"]).2.1 _ refused⟩

end Command
end Formula
