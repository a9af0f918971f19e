import Formula.Command

/-! An interactive session as its lines one by one, whatever reading them has given. Each
line is answered by what stands in it and by nothing else: a program on the one stream, or a
complaint on the other. So both streams are put together from the answers to the lines that
are heard, in their order, and a session that is cut in two between lines says the same as
both its parts. -/

namespace Formula

namespace Options

/-- Arguments change neither what the session says first nor what ends it. -/
structure Speaks (options : Options) : Prop where
  banner : options.banner = "Repl v0.1"
  exitWord : options.exitWord = "exit"

theorem Speaks.add {options options' : Options} {arg : String} (speaks : options.Speaks)
    (added : options.add arg = .ok options') : options'.Speaks := by
  unfold Options.add at added
  split at added
  · cases added
    exact ⟨speaks.banner, speaks.exitWord⟩
  · split at added
    · cases added
    · split at added
      · cases added
        exact ⟨speaks.banner, speaks.exitWord⟩
      · cases added

theorem Speaks.addAll {options options' : Options} {args : List String} (speaks : options.Speaks)
    (added : options.addAll args = .ok options') : options'.Speaks := by
  induction args generalizing options with
  | nil =>
    cases added
    exact speaks
  | cons arg args ih =>
    unfold Options.addAll at added
    split at added
    · next middle first => exact ih (speaks.add first) added
    · cases added

private theorem speaks_of_args {args : List String} {options : Options} (selected : ofArgs args = .ok options) :
    options.Speaks :=
  Speaks.addAll ⟨rfl, rfl⟩ selected

end Options

namespace Line

/-- A line that is not blank and in which the word "exit" stands. -/
def Leaves : Line → Prop
  | .text line => Text.isBlank line = false ∧ ∃ front back, line.toList = front ++ "exit".toList ++ back
  | .unread _ => False

instance : DecidablePred Leaves
  | .text _ => decidable_of_iff (_ ∧ _) (and_congr_right' Text.occursIn_iff)
  | .unread _ => inferInstanceAs (Decidable False)

def shown? (options : Options) : Line → Option String
  | .unread _ => none
  | .text line =>
    if Text.isBlank line then none
    else
      match options.parse line with
      | .ok program => some (program.outline.pretty ++ "\n")
      | .error _ => none

/-- What is wrong with a line, if it could not be read or is neither blank nor a program. -/
def complaint? (options : Options) : Line → Option String
  | .unread report => some ("Error: " ++ report ++ "\n")
  | .text line =>
    if Text.isBlank line then none
    else
      match options.parse line with
      | .ok _ => none
      | .error error => some (error.message ++ "\n")

end Line

namespace Session

variable {options : Options}

def heard (lines : List Line) : List Line := lines.takeWhile (¬ ·.Leaves)

def transcript (options : Options) (lines : List Line) : Output where
  stdout := String.join (lines.filterMap (Line.shown? options))
  stderr := String.join (lines.filterMap (Line.complaint? options))

theorem transcript_append (lines later : List Line) :
    transcript options (lines ++ later) = transcript options lines ++ transcript options later := by
  simp only [transcript, List.filterMap_append, String.join_append, Output.append_eq]

private theorem transcript_singleton (line : Line) :
    transcript options [line] = ⟨(line.shown? options).getD "", (line.complaint? options).getD ""⟩ := by
  have alone (text : Line → Option String) : String.join ([line].filterMap text) = (text line).getD "" := by
    cases said : text line <;> simp [said]
  rw [transcript, alone, alone]

private theorem answer_eq (speaks : options.Speaks) (line : Line) :
    answer options line = if line.Leaves then none else some (transcript options [line]) := by
  rw [transcript_singleton]
  cases line with
  | unread report => rfl
  | text line =>
    have isExit : options.isExit line = true ↔ ∃ front back, line.toList = front ++ "exit".toList ++ back := by
      rw [Options.isExit, speaks.exitWord]
      exact Text.occursIn_iff
    by_cases blank : Text.isBlank line = true
    · simp [answer, Line.shown?, Line.complaint?, Line.Leaves, blank]
    · by_cases exits : options.isExit line = true
      · have leaves : (Line.text line).Leaves := ⟨by simpa using blank, isExit.mp exits⟩
        simp [answer, blank, exits, leaves]
      · have stays : ¬ (Line.text line).Leaves := fun leaves => exits (isExit.mpr leaves.2)
        simp only [answer, Line.shown?, Line.complaint?, if_neg blank, if_neg exits, if_neg stays]
        cases options.parse line <;> rfl

theorem heard_cons_of_leaves {line : Line} (leaves : line.Leaves) (lines : List Line) :
    heard (line :: lines) = [] := by
  simp [heard, leaves]

theorem heard_append {lines : List Line} (stays : ∀ line ∈ lines, ¬ line.Leaves) (later : List Line) :
    heard (lines ++ later) = lines ++ heard later :=
  List.takeWhile_append_of_pos (by simpa using stays)

private theorem heard_of_leaves {line : Line} (leaves : line.Leaves) (lines later : List Line) :
    heard (lines ++ line :: later) = heard lines := by
  induction lines with
  | nil => exact heard_cons_of_leaves leaves later
  | cons first lines ih =>
    simp only [heard, List.cons_append, List.takeWhile_cons] at ih ⊢
    rw [ih]

end Session

namespace Command

open Session

variable {options : Options} {read : String → Except ReadError ByteArray}

private theorem outcome_awaitsLine (speaks : options.Speaks) (lines : List Line) :
    outcome read (.awaitsLine options) lines = ⟨0, transcript options (heard lines)⟩ := by
  induction lines with
  | nil => rfl
  | cons line lines ih =>
    have answered := answer_eq speaks line
    by_cases leaves : line.Leaves
    · rw [if_pos leaves] at answered
      simp [outcome, onLine, answered, heard_cons_of_leaves leaves, transcript]
    · rw [if_neg leaves] at answered
      have more : heard ([line] ++ lines) = [line] ++ heard lines := heard_append (by simpa using leaves) lines
      rw [List.singleton_append] at more
      simp only [outcome, onLine, Option.bind_some, answered, ih, more, Outcome.behind, transcript_append]

private theorem run_of_interactive {args : List String} (selected : Options.ofArgs args = .ok options)
    (interactive : options.mode = .interactive) (lines : List Line) :
    run args read lines = ⟨0, (transcript options (heard lines)).stdout,
      "\nRepl v0.1\n" ++ (transcript options (heard lines)).stderr⟩ := by
  have speaks := Options.speaks_of_args selected
  simp [run, start, selected, interactive, outcome_awaitsLine speaks, Outcome.behind, greeting, speaks.banner,
    Output.append_eq]

end Command

open Session Command in
/-- A session that the arguments ask for always ends well, whatever lines it is given. It
shows the programs and complains of the errors of the lines it hears, in their order, and of
nothing else. What stands behind the line that ends it does not count. Where no line ends it,
it goes on as another session would that has said its banner already. -/
theorem session_in_order (args : List String) (options : Options) (read : String → Except ReadError ByteArray)
    (selected : Options.ofArgs args = .ok options) (interactive : options.mode = .interactive) :
    (∀ lines, (run args read lines).exit = 0 ∧
      (run args read lines).output.stdout = String.join ((heard lines).filterMap (Line.shown? options)) ∧
      (run args read lines).output.stderr =
        "\nRepl v0.1\n" ++ String.join ((heard lines).filterMap (Line.complaint? options))) ∧
    (∀ lines line later, line.Leaves → run args read (lines ++ line :: later) = run args read lines) ∧
    ∀ lines later, (∀ line ∈ lines, ¬ line.Leaves) → ∃ said,
      (run args read later).output.stderr = "\nRepl v0.1\n" ++ said ∧
        (run args read (lines ++ later)).output =
          (run args read lines).output ++ ⟨(run args read later).output.stdout, said⟩ := by
  have outcome (lines : List Line) := @run_of_interactive options read args selected interactive lines
  refine ⟨fun lines => ?_, fun lines line later leaves => ?_, fun lines later stays => ?_⟩
  · rw [outcome]
    exact ⟨rfl, rfl, rfl⟩
  · rw [outcome, outcome, heard_of_leaves leaves]
  · refine ⟨(transcript options (heard later)).stderr, by rw [outcome], ?_⟩
    have all : heard lines = lines := by simpa [heard] using heard_append stays []
    simp only [outcome, heard_append stays, all, transcript_append, Output.append_eq, String.append_assoc]

namespace Session

/-- A name, a number, a line that is no text, the word that ends it, and another number. -/
def mixed : List Line := [.text "y", .text "1", .unread Line.undecodableReport, .text "exit", .text "2"]

def permissive : Options := { policy := .permissive }

/-- A session with mercy on unknown characters. -/
def talk (lines : List Line) : Outcome := Command.run ["--permissive"] (fun _ => .error .missing) lines

/-- The name alone is no program, and the last line is not heard. -/
theorem session_in_order_mixed :
    Options.ofArgs ["--permissive"] = .ok permissive ∧ permissive.mode = .interactive ∧ (talk mixed).exit = 0 ∧
      (talk mixed).output.stdout = (Program.outline ⟨[.number (.nearest false 1 1)]⟩).pretty ++ "\n" ∧
      (talk mixed).output.stderr =
        "\nRepl v0.1\n" ++
          ("Parser Error: Unexpected token found after the identifier. Expect equals =; " ++
            "found end of input at Ln 1 - Expecting: '='\n" ++ ("Error: " ++ Line.undecodableReport ++ "\n")) ∧
      Line.Leaves (.text "exit") ∧
      talk ([.text "y"] ++ .text "exit" :: [.text "2"]) = talk [.text "y"] ∧
      (∀ line ∈ [Line.text "y"], ¬ line.Leaves) ∧
      ∃ said, (talk [.text "1"]).output.stderr = "\nRepl v0.1\n" ++ said ∧
        (talk ([.text "y"] ++ [.text "1"])).output =
          (talk [.text "y"]).output ++ ⟨(talk [.text "1"]).output.stdout, said⟩ := by
  have selected : Options.ofArgs ["--permissive"] = .ok permissive := rfl
  obtain ⟨streams, leaving, going⟩ :=
    session_in_order ["--permissive"] permissive (fun _ => .error .missing) selected rfl
  obtain ⟨exit, stdout, stderr⟩ := streams mixed
  have heard : heard mixed = [.text "y", .text "1", .unread Line.undecodableReport] := by decide +kernel
  have shown : [Line.text "y", .text "1", .unread Line.undecodableReport].filterMap (Line.shown? permissive) =
      [(Program.outline ⟨[.number (.nearest false 1 1)]⟩).pretty ++ "\n"] := by decide +kernel
  have complaints :
      [Line.text "y", .text "1", .unread Line.undecodableReport].filterMap (Line.complaint? permissive) =
        ["Parser Error: Unexpected token found after the identifier. Expect equals =; " ++
          "found end of input at Ln 1 - Expecting: '='\n", "Error: " ++ Line.undecodableReport ++ "\n"] := by
    decide +kernel
  have leaves : Line.Leaves (.text "exit") := by decide +kernel
  have stays : ∀ line ∈ [Line.text "y"], ¬ line.Leaves := by decide +kernel
  rw [heard, shown] at stdout
  rw [heard, complaints] at stderr
  exact ⟨selected, rfl, exit, stdout.trans (by simp), stderr.trans (by simp), leaves, leaving _ _ _ leaves, stays,
    going _ _ stays⟩

end Session
end Formula
