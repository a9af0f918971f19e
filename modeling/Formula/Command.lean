import Formula.Failure
import Formula.Session

/-! The command goes from stage to stage. At each it is done or waits for something
from outside, a file or a line, and what comes decides what it writes and which stage
is next. Where all that will come is known beforehand, this makes a function from it
to what is written and to the code the command exits with. -/

namespace Formula

structure Outcome where
  exit : UInt32
  output : Output
deriving DecidableEq

namespace Outcome

def ofFailure (failure : Failure) : Outcome :=
  ⟨1, "", "Error: " ++ failure.outline.compact ++ "\n"⟩

def behind (outcome : Outcome) (output : Output) : Outcome :=
  { outcome with output := output ++ outcome.output }

@[simp] theorem behind_nothing (outcome : Outcome) : outcome.behind {} = outcome := by
  simp [behind, Output.append_eq]

end Outcome

namespace Command

inductive Stage where
  | finished (exit : UInt32)
  | awaitsFile (options : Options) (path : String)
  | awaitsLine (options : Options)

structure Turn where
  output : Output
  next : Stage

def Turn.finish (outcome : Outcome) : Turn := ⟨outcome.output, .finished outcome.exit⟩

def start (args : List String) : Turn :=
  match Options.ofArgs args with
  | .error error => .finish (.ofFailure (.ofUsage error))
  | .ok options =>
    match options.mode with
    | .batch path => ⟨{}, .awaitsFile options path⟩
    | .interactive => ⟨Session.greeting options, .awaitsLine options⟩

def decode (bytes : ByteArray) : Except ReadError String :=
  match String.fromUTF8? bytes with
  | some text => .ok text
  | none => .error .undecodable

def batch (options : Options) (content : Except ReadError ByteArray) : Outcome :=
  match content.bind decode with
  | .error error => .ofFailure (.ofRead error)
  | .ok text =>
    match options.parse text with
    | .error error => .ofFailure (.ofSource error)
    | .ok program => ⟨0, Session.shown program, ""⟩

def onFile (options : Options) (content : Except ReadError ByteArray) : Turn := .finish (batch options content)

def onLine (options : Options) (line : Option Line) : Turn :=
  match line.bind (Session.answer options) with
  | none => ⟨{}, .finished 0⟩
  | some output => ⟨output, .awaitsLine options⟩

/-- All stages from one on, given the files and the lines that are still to be read. -/
def outcome (read : String → Except ReadError ByteArray) : Stage → List Line → Outcome
  | .finished exit, _ => ⟨exit, {}⟩
  | .awaitsFile options path, _ => batch options (read path)
  | .awaitsLine _, [] => ⟨0, {}⟩
  | .awaitsLine options, line :: lines =>
    let turn := onLine options (some line)
    (outcome read turn.next lines).behind turn.output

def run (args : List String) (read : String → Except ReadError ByteArray) (lines : List Line) : Outcome :=
  (outcome read (start args).next lines).behind (start args).output

end Command
end Formula
