import Formula.Describe
import Formula.Options
import Formula.Text.Blank

/-! An interactive session reads one line after the other and answers each by
itself: nothing of a line is remembered when the next one comes. How lines are read
is left open; what counts is what reading each of them gives. -/

namespace Formula

/-- A line, or the report of why it could not be read. -/
inductive Line where
  | text (line : String)
  | unread (report : String)
deriving DecidableEq

def Line.undecodableReport : String :=
  "Io(Error \x7b kind: InvalidData, message: \"stream did not contain valid UTF-8\" \x7d)"

structure Output where
  stdout : String := ""
  stderr : String := ""
deriving DecidableEq

namespace Output

def append (first second : Output) : Output :=
  ⟨first.stdout ++ second.stdout, first.stderr ++ second.stderr⟩

instance : Append Output := ⟨append⟩

theorem append_eq (first second : Output) :
    first ++ second = ⟨first.stdout ++ second.stdout, first.stderr ++ second.stderr⟩ := rfl

end Output

namespace Session

def shown (program : Program) : String := program.outline.pretty ++ "\n"

/-- The answer to one line, or nothing if it ends the session. -/
def answer (options : Options) : Line → Option Output
  | .unread report => some ⟨"", "Error: " ++ report ++ "\n"⟩
  | .text line =>
    if Text.isBlank line then some ⟨"", ""⟩
    else if options.isExit line then none
    else
      match options.parse line with
      | .ok program => some ⟨shown program, ""⟩
      | .error error => some ⟨"", error.message ++ "\n"⟩

def greeting (options : Options) : Output := ⟨"", "\n" ++ options.banner ++ "\n"⟩

end Session
end Formula
