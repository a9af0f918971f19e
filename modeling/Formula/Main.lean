import Formula.Command

/-! The command line: what the command waits for is read, and what it writes is written. -/

namespace Formula.Console

/-- Whether an error has the given number. Errors met on opening carry it negated. -/
def isCode (number code : UInt32) : Bool := code = number || code = 0 - number

def readBytes (path : String) : IO (Except ReadError ByteArray) := do
  try
    return .ok (← IO.FS.readBinFile path)
  catch error =>
    return .error <| match error with
      | .noFileOrDirectory .. => .missing
      | .inappropriateType _ code _ => if isCode 21 code then .directory else .notDirectory
      | .invalidArgument _ code _ =>
        if isCode 36 code then .nameTooLong else .other (toString error)
      | error => .other (toString error)

def toLine (bytes : ByteArray) : Line :=
  match String.fromUTF8? bytes with
  | some line => .text line
  | none => .unread Line.undecodableReport

/-- A carriage return in front of a line feed is part of the line's end. -/
def withoutReturn (bytes : ByteArray) : ByteArray :=
  if bytes.toList.getLast? = some 13 then bytes.extract 0 (bytes.size - 1) else bytes

/-- One byte at a time up to a line feed or the end of the input. -/
partial def readLine (input : IO.FS.Stream) (held : ByteArray) : IO (Option Line) := do
  match (← input.read 1).toList with
  | [] => return if held.isEmpty then none else some (toLine held)
  | byte :: _ =>
    if byte = 10 then return some (toLine (withoutReturn held))
    else readLine input (held.push byte)

def emit (output : Output) : IO Unit := do
  let stdout ← IO.getStdout
  let stderr ← IO.getStderr
  stdout.putStr output.stdout
  stdout.flush
  stderr.putStr output.stderr
  stderr.flush

partial def perform (turn : Command.Turn) : IO UInt32 := do
  emit turn.output
  match turn.next with
  | .finished exit => return exit
  | .awaitsFile options path => perform (Command.onFile options (← readBytes path))
  | .awaitsLine options => perform (Command.onLine options (← readLine (← IO.getStdin) .empty))

end Formula.Console

def main (args : List String) : IO UInt32 := Formula.Console.perform (Formula.Command.start args)
