import Formula.Options
import Formula.Outline
import Formula.Text.Quoted

/-! What ends the command with an error. -/

namespace Formula

inductive ReadError where
  | missing
  | notDirectory
  | directory
  | nameTooLong
  | undecodable
  | other (text : String)
deriving DecidableEq

def ReadError.message : ReadError → String
  | missing => "No such file or directory (os error 2)"
  | notDirectory => "Not a directory (os error 20)"
  | directory => "Is a directory (os error 21)"
  | nameTooLong => "File name too long (os error 36)"
  | undecodable => "stream did not contain valid UTF-8"
  | other text => text

inductive LineStop where
  | endOfInput
  | interrupted
deriving DecidableEq

def LineStop.message : LineStop → String
  | endOfInput => "EOF"
  | interrupted => "Interrupted"

inductive Failure where
  | parse (text : String)
  | read (text : String)
  | usage (text : String)
deriving DecidableEq

namespace Failure

def ofSource (error : SourceError) : Failure := .parse error.message

def ofRead (error : ReadError) : Failure := .read error.message

def ofLine (stop : LineStop) : Failure := .read stop.message

def ofUsage (error : UsageError) : Failure := .usage error.message

def message : Failure → String
  | parse text => text
  | read text => "I/O error: " ++ text
  | usage text => "usage: arith [--permissive] [FILE]: " ++ text

def outline : Failure → Outline
  | parse text => .tuple "ParseError" [.atom (Text.quoted text)]
  | read text => .tuple "IoError" [.atom (Text.quoted text)]
  | usage text => .tuple "UsageError" [.atom (Text.quoted text)]

end Failure
end Formula
