import Formula.Source
import Formula.Text.Search

/-! What the command is asked to do: read lines as they come, or one file as a
whole, and with or without mercy on unknown characters. -/

namespace Formula

inductive Mode where
  | interactive
  | batch (path : String)
deriving DecidableEq

structure Options where
  prompt : String := "> "
  banner : String := "Repl v0.1"
  /-- A line that mentions this word ends the session. -/
  exitWord : String := "exit"
  policy : Policy := .strict
  mode : Mode := .interactive
deriving DecidableEq

inductive UsageError where
  | unknownOption (flag : String)
  | secondFile
deriving DecidableEq

def UsageError.message : UsageError → String
  | unknownOption flag => "unknown option '" ++ flag ++ "'"
  | secondFile => "expected at most one input file"

namespace Options

/-- One more argument. Whatever begins with two dashes is an option. -/
def add (options : Options) (arg : String) : Except UsageError Options :=
  if arg = "--permissive" then .ok { options with policy := .permissive }
  else if Text.beginsWith "--" arg then .error (.unknownOption arg)
  else
    match options.mode with
    | .interactive => .ok { options with mode := .batch arg }
    | .batch _ => .error .secondFile

def addAll (options : Options) : List String → Except UsageError Options
  | [] => .ok options
  | arg :: args =>
    match options.add arg with
    | .ok options => options.addAll args
    | .error error => .error error

def ofArgs (args : List String) : Except UsageError Options := addAll {} args

def parse (options : Options) (text : String) : Except SourceError Program :=
  Source.parseUnder options.policy text

def isExit (options : Options) (line : String) : Bool := Text.mentions options.exitWord line

end Options
end Formula
