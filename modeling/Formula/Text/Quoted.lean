import Formula.Text.Printable

/-! Text in double quotes, on one line and with nothing hidden: the quote, the
backslash and what is not printable are written as escapes. -/

namespace Formula.Text

def codeEscape (ch : Char) : List Char :=
  ['\\', 'u', '\x7b'] ++ Nat.toDigits 16 ch.toNat ++ ['\x7d']

def escape (ch : Char) : List Char :=
  if ch = '\x00' then ['\\', '0']
  else if ch = '\t' then ['\\', 't']
  else if ch = '\n' then ['\\', 'n']
  else if ch = '\r' then ['\\', 'r']
  else if ch = '"' then ['\\', '"']
  else if ch = '\\' then ['\\', '\\']
  else if isPrintable ch then [ch]
  else codeEscape ch

def quoted (text : String) : String :=
  String.ofList ('"' :: (text.toList.flatMap escape ++ ['"']))

example : quoted "a\"b" = "\"a\\\"b\"" := by decide +kernel
example : quoted "é'\x7f" = "\"é'\\u\x7b7f\x7d\"" := by decide +kernel

end Formula.Text
