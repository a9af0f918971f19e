import Formula.Number.Decimal

/-! Reading a number from its text: an optional sign, then a word for infinity
or for no number, or digits with an optional point and an optional power of
ten. Nothing may stand before, between or behind these. -/

namespace Formula.Reading

def sign : List Char → Bool × List Char
  | '-' :: rest => (true, rest)
  | '+' :: rest => (false, rest)
  | rest => (false, rest)

def digit (ch : Char) : Nat := ch.toNat - '0'.toNat

def natural (run : List Char) : Nat := run.foldl (fun n ch => 10 * n + digit ch) 0

/-- The power of ten that a run of digits denotes. Digits that follow when 65536
is reached are not looked at. -/
def power (run : List Char) : Nat :=
  run.foldl (fun n ch => if n < 65536 then 10 * n + digit ch else n) 0

/-- What stands behind the digits: nothing, or a mark, a sign and a power. -/
def exponent? : List Char → Option Int
  | [] => some 0
  | mark :: rest =>
    if mark = 'e' ∨ mark = 'E' then
      let (negative, run) := sign rest
      if run ≠ [] ∧ run.all Char.isDigit then
        some (if negative then -(power run : Int) else power run)
      else none
    else none

def fraction : List Char → List Char × List Char
  | '.' :: rest => (rest.takeWhile Char.isDigit, rest.dropWhile Char.isDigit)
  | rest => ([], rest)

/-- Digits with a point among them or at either end; one digit is needed. -/
def decimal? (text : List Char) : Option Decimal :=
  let whole := text.takeWhile Char.isDigit
  let (part, rest) := fraction (text.dropWhile Char.isDigit)
  if whole = [] ∧ part = [] then none
  else (exponent? rest).map fun power => ⟨natural (whole ++ part), power - part.length⟩

def word? (negative : Bool) (text : List Char) : Option Binary64 :=
  let word := text.map Char.toLower
  if word = "inf".toList ∨ word = "infinity".toList then some (.infinity negative)
  else if word = "nan".toList then some (.nan negative)
  else none

end Formula.Reading

namespace Formula.Binary64

/-- The number nearest to what the text denotes, if it denotes any. -/
def read? (text : String) : Option Binary64 :=
  let (negative, rest) := Reading.sign text.toList
  (Reading.word? negative rest).or ((Reading.decimal? rest).map (·.toBinary64 negative))

example : read? "5." = some (nearest false 5 1) := by decide +kernel
example : read? "-.5e1" = some (nearest true 5 1) := by decide +kernel
example : read? "Infinity" = some (infinity false) := by decide +kernel
example : read? "." = none := by decide +kernel
example : read? "1e" = none := by decide +kernel

end Formula.Binary64
