import Formula.Number.Decimal

/-! Writing a number with the fewest digits that read back. Numbers of ordinary
size are written out and always show a point; very small and very great ones
are written with a power of ten. -/

namespace Formula.Writing

/-- The powers of ten of the leading digit for which a number is written out. -/
def isOrdinary (power : Int) : Bool := -5 < power ∧ power < 16

/-- The digits of a decimal without the zeros at their end. -/
def significant (d : Decimal) : List Char :=
  ((Nat.toDigits 10 d.digits).reverse.dropWhile (· == '0')).reverse

/-- How many places the point stands behind the first digit's left. -/
def point (d : Decimal) : Int := (Nat.toDigits 10 d.digits).length + d.exponent

def zeros (count : Nat) : List Char := List.replicate count '0'

/-- Digits written out, with the point after the first `point` of them. -/
def writtenOut (digits : List Char) (point : Int) : List Char :=
  if point ≤ 0 then '0' :: '.' :: (zeros (-point).toNat ++ digits)
  else if digits.length ≤ point.toNat then
    digits ++ zeros (point.toNat - digits.length) ++ ['.', '0']
  else digits.take point.toNat ++ '.' :: digits.drop point.toNat

def scientific (digits : List Char) (power : Int) : List Char :=
  (match digits with
    | [] => []
    | [only] => [only]
    | first :: more => first :: '.' :: more)
  ++ 'e' :: (toString power).toList

def decimal (d : Decimal) : List Char :=
  if isOrdinary (point d - 1) then writtenOut (significant d) (point d)
  else scientific (significant d) (point d - 1)

def magnitude (m : Nat) : List Char :=
  if m = Binary64.infinite then ['i', 'n', 'f']
  else if m = 0 then ['0', '.', '0']
  else decimal (.shortest m)

end Formula.Writing

namespace Formula.Binary64

/-- The text of a number. The sign of zero is shown, that of no number is not. -/
def write (x : Binary64) : String :=
  if x.isNaN then "NaN"
  else String.ofList ((if x.negative then ['-'] else []) ++ Writing.magnitude x.magnitude)

example : (nearest false 15 10).write = "1.5" := by decide +kernel
example : (nearest true 0 1).write = "-0.0" := by decide +kernel
example : (nearest false 1 (10 ^ 4)).write = "0.0001" := by decide +kernel
example : (nearest false 1 (10 ^ 5)).write = "1e-5" := by decide +kernel
example : (nearest false (10 ^ 16 - 2) 1).write = "9999999999999998.0" := by decide +kernel
example : (nearest false (10 ^ 16) 1).write = "1e16" := by decide +kernel
example : (nearest false 1 (2 ^ 1074)).write = "5e-324" := by decide +kernel
example : (infinity true).write = "-inf" := by decide +kernel

end Formula.Binary64
