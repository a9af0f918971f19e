import Formula.Number.Binary64

/-! Numbers in decimal: whole digits and a power of ten. -/

namespace Formula

structure Decimal where
  digits : Nat
  exponent : Int
deriving DecidableEq

namespace Decimal

/-- The magnitude of the nearest binary number, of two the even one. -/
def magnitude (d : Decimal) : Nat :=
  Binary64.round (d.digits * 10 ^ d.exponent.toNat) (10 ^ (-d.exponent).toNat)

def toBinary64 (negative : Bool) (d : Decimal) : Binary64 :=
  Binary64.nearest negative (d.digits * 10 ^ d.exponent.toNat) (10 ^ (-d.exponent).toNat)

/-- The decimals with `places` digits on either side of the positive value
`units`, the nearer one first; of two as near, the greater one. With
`units * 10 ^ 324 / 2 ^ 1074` of length `k` the value lies below
`10 ^ (k - 324)` and not below a tenth of it, so `places` digits end at
`10 ^ (k - 324 - places)`. -/
def neighbours (units places : Nat) : List Decimal :=
  let length := (Nat.toDigits 10 (units * 10 ^ 324 / 2 ^ 1074)).length
  let num := units * 10 ^ (324 + places)
  let den := 2 ^ 1074 * 10 ^ length
  let exponent : Int := length - 324 - places
  let below : Decimal := ⟨num / den, exponent⟩
  let above : Decimal := ⟨num / den + 1, exponent⟩
  if den ≤ 2 * (num % den) then [above, below] else [below, above]

def exact (units : Nat) : Decimal := ⟨units * 5 ^ 1074, -1074⟩

/-- The decimal with the fewest digits that rounds to a finite magnitude other
than zero, and of those the nearest to it. Seventeen digits are always enough;
the exact value stands behind them, so that what is returned rounds back
whatever that count may be. -/
def shortest (magnitude : Nat) : Decimal :=
  ((List.range 17).findSome? fun more =>
      (neighbours (Binary64.units magnitude) (more + 1)).find? (·.magnitude = magnitude)).getD
    (exact (Binary64.units magnitude))

end Decimal
end Formula
