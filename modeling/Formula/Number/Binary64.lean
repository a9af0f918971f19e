/-! The numbers a formula holds: binary floating point with 64 bits, kept as a
sign and a magnitude. The magnitude is the exponent and the fraction field read
as one natural number, so that finite values, infinity and the undefined results
follow each other in one order. Values are measured in units of `2 ^ -1074`, the
least positive number: every finite value is a whole number of them. -/

namespace Formula

-- Powers of natural numbers are those of the core library, whatever else is imported.
attribute [instance (high), default_instance (high)] instPowNat

structure Binary64 where
  negative : Bool
  magnitude : Nat
  inside : magnitude < 2 ^ 63
deriving DecidableEq

namespace Binary64

/-- The magnitude of an infinite number. Greater ones stand for no number. -/
def infinite : Nat := 2047 * 2 ^ 52

def isNaN (x : Binary64) : Bool := infinite < x.magnitude

def isInfinite (x : Binary64) : Bool := x.magnitude = infinite

def isZero (x : Binary64) : Bool := x.magnitude = 0

def toBits (x : Binary64) : Nat := (if x.negative then 2 ^ 63 else 0) + x.magnitude

def ofBits (bits : Nat) : Binary64 where
  negative := bits / 2 ^ 63 % 2 = 1
  magnitude := bits % 2 ^ 63
  inside := Nat.mod_lt _ (by decide)

/-- The value of a finite magnitude in units. Below `2 ^ 52` they agree; from
there on each step of the exponent field doubles the distance between values. -/
def units (magnitude : Nat) : Nat :=
  if magnitude < 2 ^ 52 then magnitude
  else (2 ^ 52 + magnitude % 2 ^ 52) * 2 ^ (magnitude / 2 ^ 52 - 1)

/-- Equality of numbers: both zeros are one number, and what is no number is
equal to nothing. -/
def equals (x y : Binary64) : Bool :=
  !x.isNaN && !y.isNaN && (x == y || (x.isZero && y.isZero))

/-- The whole number nearest to `num / den`, and of two the even one. -/
def roundDiv (num den : Nat) : Nat :=
  if den < 2 * (num % den) ∨ (2 * (num % den) = den ∧ num / den % 2 = 1) then num / den + 1
  else num / den

/-- The magnitude nearest to `num / den`. A quotient that fills more than 53
bits in units is rounded at the 53rd, and a carry out of that place runs into
the exponent field, which is where it belongs. -/
def round (num den : Nat) : Nat :=
  let scaled := num * 2 ^ 1074
  let spare := (scaled / den).log2 - 52
  min infinite (spare * 2 ^ 52 + roundDiv scaled (den * 2 ^ spare))

theorem round_le (num den : Nat) : round num den ≤ infinite := Nat.min_le_left _ _

def nearest (negative : Bool) (num den : Nat) : Binary64 where
  negative
  magnitude := round num den
  inside := Nat.lt_of_le_of_lt (round_le num den) (by decide)

def infinity (negative : Bool) : Binary64 := ⟨negative, infinite, by decide⟩

/-- A quiet undefined result. -/
def nan (negative : Bool) : Binary64 := ⟨negative, infinite + 2 ^ 51, by decide⟩

@[simp] theorem ofBits_toBits (x : Binary64) : ofBits x.toBits = x := by
  obtain ⟨negative, magnitude, inside⟩ := x
  cases negative <;> simp [ofBits, toBits] <;> omega

/-- The nearest whole number is at most half a unit away. -/
theorem roundDiv_near (num den : Nat) (positive : 0 < den) :
    2 * (roundDiv num den * den) ≤ 2 * num + den ∧ 2 * num ≤ 2 * (roundDiv num den * den) + den := by
  have split := Nat.div_add_mod' num den
  have small := Nat.mod_lt num positive
  unfold roundDiv
  split
  · rw [Nat.add_mul, Nat.one_mul]; omega
  · omega

end Binary64
end Formula
