import Formula.Proofs.NumberReading

/-! Numbers that are written with digits alone: the whole ones, and infinity, which is
what too many digits denote. Rounding gives back a magnitude whose units are all of the
number, and what it gives for a whole number is again whole, because the places it drops
are empty as long as the units of one are among them. -/

namespace Formula
namespace Binary64

/-- A number without a sign that is infinite or has no part smaller than one. -/
def IsWhole (x : Binary64) : Prop :=
  x.negative = false ∧ (x.magnitude = infinite ∨ x.magnitude < infinite ∧ 2 ^ 1074 ∣ units x.magnitude)

/-- A whole number that rounds to `x`. For infinity it is one with digits enough. -/
def whole (x : Binary64) : Nat := if x.magnitude = infinite then 10 ^ 309 else units x.magnitude / 2 ^ 1074

def digits (x : Binary64) : List Char := Nat.toDigits 10 x.whole

theorem digits_ne_nil (x : Binary64) : x.digits ≠ [] := Nat.toDigits_ne_nil

theorem all_isDigit_digits (x : Binary64) : x.digits.all Char.isDigit = true := Reading.all_isDigit_toDigits x.whole

/-- From `2 ^ 52` on a magnitude is a whole number of 53 bits, moved `spare` places. A
carry out of the bits is the next place. -/
theorem units_moved {spare bits : Nat} (least : 2 ^ 52 ≤ bits) (most : bits ≤ 2 ^ 53) :
    units (spare * 2 ^ 52 + bits) = bits * 2 ^ spare := by
  rw [units, if_neg (by omega)]
  rcases Nat.lt_or_eq_of_le most with inside | rfl
  · have place : (spare * 2 ^ 52 + bits) / 2 ^ 52 - 1 = spare := by omega
    have fraction : 2 ^ 52 + (spare * 2 ^ 52 + bits) % 2 ^ 52 = bits := by omega
    rw [place, fraction]
  · have place : (spare * 2 ^ 52 + 2 ^ 53) / 2 ^ 52 - 1 = spare + 1 := by omega
    have fraction : 2 ^ 52 + (spare * 2 ^ 52 + 2 ^ 53) % 2 ^ 52 = 2 ^ 52 := by omega
    have same : 52 + (spare + 1) = 53 + spare := by omega
    rw [place, fraction, ← Nat.pow_add, ← Nat.pow_add, same]

theorem exists_moved {m : Nat} (ordinary : 2 ^ 52 ≤ m) :
    ∃ spare bits, m = spare * 2 ^ 52 + bits ∧ 2 ^ 52 ≤ bits ∧ bits < 2 ^ 53 :=
  ⟨m / 2 ^ 52 - 1, 2 ^ 52 + m % 2 ^ 52, by omega, by omega, by omega⟩

private theorem log2_moved {spare bits : Nat} (least : 2 ^ 52 ≤ bits) (most : bits < 2 ^ 53) :
    (bits * 2 ^ spare).log2 = spare + 52 := by
  have positive : 0 < bits * 2 ^ spare := Nat.mul_pos (by omega) (Nat.two_pow_pos spare)
  refine (Nat.log2_eq_iff (by omega)).mpr ⟨?_, ?_⟩
  · rw [Nat.pow_add, Nat.mul_comm]
    exact Nat.mul_le_mul_right _ least
  · rw [Nat.add_assoc, Nat.pow_add, Nat.mul_comm]
    exact Nat.mul_lt_mul_of_pos_left most (Nat.two_pow_pos spare)

theorem roundDiv_mul (num : Nat) {den : Nat} (positive : 0 < den) : roundDiv (num * den) den = num := by
  rw [roundDiv, if_neg, Nat.mul_div_cancel num positive]
  rw [Nat.mul_mod_left]
  omega

theorem roundDiv_between (num den : Nat) :
    num / den ≤ roundDiv num den ∧ roundDiv num den ≤ num / den + 1 := by
  unfold roundDiv
  split <;> omega

theorem log2_ones {n one spare : Nat} (positive : 0 < n) (far : 52 ≤ one)
    (found : (n * 2 ^ one).log2 - 52 = spare) : (n * 2 ^ one).log2 = spare + 52 := by
  have some : n * 2 ^ one ≠ 0 := Nat.mul_ne_zero (by omega) (Nat.ne_of_gt (Nat.two_pow_pos one))
  have least : one ≤ (n * 2 ^ one).log2 := (Nat.le_log2 some).mpr (Nat.le_mul_of_pos_left _ positive)
  omega

theorem div_moved {v spare : Nat} (length : v.log2 = spare + 52) :
    2 ^ 52 ≤ v / 2 ^ spare ∧ v / 2 ^ spare < 2 ^ 53 := by
  have some : v ≠ 0 := by
    rintro rfl
    simp at length
  obtain ⟨above, below⟩ := (Nat.log2_eq_iff some).mp length
  rw [Nat.pow_add, Nat.mul_comm] at above
  rw [Nat.add_assoc, Nat.pow_add, Nat.mul_comm] at below
  constructor
  · exact (Nat.le_div_iff_mul_le (Nat.two_pow_pos spare)).mpr above
  · exact (Nat.div_lt_iff_lt_mul (Nat.two_pow_pos spare)).mpr below

/-- What is kept of `n` ones, of `2 ^ one` units each, is a number of 53 bits and is
again a number of ones. -/
private theorem ones_moved {n one spare : Nat} (positive : 0 < n) (far : 52 ≤ one)
    (found : (n * 2 ^ one).log2 - 52 = spare) :
    2 ^ 52 ≤ roundDiv (n * 2 ^ one) (2 ^ spare) ∧ roundDiv (n * 2 ^ one) (2 ^ spare) ≤ 2 ^ 53 ∧
      2 ^ one ∣ roundDiv (n * 2 ^ one) (2 ^ spare) * 2 ^ spare := by
  obtain ⟨enough, room⟩ := div_moved (log2_ones positive far found)
  have between := roundDiv_between (n * 2 ^ one) (2 ^ spare)
  refine ⟨by omega, by omega, ?_⟩
  by_cases dropped : one ≤ spare
  · exact Nat.dvd_mul_left_of_dvd (Nat.pow_dvd_pow 2 dropped) _
  · -- the places that are dropped are the empty ones of the units
    have kept : n * 2 ^ one = n * 2 ^ (one - spare) * 2 ^ spare := by
      rw [Nat.mul_assoc, ← Nat.pow_add, Nat.sub_add_cancel (by omega)]
    rw [kept, roundDiv_mul _ (Nat.two_pow_pos spare), ← kept]
    exact Nat.dvd_mul_left _ _

private theorem exists_places (m : Nat) :
    ∃ spare bits, m = spare * 2 ^ 52 + bits ∧ units m = bits * 2 ^ spare ∧ (units m).log2 - 52 = spare := by
  by_cases small : m < 2 ^ 52
  · refine ⟨0, m, by omega, by rw [units, if_pos small, Nat.pow_zero, Nat.mul_one], ?_⟩
    rw [units, if_pos small]
    rcases Nat.eq_zero_or_pos m with rfl | positive
    · decide
    · have length := (Nat.log2_lt (Nat.ne_of_gt positive)).mpr small
      omega
  · obtain ⟨spare, bits, rfl, least, most⟩ := exists_moved (Nat.le_of_not_lt small)
    have value := @units_moved spare bits least (Nat.le_of_lt most)
    exact ⟨spare, bits, rfl, value, by rw [value, log2_moved least most, Nat.add_sub_cancel]⟩

/-- A quotient that is a magnitude's value is rounded to that magnitude. -/
theorem round_value {m num den : Nat} (finite : m ≤ infinite) (positive : 0 < den)
    (same : num * 2 ^ 1074 = units m * den) : round num den = m := by
  obtain ⟨spare, bits, place, value, found⟩ := exists_places m
  have whole : roundDiv (units m * den) (den * 2 ^ spare) = bits := by
    rw [value, Nat.mul_assoc, Nat.mul_comm (2 ^ spare) den]
    exact roundDiv_mul bits (Nat.mul_pos positive (Nat.two_pow_pos spare))
  unfold round
  simp only [same, Nat.mul_div_cancel _ positive, found, whole, ← place]
  exact Nat.min_eq_right finite

theorem round_moved {n spare : Nat} (found : (n * 2 ^ 1074).log2 - 52 = spare) :
    round n 1 = min infinite (spare * 2 ^ 52 + roundDiv (n * 2 ^ 1074) (2 ^ spare)) := by
  simp only [round, Nat.div_one, found, Nat.one_mul]

private theorem round_whole (n : Nat) :
    round n 1 = infinite ∨ round n 1 < infinite ∧ 2 ^ 1074 ∣ units (round n 1) := by
  rcases Nat.eq_zero_or_pos n with rfl | positive
  · decide +kernel
  obtain ⟨spare, found⟩ : ∃ spare, (n * 2 ^ 1074).log2 - 52 = spare := ⟨_, rfl⟩
  obtain ⟨least, most, divides⟩ := ones_moved positive (by decide) found
  have rounded := round_moved found
  generalize roundDiv (n * 2 ^ 1074) (2 ^ spare) = bits at least most divides rounded
  rw [rounded]
  rcases Nat.lt_or_ge (spare * 2 ^ 52 + bits) infinite with finite | great
  · rw [Nat.min_eq_right (Nat.le_of_lt finite), units_moved least most]
    exact .inr ⟨finite, divides⟩
  · exact .inl (Nat.min_eq_left great)

theorem IsWhole.isNaN {x : Binary64} (isWhole : x.IsWhole) : x.isNaN = false := by
  apply decide_eq_false
  rcases isWhole.2 with infinite | ⟨finite, -⟩
  · exact Nat.not_lt_of_le (Nat.le_of_eq infinite)
  · exact Nat.not_lt_of_le (Nat.le_of_lt finite)

private theorem isWhole_nearest (n : Nat) : (nearest false n 1).IsWhole := ⟨rfl, round_whole n⟩

private theorem IsWhole.nearest_whole {x : Binary64} (isWhole : x.IsWhole) : nearest false x.whole 1 = x := by
  have rounded : round x.whole 1 = x.magnitude := by
    rcases isWhole.2 with infinite | ⟨finite, divides⟩
    · rw [whole, if_pos infinite, infinite]
      decide +kernel
    · apply round_value (Nat.le_of_lt finite) Nat.one_pos
      rw [whole, if_neg (Nat.ne_of_lt finite), Nat.div_mul_cancel divides, Nat.mul_one]
  obtain ⟨negative, magnitude, inside⟩ := x
  obtain rfl : negative = false := isWhole.1
  simp only [nearest, rounded]

theorem read?_of_digits {run : List Char} (filled : run ≠ []) (digits : run.all Char.isDigit = true) :
    read? (String.ofList run) = some (nearest false (Reading.natural run) 1) := by
  have decimal := @Reading.decimal?_plain run [] filled digits nofun
  rw [List.append_nil] at decimal
  simpa [Decimal.toBinary64] using read?_of_decimal? false decimal

theorem isWhole_of_read? {run : List Char} {x : Binary64} (filled : run ≠ [])
    (digits : run.all Char.isDigit = true) (read : read? (String.ofList run) = some x) : x.IsWhole := by
  rw [read?_of_digits filled digits] at read
  exact Option.some.inj read ▸ isWhole_nearest _

theorem IsWhole.read?_digits {x : Binary64} (isWhole : x.IsWhole) :
    read? (String.ofList x.digits) = some x := by
  rw [read?_of_digits x.digits_ne_nil x.all_isDigit_digits, digits, Reading.natural_toDigits,
    isWhole.nearest_whole]

end Binary64
end Formula
