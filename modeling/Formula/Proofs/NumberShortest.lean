import Formula.Proofs.NumberRounding

/-! The shortest decimal of a magnitude rounds back to it. It is looked for among decimals that
do, and where none were found the exact value would stand in, which rounds to itself. What a
decimal rounds to depends on its value alone, so zeros at the end of its digits can be moved
into the exponent. -/

namespace Formula
namespace Binary64

private theorem roundDiv_scale (num den : Nat) {scale : Nat} (positive : 0 < scale) :
    roundDiv (num * scale) (den * scale) = roundDiv num den := by
  have doubled : 2 * (num % den * scale) = 2 * (num % den) * scale := (Nat.mul_assoc _ _ _).symm
  have greater : den * scale < 2 * (num % den) * scale ↔ den < 2 * (num % den) :=
    Nat.mul_lt_mul_right positive
  have tie : 2 * (num % den) * scale = den * scale ↔ 2 * (num % den) = den :=
    Nat.mul_left_inj (Nat.ne_of_gt positive)
  unfold roundDiv
  simp only [Nat.mul_div_mul_right _ _ positive, Nat.mul_mod_mul_right, doubled, greater, tie]

private theorem round_scale (num den : Nat) {scale : Nat} (positive : 0 < scale) :
    round (num * scale) (den * scale) = round num den := by
  unfold round
  simp only [Nat.mul_right_comm _ scale, Nat.mul_div_mul_right _ _ positive, roundDiv_scale _ _ positive]

private theorem units_lt {m : Nat} (finite : m < infinite) : units m < 2 ^ 1024 * 2 ^ 1074 := by
  have greatest : units infinite = 2 ^ 1024 * 2 ^ 1074 := by decide +kernel
  rw [← greatest]
  exact units_strictMono finite

end Binary64

namespace Decimal

open Binary64 (units infinite)

theorem ten_pow_pos (places : Nat) : 0 < 10 ^ places := Nat.pow_pos (by decide)

/-- Zeros behind the digits are as good as a greater exponent. -/
theorem magnitude_shift (digits places : Nat) (exponent : Int) :
    magnitude ⟨digits * 10 ^ places, exponent⟩ = magnitude ⟨digits, exponent + places⟩ := by
  -- as many of the places as can be are taken from a negative exponent
  obtain ⟨common, isCommon⟩ : ∃ common, common = min places (-exponent).toNat := ⟨_, rfl⟩
  have num : digits * 10 ^ places * 10 ^ exponent.toNat =
      digits * 10 ^ (exponent + places).toNat * 10 ^ common := by
    have powers : places + exponent.toNat = (exponent + places).toNat + common := by omega
    rw [Nat.mul_assoc, Nat.mul_assoc, ← Nat.pow_add, ← Nat.pow_add, powers]
  have den : 10 ^ (-exponent).toNat = 10 ^ (-(exponent + places)).toNat * 10 ^ common := by
    have powers : (-exponent).toNat = (-(exponent + places)).toNat + common := by omega
    rw [← Nat.pow_add, powers]
  unfold magnitude
  simp only [num, den]
  exact Binary64.round_scale _ _ (ten_pow_pos common)

theorem magnitude_zero {d : Decimal} (none : d.digits = 0) : d.magnitude = 0 := by
  have zero : units 0 = 0 := rfl
  have same (power scale den : Nat) : d.digits * 10 ^ power * scale = units 0 * den := by
    rw [none, zero, Nat.zero_mul, Nat.zero_mul, Nat.zero_mul]
  exact @Binary64.round_value 0 _ _ (Nat.zero_le _) (ten_pow_pos _) (same _ _ _)

private theorem magnitude_exact {m : Nat} (finite : m ≤ infinite) : (exact (units m)).magnitude = m := by
  have places : (-1074 : Int).toNat = 0 ∧ (-(-1074) : Int).toNat = 1074 := by decide
  have powers (v n : Nat) : v * 5 ^ n * 10 ^ 0 * 2 ^ n = v * 10 ^ n := by
    rw [Nat.pow_zero, Nat.mul_one, Nat.mul_assoc, ← Nat.mul_pow]
  unfold exact magnitude
  simp only [places]
  refine Binary64.round_value finite (ten_pow_pos 1074) ?_
  generalize 1074 = least
  exact powers (units m) least

theorem magnitude_shortest {m : Nat} (finite : m ≤ infinite) : (shortest m).magnitude = m := by
  unfold shortest
  cases found : (List.range 17).findSome? fun more =>
      (neighbours (units m) (more + 1)).find? (·.magnitude = m) with
  | none => exact magnitude_exact finite
  | some d =>
    obtain ⟨more, -, first⟩ := List.exists_of_findSome?_eq_some found
    simpa using List.find?_some first

/-- Decimals with few digits and a small exponent. -/
structure IsModerate (d : Decimal) : Prop where
  length : (Nat.toDigits 10 d.digits).length ≤ 2000
  least : -2000 ≤ d.exponent
  most : d.exponent ≤ 2000

private theorem mul_pow_lt {v size : Nat} (small : v < 10 ^ size) (more : Nat) :
    v * 10 ^ more < 10 ^ (size + more) := by
  rw [Nat.pow_add]
  exact Nat.mul_lt_mul_of_pos_right small (ten_pow_pos more)

private theorem succ_div_lt {v size : Nat} (small : v < 10 ^ size) (den : Nat) :
    v / den + 1 < 10 ^ (size + 1) :=
  calc
    v / den + 1 ≤ v + 1 := Nat.succ_le_succ (Nat.div_le_self v den)
    _ ≤ 10 ^ size := small
    _ < 10 ^ (size + 1) := Nat.pow_lt_pow_right (by decide) (Nat.lt_succ_self size)

private theorem length_le {v size : Nat} (positive : 0 < size) (small : v < 10 ^ size) :
    (Nat.toDigits 10 v).length ≤ size :=
  (Nat.length_toDigits_le_iff (by decide) positive).mpr small

private theorem mem_either {p : Prop} [Decidable p] {d first second : Decimal}
    (inside : d ∈ if p then [first, second] else [second, first]) : d = second ∨ d = first := by
  split at inside <;> simp at inside <;> tauto

theorem isModerate_neighbour {digits n size places : Nat} (short : size ≤ 700) (few : places ≤ 17)
    (small : digits < 10 ^ (size + (324 + places) + 1)) (place : n < 10 ^ (size + 324)) :
    IsModerate ⟨digits, (Nat.toDigits 10 n).length - 324 - places⟩ := by
  have filled := length_le (Nat.succ_pos _) small
  have length := length_le (by omega) place
  refine ⟨?_, ?_, ?_⟩ <;> simp only <;> omega

private theorem isModerate_of_mem_neighbours {v size places : Nat} {d : Decimal} (short : size ≤ 700)
    (small : v < 10 ^ size) (few : places ≤ 17) (inside : d ∈ neighbours v places) : d.IsModerate := by
  unfold neighbours at inside
  dsimp only at inside
  rcases mem_either inside with rfl | rfl
  · refine isModerate_neighbour short few ?_ (Nat.lt_of_le_of_lt (Nat.div_le_self _ _) (mul_pow_lt small 324))
    exact Nat.lt_of_succ_lt (succ_div_lt (mul_pow_lt small _) _)
  · refine isModerate_neighbour short few ?_ (Nat.lt_of_le_of_lt (Nat.div_le_self _ _) (mul_pow_lt small 324))
    exact succ_div_lt (mul_pow_lt small _) _

private theorem isModerate_exact {v size : Nat} (short : size ≤ 700) (small : v < 10 ^ size) :
    (exact v).IsModerate := by
  have fives (places : Nat) : v * 5 ^ places < 10 ^ (size + places) :=
    Nat.lt_of_le_of_lt (Nat.mul_le_mul_left v (Nat.pow_le_pow_left (by decide) places)) (mul_pow_lt small places)
  have length (places : Nat) : (Nat.toDigits 10 (v * 5 ^ (places + 1))).length ≤ size + (places + 1) :=
    length_le (Nat.succ_pos _) (fives (places + 1))
  refine ⟨?_, (by decide : (-2000 : Int) ≤ -1074), (by decide : (-1074 : Int) ≤ 2000)⟩
  unfold exact
  dsimp only
  generalize fewer : 1074 = places
  obtain ⟨before, rfl⟩ : ∃ before, places = before + 1 := ⟨1073, fewer.symm⟩
  exact (length before).trans (by omega)

theorem isModerate_shortest {m : Nat} (finite : m < infinite) : (shortest m).IsModerate := by
  obtain ⟨size, short, small⟩ : ∃ size ≤ 700, units m < 10 ^ size := by
    have bound : 2 ^ 1024 * 2 ^ 1074 ≤ 10 ^ 700 := by decide +kernel
    exact ⟨700, Nat.le_refl _, (Binary64.units_lt finite).trans_le bound⟩
  unfold shortest
  cases found : (List.range 17).findSome? fun more =>
      (neighbours (units m) (more + 1)).find? (·.magnitude = m) with
  | none => exact isModerate_exact short small
  | some d =>
    obtain ⟨more, inside, first⟩ := List.exists_of_findSome?_eq_some found
    have few := List.mem_range.mp inside
    exact isModerate_of_mem_neighbours short small (by omega) (List.mem_of_find?_eq_some first)

end Decimal
end Formula
