import Mathlib.Data.Nat.Dist
import Mathlib.Order.Monotone.Basic
import Formula.Proofs.WholeNumbers

/-! Rounding whole numbers to the nearest magnitude. Which one that is, is said without a
computation: of all magnitudes up to infinity it is nearer to the number than any other,
or as near and even. Infinity counts as `2 ^ 1024`, the value that its fields would have if
they stood for one. There is one such magnitude for every number, it grows with the
number, and rounding finds it. -/

namespace Formula
namespace Binary64

/-- Of two magnitudes the first is nearer to `v` units, or as near and even. -/
def Prefers (v m m' : Nat) : Prop :=
  Nat.dist (units m) v < Nat.dist (units m') v ∨ Nat.dist (units m) v = Nat.dist (units m') v ∧ m % 2 = 0

/-- Of the magnitudes of all numbers this one is preferred for `v` units. -/
structure IsNearest (v m : Nat) : Prop where
  inside : m ≤ infinite
  preferred : ∀ m' ≤ infinite, m' ≠ m → Prefers v m m'

theorem units_succ (m : Nat) : units (m + 1) = units m + 2 ^ (m / 2 ^ 52 - 1) := by
  rcases Nat.lt_or_ge m (2 ^ 52) with small | ordinary
  · have field : m / 2 ^ 52 - 1 = 0 := by omega
    rw [field, Nat.pow_zero]
    rcases Nat.lt_or_ge (m + 1) (2 ^ 52) with below | least
    · rw [units, if_pos below, units, if_pos small]
    · obtain rfl : m = 2 ^ 52 - 1 := by omega
      decide +kernel
  · obtain ⟨spare, bits, rfl, least, most⟩ := exists_moved ordinary
    have field : (spare * 2 ^ 52 + bits) / 2 ^ 52 - 1 = spare := by omega
    rw [field, Nat.add_assoc, units_moved (by omega) most, units_moved least (Nat.le_of_lt most),
      Nat.succ_mul]

theorem units_strictMono : StrictMono units := by
  apply strictMono_nat_of_lt_succ
  intro m
  rw [units_succ]
  exact Nat.lt_add_of_pos_right (Nat.two_pow_pos _)

/-- Between two values there are at least the steps from the lower one to the next. -/
theorem units_add_le {spare m m' : Nat} (field : spare ≤ m / 2 ^ 52 - 1) (above : m < m') :
    units m + 2 ^ spare ≤ units m' :=
  calc
    units m + 2 ^ spare ≤ units m + 2 ^ (m / 2 ^ 52 - 1) :=
      Nat.add_le_add_left (Nat.pow_le_pow_right Nat.two_pos field) _
    _ = units (m + 1) := (units_succ m).symm
    _ ≤ units m' := units_strictMono.monotone above

/-- Any other value is a step away, or it lies below the least value with these steps. -/
private theorem units_apart {spare bits m' : Nat} (least : 2 ^ 52 ≤ bits) (other : m' ≠ spare * 2 ^ 52 + bits) :
    units (spare * 2 ^ 52 + bits) + 2 ^ spare ≤ units m' ∨
      units m' + 2 ^ spare ≤ units (spare * 2 ^ 52 + bits) ∨
      bits = 2 ^ 52 ∧ units m' < units (spare * 2 ^ 52 + bits) := by
  rcases Nat.lt_or_gt_of_ne other with less | greater
  · rcases Nat.eq_or_lt_of_le least with first | later
    · exact .inr (.inr ⟨first.symm, units_strictMono less⟩)
    · right
      left
      calc
        units m' + 2 ^ spare ≤ units (spare * 2 ^ 52 + bits - 1) + 2 ^ spare :=
          Nat.add_le_add_right (units_strictMono.monotone (Nat.le_sub_one_of_lt less)) _
        _ ≤ units (spare * 2 ^ 52 + bits) := units_add_le (by omega) (by omega)
  · exact .inl (units_add_le (by omega) greater)

private theorem roundDiv_even {num den : Nat} (positive : 0 < den)
    (half : 2 * Nat.dist (roundDiv num den * den) num = den) : roundDiv num den % 2 = 0 := by
  have split := Nat.div_add_mod' num den
  have small := Nat.mod_lt num positive
  -- half a step off is where the remainder is half of the divisor, on either side
  unfold roundDiv at half ⊢
  split at half
  · next up =>
    rw [if_pos up]
    rw [Nat.dist, Nat.add_mul, Nat.one_mul] at half
    omega
  · next down =>
    rw [if_neg down]
    rw [Nat.dist] at half
    omega

private theorem prefers_of_eq {v m m' : Nat} (exact : units m = v) (other : m' ≠ m) : Prefers v m m' := by
  left
  rw [← exact, Nat.dist_self]
  exact Nat.dist_pos_of_ne (units_strictMono.injective.ne other)

/-- What is kept of a value of more than 52 bits is a magnitude that is preferred to any
other, as long as exponents do not run out. -/
private theorem prefers_moved {v spare m' : Nat} (length : v.log2 = spare + 52)
    (other : m' ≠ spare * 2 ^ 52 + roundDiv v (2 ^ spare)) :
    Prefers v (spare * 2 ^ 52 + roundDiv v (2 ^ spare)) m' := by
  have positive := Nat.two_pow_pos spare
  obtain ⟨enough, room⟩ := div_moved length
  have least := (Nat.le_div_iff_mul_le positive).mp enough
  have between := roundDiv_between v (2 ^ spare)
  have near := roundDiv_near v (2 ^ spare) positive
  have tie := @roundDiv_even v (2 ^ spare) positive
  generalize roundDiv v (2 ^ spare) = bits at other between near tie ⊢
  have value : units (spare * 2 ^ 52 + bits) = bits * 2 ^ spare := units_moved (by omega) (by omega)
  have apart := units_apart (by omega) other
  have parity : (spare * 2 ^ 52 + bits) % 2 = bits % 2 := by omega
  have bottom : bits = 2 ^ 52 → bits * 2 ^ spare ≤ v := by
    rintro rfl
    exact least
  -- a value with smaller steps lies below the least one with these, and so does no tie
  rw [value] at apart
  rw [Prefers, value, parity]
  unfold Nat.dist at tie ⊢
  omega

private theorem prefers_infinite {v m m' : Nat} (above : infinite < m) (preferred : Prefers v m infinite)
    (below : m' < infinite) : Prefers v infinite m' := by
  have great := units_strictMono above
  have less := units_strictMono below
  left
  unfold Prefers Nat.dist at preferred
  unfold Nat.dist
  omega

theorem IsNearest.mono {v v' m m' : Nat} (grows : v ≤ v') (nearest : IsNearest v m)
    (nearest' : IsNearest v' m') : m ≤ m' := by
  refine Nat.le_of_not_lt fun less => ?_
  have first := nearest.preferred m' nearest'.inside (Nat.ne_of_lt less)
  have second := nearest'.preferred m nearest.inside (Nat.ne_of_gt less)
  have apart := units_strictMono less
  -- Both are even and as near as each other, so that one between them is nearer.
  have even : m % 2 = 0 ∧ m' % 2 = 0 := by
    unfold Prefers Nat.dist at first second
    omega
  have within : m' + 1 < m := by omega
  have third := nearest.preferred (m' + 1) (Nat.le_trans (Nat.le_of_lt within) nearest.inside)
    (Nat.ne_of_lt within)
  have above : units m' < units (m' + 1) := units_strictMono (Nat.lt_add_one m')
  have below := units_strictMono within
  unfold Prefers Nat.dist at first second third
  omega

theorem IsNearest.unique {v m m' : Nat} (nearest : IsNearest v m) (nearest' : IsNearest v m') : m = m' :=
  Nat.le_antisymm (nearest.mono (Nat.le_refl v) nearest') (nearest'.mono (Nat.le_refl v) nearest)

/-- Half way between the greatest finite value and infinity a value is too great. -/
private theorem IsNearest.eq_infinite_iff {v m : Nat} (nearest : IsNearest v m) :
    m = infinite ↔ (2 ^ 1024 - 2 ^ 970) * 2 ^ 1074 ≤ v := by
  have middle : units (infinite - 1) + units infinite = 2 * ((2 ^ 1024 - 2 ^ 970) * 2 ^ 1074) := by decide +kernel
  have odd : (infinite - 1) % 2 = 1 := by decide
  have last : infinite - 1 < infinite := by decide
  have less := units_strictMono last
  generalize (2 ^ 1024 - 2 ^ 970) * 2 ^ 1074 = half at middle ⊢
  constructor
  · rintro rfl
    have preferred := nearest.preferred (infinite - 1) (Nat.sub_le _ _) (Nat.ne_of_lt last)
    unfold Prefers Nat.dist at preferred
    omega
  · intro great
    refine Nat.le_antisymm nearest.inside (Nat.le_of_not_lt fun finite => ?_)
    have preferred := nearest.preferred infinite (Nat.le_refl _) (Nat.ne_of_gt finite)
    have value : units m ≤ units (infinite - 1) := units_strictMono.monotone (Nat.le_sub_one_of_lt finite)
    -- The value is as near to both, and the greatest finite magnitude is odd.
    have tie : units m = units (infinite - 1) ∧ m % 2 = 0 := by
      unfold Prefers Nat.dist at preferred
      omega
    have same := units_strictMono.injective tie.1
    omega

theorem isNearest_round (n : Nat) : IsNearest (n * 2 ^ 1074) (round n 1) := by
  rcases Nat.eq_zero_or_pos n with rfl | positive
  · obtain ⟨zero, exact⟩ : round 0 1 = 0 ∧ units 0 = 0 * 2 ^ 1074 := by decide +kernel
    rw [zero]
    exact ⟨Nat.zero_le _, fun _ _ other => prefers_of_eq exact other⟩
  obtain ⟨spare, found⟩ : ∃ spare, (n * 2 ^ 1074).log2 - 52 = spare := ⟨_, rfl⟩
  have moved := @prefers_moved (n * 2 ^ 1074) spare
  have length := log2_ones positive (by decide) found
  have rounded := round_moved found
  clear found
  generalize n * 2 ^ 1074 = v at moved length rounded ⊢
  generalize spare * 2 ^ 52 + roundDiv v (2 ^ spare) = m at moved rounded
  rcases Nat.lt_or_ge infinite m with above | finite
  · rw [rounded, Nat.min_eq_left (Nat.le_of_lt above)]
    refine ⟨Nat.le_refl _, fun m' inside other => ?_⟩
    exact prefers_infinite above (moved length (Nat.ne_of_lt above)) (Nat.lt_of_le_of_ne inside other)
  · rw [rounded, Nat.min_eq_right finite]
    exact ⟨finite, fun _ _ other => moved length other⟩

theorem isNearest_iff {n m : Nat} : IsNearest (n * 2 ^ 1074) m ↔ m = round n 1 := by
  have rounded := isNearest_round n
  generalize n * 2 ^ 1074 = v at rounded ⊢
  constructor
  · intro nearest
    exact nearest.unique rounded
  · intro same
    exact same ▸ rounded

theorem round_mono {n n' : Nat} (le : n ≤ n') : round n 1 ≤ round n' 1 := by
  have grows : n * 2 ^ 1074 ≤ n' * 2 ^ 1074 := Nat.mul_le_mul_right _ le
  exact (isNearest_round n).mono grows (isNearest_round n')

theorem round_eq_infinite_iff (n : Nat) : round n 1 = infinite ↔ 2 ^ 1024 - 2 ^ 970 ≤ n := by
  have limit := (isNearest_round n).eq_infinite_iff
  have positive : 0 < 2 ^ 1074 := Nat.two_pow_pos 1074
  generalize 2 ^ 1024 - 2 ^ 970 = least at limit ⊢
  exact limit.trans (Nat.mul_le_mul_right_iff positive)

/-- Numbers that 53 bits hold can be moved so far that they fill them. -/
private theorem exists_filled {n : Nat} (positive : 0 < n) (small : n ≤ 2 ^ 53) :
    ∃ places ≤ 52, 2 ^ 52 ≤ n * 2 ^ places ∧ n * 2 ^ places ≤ 2 ^ 53 := by
  rcases Nat.lt_or_ge n (2 ^ 52) with short | long
  · obtain ⟨least, most⟩ := (Nat.log2_eq_iff (Nat.ne_of_gt positive)).mp (Eq.refl n.log2)
    have length : n.log2 < 52 := (Nat.log2_lt (Nat.ne_of_gt positive)).mpr short
    have filled : n.log2 + (52 - n.log2) = 52 := by omega
    refine ⟨52 - n.log2, Nat.sub_le _ _, ?_, ?_⟩
    · calc
        2 ^ 52 = 2 ^ n.log2 * 2 ^ (52 - n.log2) := by rw [← Nat.pow_add, filled]
        _ ≤ n * 2 ^ (52 - n.log2) := Nat.mul_le_mul_right _ least
    · calc
        n * 2 ^ (52 - n.log2) ≤ 2 ^ (n.log2 + 1) * 2 ^ (52 - n.log2) :=
          Nat.mul_le_mul_right _ (Nat.le_of_lt most)
        _ = 2 ^ 53 := by rw [← Nat.pow_add, Nat.add_right_comm, filled]
  · exact ⟨0, Nat.zero_le _, by omega, by omega⟩

theorem units_round {n : Nat} (small : n ≤ 2 ^ 53) :
    round n 1 < infinite ∧ units (round n 1) = n * 2 ^ 1074 := by
  rcases Nat.eq_zero_or_pos n with rfl | positive
  · decide +kernel
  obtain ⟨places, few, least, most⟩ := exists_filled positive small
  have value : units ((1074 - places) * 2 ^ 52 + n * 2 ^ places) = n * 2 ^ 1074 := by
    rw [units_moved least most, Nat.mul_assoc, ← Nat.pow_add, Nat.add_sub_cancel' (by omega)]
  have finite : (1074 - places) * 2 ^ 52 + n * 2 ^ places < infinite := by
    unfold infinite
    omega
  have rounded := round_value (Nat.le_of_lt finite) Nat.one_pos (value.symm.trans (Nat.mul_one _).symm)
  rw [rounded]
  exact ⟨finite, value⟩

end Binary64
end Formula
