import Formula.Proofs.NumberShortest
import Formula.Number.Writing

/-! What is written for a number is read as that number. Wherever the point is put among the
digits and whatever power of ten stands behind them, the text denotes the digits that count,
with the point where it was; so it is the magnitude of the shortest decimal. -/

namespace Formula

open Writing (zeros significant point writtenOut scientific)

namespace Decimal

variable {d : Decimal}

theorem exists_significant (d : Decimal) :
    ∃ places, Nat.toDigits 10 d.digits = significant d ++ zeros places := by
  have parts := @List.takeWhile_append_dropWhile _ (· == '0') (Nat.toDigits 10 d.digits).reverse
  obtain ⟨places, dropped⟩ :
      ∃ places, (Nat.toDigits 10 d.digits).reverse.takeWhile (· == '0') = zeros places := by
    refine ⟨_, List.eq_replicate_iff.mpr ⟨rfl, fun ch inside => ?_⟩⟩
    simpa using List.all_eq_true.mp List.all_takeWhile ch inside
  refine ⟨places, ?_⟩
  rw [dropped] at parts
  rw [← List.reverse_reverse (Nat.toDigits 10 d.digits), ← parts, List.reverse_append, significant, zeros,
    List.reverse_replicate]

theorem all_isDigit_significant (d : Decimal) : (significant d).all Char.isDigit = true := by
  obtain ⟨places, digits⟩ := exists_significant d
  have all := Reading.all_isDigit_toDigits d.digits
  rw [digits, List.all_append, Bool.and_eq_true] at all
  exact all.1

theorem natural_significant {places : Nat} (digits : Nat.toDigits 10 d.digits = significant d ++ zeros places) :
    d.digits = Reading.natural (significant d) * 10 ^ places := by
  rw [← Reading.natural_append_zeros, ← zeros, ← digits, Reading.natural_toDigits]

private theorem significant_ne_nil (some : d.digits ≠ 0) : significant d ≠ [] := by
  intro empty
  obtain ⟨places, digits⟩ := exists_significant d
  apply some
  rw [natural_significant digits, empty]
  exact Nat.zero_mul _

private theorem magnitude_significant (d : Decimal) (places : Nat) :
    magnitude ⟨Reading.natural (significant d) * 10 ^ places, point d - (significant d).length - places⟩ =
      d.magnitude := by
  obtain ⟨dropped, digits⟩ := exists_significant d
  have length : (Nat.toDigits 10 d.digits).length = (significant d).length + dropped := by
    rw [digits, List.length_append, zeros, List.length_replicate]
  have same : d = ⟨Reading.natural (significant d) * 10 ^ dropped, d.exponent⟩ := by
    rw [← natural_significant digits]
  calc
    _ = magnitude ⟨Reading.natural (significant d), d.exponent + dropped⟩ := by
      rw [magnitude_shift, point, length]
      congr 2
      push_cast
      omega
    _ = d.magnitude := by
      rw [← magnitude_shift, ← same]

end Decimal

namespace Reading

variable {whole part digits : List Char}

theorem decimal?_fixed (filled : whole ≠ []) (all : (whole ++ part).all Char.isDigit = true) :
    decimal? (whole ++ '.' :: part) = some ⟨natural (whole ++ part), -part.length⟩ := by
  have read := @decimal?_pointed whole part [] filled all nofun
  rw [List.append_nil] at read
  simpa [exponent?] using read

private theorem decimal?_writtenOut (filled : digits ≠ []) (all : digits.all Char.isDigit = true)
    (place : Int) :
    ∃ places : Nat, decimal? (writtenOut digits place) =
      some ⟨natural digits * 10 ^ places, place - digits.length - places⟩ := by
  have noDigit (count : Nat) : (zeros count).all Char.isDigit = true := by simp [zeros]
  have length (count : Nat) : (zeros count).length = count := List.length_replicate
  unfold writtenOut
  split
  next low =>
    -- zeros between the point and the digits
    have inside : (zeros 1 ++ (zeros (-place).toNat ++ digits)).all Char.isDigit = true := by
      simp only [List.all_append, noDigit, all, Bool.and_true]
    refine ⟨0, (@decimal?_fixed (zeros 1) _ (List.cons_ne_nil _ _) inside).trans ?_⟩
    rw [zeros, natural_zeros_append, zeros, natural_zeros_append, ← zeros, List.length_append, length]
    congr 2 <;> omega
  next positive =>
    split
    next short =>
      -- zeros between the digits and the point
      have inside : (digits ++ zeros (place.toNat - digits.length) ++ zeros 1).all Char.isDigit = true := by
        simp only [List.all_append, noDigit, all, Bool.and_true]
      refine ⟨place.toNat - digits.length + 1, (decimal?_fixed (by simp [filled]) inside).trans ?_⟩
      rw [zeros, zeros, natural_append_zeros, natural_append_zeros, Nat.mul_assoc, ← Nat.pow_add]
      congr 2
      simp
      omega
    next long =>
      have inside : (digits.take place.toNat ++ digits.drop place.toNat).all Char.isDigit = true := by
        rwa [List.take_append_drop]
      have some : digits.take place.toNat ≠ [] := by
        rw [Ne, List.take_eq_nil_iff, not_or]
        exact ⟨by omega, filled⟩
      refine ⟨0, (decimal?_fixed some inside).trans ?_⟩
      rw [List.take_append_drop, List.length_drop]
      congr 2 <;> omega

private theorem decimal?_scientific (filled : digits ≠ []) (all : digits.all Char.isDigit = true) {power : Int}
    (small : power.natAbs < 65536) :
    decimal? (scientific digits power) = some ⟨natural digits, power + 1 - digits.length⟩ := by
  have read := exponent?_toString small
  have stop : ∀ ch ∈ ('e' :: (toString power).toList).head?, ch.isDigit = false ∧ ch ≠ '.' := by
    rintro ch ⟨⟩
    decide
  match digits, filled with
  | [only], _ =>
    refine (@decimal?_plain [only] _ (List.cons_ne_nil _ _) all stop).trans ?_
    rw [read, Option.map_some, List.length_singleton]
    congr 2
    omega
  | first :: second :: more, _ =>
    have noDigit := fun ch inside => (stop ch inside).1
    refine (@decimal?_pointed [first] (second :: more) _ (List.cons_ne_nil _ _) all noDigit).trans ?_
    rw [read, Option.map_some]
    congr 2
    simp only [List.length_cons]
    omega

/-- The power of ten of a decimal that is not written out is small enough to be read. -/
private theorem decimal?_decimal {d : Decimal} (filled : d.digits ≠ 0) (moderate : d.IsModerate) :
    ∃ places : Nat, decimal? (Writing.decimal d) =
      some ⟨natural (significant d) * 10 ^ places, point d - (significant d).length - places⟩ := by
  have digits := Decimal.significant_ne_nil filled
  have all := Decimal.all_isDigit_significant d
  have power : (point d - 1).natAbs < 65536 := by
    have length := moderate.length
    have least := moderate.least
    have most := moderate.most
    unfold point
    omega
  unfold Writing.decimal
  split
  · exact decimal?_writtenOut digits all (point d)
  · refine ⟨0, (decimal?_scientific digits all power).trans ?_⟩
    congr 2 <;> omega

end Reading

namespace Binary64

private theorem digits_shortest {m : Nat} (some : m ≠ 0) (finite : m ≤ infinite) :
    (Decimal.shortest m).digits ≠ 0 := by
  intro none
  apply some
  rw [← Decimal.magnitude_shortest finite]
  exact Decimal.magnitude_zero none

theorem read?_of_magnitude (negative : Bool) {text : List Char} {d : Decimal} {m : Nat} (inside : m < 2 ^ 63)
    (read : Reading.decimal? text = some d) (same : d.magnitude = m) :
    read? (String.ofList ((if negative then ['-'] else []) ++ text)) = some ⟨negative, m, inside⟩ := by
  unfold Decimal.magnitude at same
  rw [read?_of_decimal? negative read, Decimal.toBinary64, nearest, Option.some_inj, mk.injEq]
  exact ⟨rfl, same⟩

private theorem read?_signed (negative : Bool) {m : Nat} (number : m ≤ infinite) (inside : m < 2 ^ 63) :
    read? (String.ofList ((if negative then ['-'] else []) ++ Writing.magnitude m)) =
      some ⟨negative, m, inside⟩ := by
  by_cases isInfinite : m = infinite
  · subst isInfinite
    rw [Writing.magnitude, if_pos rfl]
    cases negative <;> rfl
  by_cases isZero : m = 0
  · subst isZero
    rw [Writing.magnitude, if_neg isInfinite, if_pos rfl]
    have read : Reading.decimal? ['0', '.', '0'] = some ⟨0, -1⟩ := rfl
    exact read?_of_magnitude negative inside read (Decimal.magnitude_zero rfl)
  · rw [Writing.magnitude, if_neg isInfinite, if_neg isZero]
    have moderate := Decimal.isModerate_shortest (Nat.lt_of_le_of_ne number isInfinite)
    obtain ⟨places, read⟩ := Reading.decimal?_decimal (digits_shortest isZero number) moderate
    apply read?_of_magnitude negative inside read
    rw [Decimal.magnitude_significant, Decimal.magnitude_shortest number]

/-- A number is read from what is written for it. An undefined result is read without its sign. -/
theorem read?_write (x : Binary64) : read? x.write = some (if x.isNaN then nan false else x) := by
  unfold write
  split
  · rfl
  next number =>
    have number : x.magnitude ≤ infinite := by simpa [isNaN] using number
    exact read?_signed x.negative number x.inside

/-- The same word, or undefined results both. -/
def Same (x y : Binary64) : Prop := x.toBits = y.toBits ∨ x.isNaN = true ∧ y.isNaN = true

instance (x y : Binary64) : Decidable (x.Same y) := inferInstanceAs (Decidable (_ ∨ _))

theorem Same.eq {x y : Binary64} (same : x.Same y) (number : x.isNaN = false) : x = y := by
  rcases same with word | ⟨noNumber, -⟩
  · rw [← ofBits_toBits x, word, ofBits_toBits]
  · rw [number] at noNumber
    cases noNumber

theorem write_eq_write_iff {x y : Binary64} : x.write = y.write ↔ x.Same y := by
  constructor
  · intro same
    have read := read?_write x
    rw [same, read?_write y, Option.some_inj] at read
    have quiet : (nan false).isNaN = true := rfl
    split at read <;> split at read
    next noNumber' noNumber => exact .inr ⟨noNumber, noNumber'⟩
    next noNumber number => exact absurd (read ▸ quiet) number
    next number noNumber => exact absurd (read ▸ quiet) number
    next => exact .inl (congrArg toBits read.symm)
  · intro same
    by_cases noNumber : x.isNaN = true
    · rcases same with word | ⟨-, noNumber'⟩
      · rw [← ofBits_toBits x, word, ofBits_toBits]
      · rw [write, write, if_pos noNumber, if_pos noNumber']
    · rw [same.eq (Bool.eq_false_iff.mpr noNumber)]

example : (nan true).Same (nan false) ∧ ¬ (nearest true 0 1).Same (nearest false 0 1) := by decide +kernel

end Binary64
end Formula
