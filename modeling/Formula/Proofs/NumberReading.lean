import Formula.Number.Reading
import Formula.Proofs.TextRuns
import Mathlib.Data.List.Induction

/-! What the parts of a number's text denote: digits with zeros before or behind them, digits
with a point among them, and the power of ten that may follow. A text that denotes a decimal
begins like one, so that it is neither a sign nor a word. -/

namespace Formula
namespace Reading

variable {run whole part tail text : List Char}

theorem natural_eq (run : List Char) : natural run = Nat.ofDigitChars 10 run 0 := Nat.ofDigitChars_eq_foldl.symm

theorem natural_toDigits (n : Nat) : natural (Nat.toDigits 10 n) = n := by
  rw [natural_eq, Nat.ofDigitChars_ten_toDigits]

theorem natural_append (run more : List Char) :
    natural (run ++ more) = 10 ^ more.length * natural run + natural more := by
  rw [natural_eq, natural_eq, natural_eq, Nat.ofDigitChars_append, ← Nat.ofDigitChars_eq_ofDigitChars_zero]

theorem natural_zeros (count : Nat) : natural (List.replicate count '0') = 0 := by
  induction count with
  | zero => rfl
  | succ count ih =>
    rw [List.replicate_succ', natural_append, ih]
    rfl

theorem natural_append_zeros (run : List Char) (count : Nat) :
    natural (run ++ List.replicate count '0') = natural run * 10 ^ count := by
  rw [natural_append, natural_zeros, List.length_replicate, Nat.add_zero, Nat.mul_comm]

theorem natural_zeros_append (count : Nat) (run : List Char) :
    natural (List.replicate count '0' ++ run) = natural run := by
  rw [natural_append, natural_zeros, Nat.mul_zero, Nat.zero_add]

/-- A power that is not too great is the number its digits denote. -/
private theorem power_eq_natural (small : natural run < 65536) : power run = natural run := by
  induction run using List.reverseRecOn with
  | nil => rfl
  | append_singleton run ch ih =>
    have denoted : natural (run ++ [ch]) = 10 * natural run + digit ch := List.foldl_append
    have stepped : power (run ++ [ch]) = if power run < 65536 then 10 * power run + digit ch else power run :=
      List.foldl_append
    have before : power run = natural run := ih (by omega)
    rw [stepped, before, if_pos (by omega), denoted]

theorem all_isDigit_toDigits (n : Nat) : (Nat.toDigits 10 n).all Char.isDigit = true :=
  List.all_eq_true.mpr fun _ inside => Nat.isDigit_of_mem_toDigits (by decide) (by decide) inside

/-- What a number's text may begin with behind its sign, unless it is a word. -/
def IsFirst (ch : Char) : Prop := ch.isDigit = true ∨ ch = '.'

theorem IsFirst.bounds {ch : Char} (first : IsFirst ch) : 46 ≤ ch.toNat ∧ ch.toNat ≤ 57 := by
  rcases first with digit | rfl
  · have within : 48 ≤ ch.toNat ∧ ch.toNat ≤ 57 := Char.isDigit_iff_toNat.mp digit
    exact ⟨Nat.le_trans (by decide) within.1, within.2⟩
  · decide

theorem sign_of_isFirst (negative : Bool) {ch : Char} (first : IsFirst ch) (more : List Char) :
    sign ((if negative then ['-'] else []) ++ ch :: more) = (negative, ch :: more) := by
  have bounds := first.bounds
  cases negative with
  | true => rfl
  | false =>
    have noSign : ch ≠ '-' ∧ ch ≠ '+' := by
      constructor <;> rintro rfl <;> exact absurd bounds (by decide)
    unfold sign
    split <;> simp_all

private theorem word?_of_isFirst (negative : Bool) {ch : Char} (first : IsFirst ch) (more : List Char) :
    word? negative (ch :: more) = none := by
  have bounds := first.bounds
  have same : ch.toLower = ch := dif_neg fun upper => absurd (Nat.le_trans upper.1 bounds.2) (by decide)
  have noLetter : ch ≠ 'i' ∧ ch ≠ 'n' := by
    constructor <;> rintro rfl <;> exact absurd bounds (by decide)
  simp [word?, same, noLetter]

private theorem exponent?_toDigits (negative : Bool) {n : Nat} (small : n < 65536) :
    exponent? ('e' :: ((if negative then ['-'] else []) ++ Nat.toDigits 10 n)) =
      some (if negative then -(n : Int) else n) := by
  have digits := all_isDigit_toDigits n
  have read := power_eq_natural (natural_toDigits n ▸ small)
  rw [natural_toDigits] at read
  obtain ⟨ch, more, spelled⟩ := List.exists_cons_of_ne_nil (@Nat.toDigits_ne_nil n 10)
  rw [spelled] at digits read ⊢
  have first : IsFirst ch := .inl (by simp_all)
  simp only [exponent?, sign_of_isFirst negative first more, digits, read]
  simp

theorem toList_toString (power : Int) :
    (toString power).toList = (if power < 0 then ['-'] else []) ++ Nat.toDigits 10 power.natAbs := by
  cases power <;> simp [Int.toString_eq_repr, Int.repr_eq_if]

theorem exponent?_toString {power : Int} (small : power.natAbs < 65536) :
    exponent? ('e' :: (toString power).toList) = some power := by
  have read := exponent?_toDigits (decide (power < 0)) small
  rw [toList_toString]
  simp only [decide_eq_true_eq] at read
  rw [read]
  congr 1
  split <;> omega

theorem decimal?_pointed (filled : whole ≠ []) (digits : (whole ++ part).all Char.isDigit = true)
    (stop : ∀ ch ∈ tail.head?, ch.isDigit = false) :
    decimal? (whole ++ '.' :: (part ++ tail)) =
      (exponent? tail).map fun power => ⟨natural (whole ++ part), power - part.length⟩ := by
  rw [List.all_append, Bool.and_eq_true] at digits
  have point : ∀ ch ∈ ('.' :: (part ++ tail)).head?, ch.isDigit = false := by
    rintro ch ⟨⟩
    rfl
  simp [decimal?, takeWhile_run digits.1 point, dropWhile_run digits.1 point, fraction,
    takeWhile_run digits.2 stop, dropWhile_run digits.2 stop, filled]

theorem decimal?_plain (filled : whole ≠ []) (digits : whole.all Char.isDigit = true)
    (stop : ∀ ch ∈ tail.head?, ch.isDigit = false ∧ ch ≠ '.') :
    decimal? (whole ++ tail) = (exponent? tail).map fun power => ⟨natural whole, power⟩ := by
  have noDigit : ∀ ch ∈ tail.head?, ch.isDigit = false := fun ch first => (stop ch first).1
  have noPoint : fraction tail = ([], tail) := by
    unfold fraction
    split
    · exact absurd rfl (stop '.' rfl).2
    · rfl
  simp [decimal?, takeWhile_run digits noDigit, dropWhile_run digits noDigit, noPoint, filled]

private theorem first_of_decimal? {d : Decimal} (read : decimal? text = some d) :
    ∃ ch more, text = ch :: more ∧ IsFirst ch := by
  cases text with
  | nil => cases read
  | cons ch more =>
    refine ⟨ch, more, rfl, ?_⟩
    unfold IsFirst
    apply Classical.byContradiction
    intro other
    rw [not_or] at other
    have noPoint : fraction (ch :: more) = ([], ch :: more) := by
      unfold fraction
      split <;> simp_all
    simp [decimal?, other.1, noPoint] at read

end Reading

namespace Binary64

open Reading

theorem read?_of_decimal? (negative : Bool) {text : List Char} {d : Decimal} (read : decimal? text = some d) :
    read? (String.ofList ((if negative then ['-'] else []) ++ text)) = some (d.toBinary64 negative) := by
  obtain ⟨ch, more, rfl, first⟩ := first_of_decimal? read
  simp only [read?, String.toList_ofList, sign_of_isFirst negative first more,
    word?_of_isFirst negative first more, read, Option.none_or, Option.map_some]

end Binary64
end Formula
