import Formula.Proofs.NumberRounding
import Formula.Proofs.LexingUnknown
import Formula.Proofs.PrintingRoundTrip

/-! Texts of digits alone. Such a text is one statement, and the number it holds is the one
that the digits denote, rounded once: nothing is lost when digits are cut from the text, and
zeros in front of them count for nothing. -/

namespace Formula

open Binary64 (IsNearest units)

/-- What `n` is rounded to. Its bits are those of the nearest magnitude, and of no other. -/
structure Binary64.Rounds (n : Nat) (x : Binary64) : Prop where
  unsigned : x.negative = false
  ordered : x.isNaN = false
  nearest : ∀ m, IsNearest (n * 2 ^ 1074) m ↔ m = x.toBits
  exact : n ≤ 2 ^ 53 → x.isInfinite = false ∧ units x.toBits = n * 2 ^ 1074
  infinite_iff : x = .infinity false ↔ 2 ^ 1024 - 2 ^ 970 ≤ n

namespace Binary64

@[simp] theorem toBits_nearest (n : Nat) : (nearest false n 1).toBits = round n 1 := by
  simp only [toBits, nearest, Bool.false_eq_true, if_false, Nat.zero_add]

private theorem nearest_eq_infinity_iff {n : Nat} :
    nearest false n 1 = infinity false ↔ round n 1 = infinite := by
  rw [nearest, infinity, Binary64.mk.injEq, eq_self, true_and]

private theorem rounds_nearest (n : Nat) : Rounds n (nearest false n 1) where
  unsigned := rfl
  ordered := decide_eq_false (Nat.not_lt_of_le (round_le n 1))
  nearest m := by
    rw [toBits_nearest]
    exact isNearest_iff
  exact small := by
    obtain ⟨finite, value⟩ := units_round small
    rw [toBits_nearest]
    exact ⟨decide_eq_false (Nat.ne_of_lt finite), value⟩
  infinite_iff := nearest_eq_infinity_iff.trans (round_eq_infinite_iff n)

end Binary64

def Source.denoted (source : String) : Nat := Nat.ofDigitChars 10 source.toList 0

private theorem parse_of_denoted {source : String} (filled : source ≠ "")
    (digits : source.toList.all Char.isDigit = true) :
    Source.parse source = .ok ⟨[.number (.nearest false (Source.denoted source) 1)]⟩ ∧
      Source.parseStrict source = .ok ⟨[.number (.nearest false (Source.denoted source) 1)]⟩ := by
  have some : source.toList ≠ [] := mt String.toList_eq_nil_iff.mp filled
  have value : Reading.natural source.toList = Source.denoted source := Nat.ofDigitChars_eq_foldl.symm
  have read := Binary64.read?_of_digits some digits
  rw [value] at read
  have spells := @Phrases.spells_digits (.group Grammar.maxDepth) _ _ some digits read
  have strict : Source.parseStrict source = .ok ⟨[.number (.nearest false (Source.denoted source) 1)]⟩ := by
    apply parseStrict_of_spells
    exact spells.asChain.asChain.plain.map ([·]) fun d => ⟨[d], List.append_nil _, rfl⟩
  exact ⟨parse_of_parseStrict strict, strict⟩

/-- Digits alone are one statement, the number that they denote, rounded; and greater
numbers are rounded to greater ones. -/
theorem parse_digits_rounds :
    (∀ source : String, source ≠ "" → source.toList.all Char.isDigit = true →
      Source.parse source = .ok ⟨[.number (.nearest false (Source.denoted source) 1)]⟩ ∧
        Source.parseStrict source = .ok ⟨[.number (.nearest false (Source.denoted source) 1)]⟩) ∧
    (∀ n, Binary64.Rounds n (.nearest false n 1)) ∧
    ∀ n n', n ≤ n' → (Binary64.nearest false n 1).toBits ≤ (Binary64.nearest false n' 1).toBits := by
  refine ⟨fun source filled digits => parse_of_denoted filled digits, Binary64.rounds_nearest, ?_⟩
  intro n n' le
  rw [Binary64.toBits_nearest, Binary64.toBits_nearest]
  exact Binary64.round_mono le

/-- The first whole number that 53 bits do not hold lies half way between two that they
hold, and goes to the even one. -/
theorem parse_digits_rounds_tie :
    Source.denoted "009007199254740993" = 2 ^ 53 + 1 ∧
      Source.parse "009007199254740993" = .ok ⟨[.number (.nearest false (2 ^ 53 + 1) 1)]⟩ ∧
      IsNearest ((2 ^ 53 + 1) * 2 ^ 1074) (Binary64.nearest false (2 ^ 53 + 1) 1).toBits ∧
      (Binary64.nearest false (2 ^ 53 + 1) 1).toBits = (Binary64.nearest false (2 ^ 53) 1).toBits ∧
      (Binary64.nearest false (2 ^ 53 + 1) 1).toBits ≤ (Binary64.nearest false (2 ^ 53 + 2) 1).toBits := by
  have denoted : Source.denoted "009007199254740993" = 2 ^ 53 + 1 := by decide +kernel
  obtain ⟨parsed, rounds, grows⟩ := parse_digits_rounds
  have read := (parsed "009007199254740993" (by decide) (by decide +kernel)).1
  rw [denoted] at read
  have nearest := (rounds (2 ^ 53 + 1)).nearest (Binary64.nearest false (2 ^ 53 + 1) 1).toBits
  exact ⟨denoted, read, nearest.mpr rfl, by decide +kernel, grows _ _ (by decide)⟩

end Formula
