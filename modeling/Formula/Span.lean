/-! Positions in a text count the bytes of its UTF-8 form and stop growing at
the largest 32-bit number. A span is the stretch between two positions. -/

namespace Formula

namespace Offset

def greatest : Nat := 2 ^ 32 - 1

def shift (pos : Nat) (ch : Char) : Nat := min greatest (pos + ch.utf8Size)

def after (pos : Nat) (run : List Char) : Nat := run.foldl shift pos

private theorem shift_le (pos : Nat) (ch : Char) : shift pos ch ≤ greatest := Nat.min_le_left _ _

@[simp] theorem after_nil (pos : Nat) : after pos [] = pos := rfl

@[simp] theorem after_cons (pos : Nat) (ch : Char) (run : List Char) :
    after pos (ch :: run) = after (shift pos ch) run := rfl

theorem after_append (pos : Nat) (front back : List Char) :
    after pos (front ++ back) = after (after pos front) back := List.foldl_append

def bytes : List Char → Nat
  | [] => 0
  | ch :: text => ch.utf8Size + bytes text

@[simp] theorem bytes_nil : bytes [] = 0 := rfl

@[simp] theorem bytes_cons (ch : Char) (text : List Char) :
    bytes (ch :: text) = ch.utf8Size + bytes text := rfl

@[simp] theorem bytes_append (front back : List Char) : bytes (front ++ back) = bytes front + bytes back := by
  induction front with
  | nil => simp
  | cons ch front ih => rw [List.cons_append, bytes_cons, bytes_cons, ih, Nat.add_assoc]

/-- Stopping at the limit after every character gives the same position as
stopping once, at the end. -/
theorem after_eq_min (pos : Nat) (run : List Char) (inside : pos ≤ greatest) :
    after pos run = min greatest (pos + bytes run) := by
  induction run generalizing pos with
  | nil => simp; omega
  | cons ch run ih =>
    rw [after_cons, ih _ (shift_le pos ch), shift]
    rw [bytes_cons]
    omega

end Offset

/-- The part of a text from `start` up to but not including `stop`, which
begins on line `line`. -/
structure Span where
  start : Nat
  stop : Nat
  line : Nat
deriving DecidableEq

namespace Span

/-- The span of a token that comes from no text: it lies on no line. -/
def empty : Span := ⟨0, 0, 0⟩

def length (span : Span) : Nat := span.stop - span.start

def isEmpty (span : Span) : Bool := span.start == span.stop

def describe (span : Span) : String :=
  "Ln " ++ toString span.line ++ ", byte " ++ toString span.start

end Span
end Formula
