import Formula.Expr
import Formula.Proofs.LexingSegments
import Formula.Proofs.WholeNumbers

/-! Writing a program as a text, with parentheses only where a tree would else be read
as another one. Of the trees a program can hold not all are read from some text: names
must be names, numbers whole, and what begins with a name must be an assignment when it
is a statement or stands in parentheses. -/

namespace Formula

def Operator.rank (op : Operator) : Nat := if op.isAdditive then 1 else 2

theorem Operator.rank_pos (op : Operator) : 0 < op.rank := by
  cases op <;> decide

namespace Expr

/-- How tightly the root of a tree binds. Declarations bind least of all. -/
def rank : Expr → Nat
  | assign _ _ | announce _ _ | declare _ _ _ => 0
  | binary _ op _ => op.rank
  | number _ | reference _ => 3

/-- The text of a tree in a place that asks for a rank. -/
def enclose (least : Nat) (expr : Expr) (text : List Char) : List Char :=
  if expr.rank < least then '(' :: (text ++ [')']) else text

/-- An operator asks for its own rank on its left and for a greater one on its right; an
initializer may be anything but a declaration. -/
def text : Expr → List Char
  | number x => x.digits
  | reference name => name.toList
  | assign name init => name.toList ++ ' ' :: '=' :: ' ' :: enclose 1 init init.text
  | announce keyword name => keyword.toList ++ ' ' :: name.toList
  | declare keyword name init =>
    keyword.toList ++ ' ' :: (name.toList ++ ' ' :: '=' :: ' ' :: enclose 1 init init.text)
  | binary left op right =>
    enclose op.rank left left.text ++
      ' ' :: (op.symbol.toList ++ ' ' :: enclose (op.rank + 1) right right.text)

def startsWithName : Expr → Bool
  | reference _ => true
  | binary left op _ => op.rank ≤ left.rank && left.startsWithName
  | _ => false

/-- A tree that is put in parentheses does not start with a name. -/
def Fits (least : Nat) (expr : Expr) : Prop := expr.rank < least → expr.startsWithName = false

def IsName (name : String) : Prop :=
  name.toList ≠ [] ∧ name.toList.all Lexing.isLetter = true ∧ name ≠ "const"

/-- The trees that can be written so that they are read again, apart from what is asked
of a statement. -/
def Formed : Expr → Prop
  | number x => x.IsWhole
  | reference name => IsName name
  | assign name init => IsName name ∧ init.Formed
  | announce _ _ => False
  | declare keyword name init => keyword = "const" ∧ IsName name ∧ init.Formed
  | binary left op right => left.Fits op.rank ∧ left.Formed ∧ right.Fits (op.rank + 1) ∧ right.Formed

/-- How many parentheses are open at once in the text of a tree in its place. -/
def around (least : Nat) (expr : Expr) (depth : Nat) : Nat := if expr.rank < least then depth + 1 else depth

def depth : Expr → Nat
  | number _ | reference _ | announce _ _ => 0
  | assign _ init | declare _ _ init => around 1 init init.depth
  | binary left op right => max (around op.rank left left.depth) (around (op.rank + 1) right right.depth)

theorem fits_one (expr : Expr) : expr.Fits 1 := by
  intro lower
  cases expr with
  | binary left op right => exact absurd (Nat.le_of_lt_succ lower) (Nat.not_le_of_lt op.rank_pos)
  | number | reference => simp [rank] at lower
  | assign | announce | declare => rfl

end Expr

namespace Program

def text (program : Program) : List Char := ['\n'].intercalate (program.body.map Expr.text)

def print (program : Program) : String := String.ofList program.text

/-- The programs that can be read from a text. -/
def Formed (program : Program) : Prop := ∀ expr ∈ program.body, expr.Formed ∧ expr.startsWithName = false

end Program

/-- The greatest number of parentheses that are open at once in a text, when `opened` are
open in front of it. -/
def nesting (opened : Nat) : List Char → Nat
  | [] => opened
  | ch :: text =>
    if ch = '(' then nesting (opened + 1) text
    else if ch = ')' then max opened (nesting (opened - 1) text)
    else nesting opened text

private theorem le_nesting (opened : Nat) (text : List Char) : opened ≤ nesting opened text := by
  induction text generalizing opened with
  | nil => exact Nat.le_refl opened
  | cons ch text ih =>
    unfold nesting
    split
    · exact Nat.le_trans (Nat.le_succ opened) (ih (opened + 1))
    · split
      · exact Nat.le_max_left _ _
      · exact ih opened

theorem nesting_plain {run : List Char} (plain : '(' ∉ run ∧ ')' ∉ run) (opened : Nat) (rest : List Char) :
    nesting opened (run ++ rest) = nesting opened rest := by
  induction run with
  | nil => rfl
  | cons ch run ih =>
    simp only [List.mem_cons, not_or] at plain
    rw [List.cons_append, nesting, if_neg (Ne.symm plain.1.1), if_neg (Ne.symm plain.2.1)]
    exact ih ⟨plain.1.2, plain.2.2⟩

/-- A text that closes what it opens, with at most `depth` open at once. -/
def Balanced (depth : Nat) (text : List Char) : Prop :=
  ∀ opened rest, nesting opened (text ++ rest) = max (opened + depth) (nesting opened rest)

theorem balanced_plain {run : List Char} (plain : '(' ∉ run ∧ ')' ∉ run) : Balanced 0 run := by
  intro opened rest
  rw [nesting_plain plain, Nat.add_zero, Nat.max_eq_right (le_nesting opened rest)]

theorem Balanced.append {depth depth' : Nat} {text text' : List Char} (balanced : Balanced depth text)
    (balanced' : Balanced depth' text') : Balanced (max depth depth') (text ++ text') := by
  intro opened rest
  rw [List.append_assoc, balanced, balanced', ← Nat.max_assoc, Nat.add_max_add_left]

theorem Balanced.enclose {depth : Nat} {text : List Char} (balanced : Balanced depth text)
    (least : Nat) (expr : Expr) : Balanced (expr.around least depth) (expr.enclose least text) := by
  intro opened rest
  unfold Expr.enclose Expr.around
  split
  · have inside := balanced (opened + 1) (')' :: rest)
    have closing : nesting (opened + 1) (')' :: rest) = max (opened + 1) (nesting opened rest) := by
      simp [nesting]
    rw [List.cons_append, List.append_assoc, nesting, if_pos rfl, List.singleton_append, inside, closing]
    omega
  · exact balanced opened rest

theorem Expr.IsName.balanced {name : String} (isName : Expr.IsName name) : Balanced 0 name.toList := by
  have letters := List.all_eq_true.mp isName.2.1
  exact balanced_plain ⟨fun inside => absurd (letters _ inside) (by decide),
    fun inside => absurd (letters _ inside) (by decide)⟩

private theorem balanced_digits (x : Binary64) : Balanced 0 x.digits := by
  have digits := List.all_eq_true.mp x.all_isDigit_digits
  exact balanced_plain ⟨fun inside => absurd (digits _ inside) (by decide),
    fun inside => absurd (digits _ inside) (by decide)⟩

private theorem Operator.balanced_symbol (op : Operator) : Balanced 0 op.symbol.toList := by
  apply balanced_plain
  cases op <;> decide

private theorem balanced_binding {name : String} {init : Expr} (isName : Expr.IsName name)
    (balanced : Balanced init.depth init.text) :
    Balanced (init.around 1 init.depth) (name.toList ++ ' ' :: '=' :: ' ' :: init.enclose 1 init.text) := by
  have sign : Balanced 0 [' ', '=', ' '] := balanced_plain (by decide)
  simpa using isName.balanced.append (sign.append (balanced.enclose 1 init))

theorem Expr.Formed.balanced {expr : Expr} (formed : expr.Formed) : Balanced expr.depth expr.text := by
  have space : Balanced 0 [' '] := balanced_plain (by decide)
  induction expr with
  | number x => exact balanced_digits x
  | reference name => exact IsName.balanced formed
  | assign name init ih => exact balanced_binding formed.1 (ih formed.2)
  | announce => exact formed.elim
  | declare keyword name init ih =>
    obtain ⟨rfl, isName, inner⟩ := formed
    have word : Balanced 0 "const".toList := balanced_plain (by decide)
    simpa [text, depth] using word.append (space.append (balanced_binding isName (ih inner)))
  | binary left op right ihLeft ihRight =>
    obtain ⟨-, formedLeft, -, formedRight⟩ := formed
    have sign := space.append (op.balanced_symbol.append space)
    have back := sign.append ((ihRight formedRight).enclose (op.rank + 1) right)
    simpa [text, depth] using ((ihLeft formedLeft).enclose op.rank left).append back

private theorem nesting_lines {exprs : List Expr} (formed : ∀ expr ∈ exprs, expr.Formed) (limit : Nat) :
    nesting 0 (['\n'].intercalate (exprs.map Expr.text)) ≤ limit ↔ ∀ expr ∈ exprs, expr.depth ≤ limit := by
  induction exprs with
  | nil => simp [nesting]
  | cons expr exprs ih =>
    obtain ⟨first, others⟩ := List.forall_mem_cons.mp formed
    cases exprs with
    | nil =>
      have alone := first.balanced 0 []
      rw [List.append_nil] at alone
      simp [alone, nesting]
    | cons next exprs =>
      have feed : ∀ rest, nesting 0 (['\n'] ++ rest) = nesting 0 rest := nesting_plain (by decide) 0
      rw [List.map_cons, List.map_cons, List.intercalate_cons_cons, List.append_assoc, first.balanced, feed,
        List.forall_mem_cons, ← ih others, Nat.max_le, Nat.zero_add, List.map_cons]

theorem Program.nesting_print_le_iff {program : Program} (formed : program.Formed) (limit : Nat) :
    nesting 0 program.print.toList ≤ limit ↔ ∀ expr ∈ program.body, expr.depth ≤ limit := by
  rw [Program.print, String.toList_ofList, Program.text]
  exact nesting_lines (fun expr inside => (formed expr inside).1) limit

end Formula
