import Formula.Span

/-! A cursor reads a text forwards, one character or one run of characters at
a time, and knows the position and the line it has come to. -/

namespace Formula

structure Cursor where
  rest : List Char
  pos : Nat
  line : Nat
deriving DecidableEq

namespace Cursor

def ofText (text : String) : Cursor := ⟨text.toList, 0, 1⟩

def pass (cursor : Cursor) (run : List Char) : Cursor where
  rest := cursor.rest.drop run.length
  pos := Offset.after cursor.pos run
  line := cursor.line + run.count '\n'

def peek (cursor : Cursor) : Option Char := cursor.rest.head?

def next (cursor : Cursor) : Option Char × Cursor :=
  match cursor.rest with
  | [] => (none, cursor)
  | ch :: _ => (some ch, cursor.pass [ch])

/-- The longest run of characters in `accepts` that comes next. -/
def takeWhile (cursor : Cursor) (accepts : Char → Bool) : List Char × Cursor :=
  let run := cursor.rest.takeWhile accepts
  (run, cursor.pass run)

def spanTo (before after : Cursor) : Span := ⟨before.pos, after.pos, before.line⟩

@[simp] theorem pass_nil (cursor : Cursor) : cursor.pass [] = cursor := by
  simp [pass]

theorem rest_takeWhile (cursor : Cursor) (accepts : Char → Bool) :
    (cursor.takeWhile accepts).2.rest = cursor.rest.dropWhile accepts := by
  have split : ((cursor.rest.takeWhile accepts) ++ cursor.rest.dropWhile accepts).drop
      (cursor.rest.takeWhile accepts).length = cursor.rest.dropWhile accepts := List.drop_left
  rwa [List.takeWhile_append_dropWhile] at split

inductive Request where
  | next
  | peek
  | takeWhile (accepts : Char → Bool)

inductive Reply where
  | char (ch : Option Char)
  | run (chars : List Char)
deriving DecidableEq

def answer (cursor : Cursor) : Request → Reply × Cursor
  | .next => (.char cursor.next.1, cursor.next.2)
  | .peek => (.char cursor.peek, cursor)
  | .takeWhile accepts => (.run (cursor.takeWhile accepts).1, (cursor.takeWhile accepts).2)

def answers (cursor : Cursor) : List Request → List (Reply × Cursor)
  | [] => []
  | request :: requests =>
    let reply := cursor.answer request
    reply :: reply.2.answers requests

end Cursor
end Formula
