import Formula.Proofs.LexingExactness

/-! Requests to one cursor, in any order. What has been read is what the replies have taken, one
behind the other, and the cursor stands right behind it: in front of all the rest of the text,
with the position and the line that this place has however it was come to. One request keeps
this from any place, and so does every run of requests. -/

namespace Formula
namespace Cursor

/-- The characters that a reply takes from the text. To look at one takes nothing. -/
def Request.taken : Request → Reply → List Char
  | .next, .char ch => ch.toList
  | .takeWhile _, .run run => run
  | _, _ => []

def taken (requests : List Request) (replies : List (Reply × Cursor)) : List Char :=
  (List.zipWith (fun request reply => request.taken reply.1) requests replies).flatten

def left (cursor : Cursor) (requests : List Request) : Cursor :=
  ((cursor.answers requests).getLast?.map (·.2)).getD cursor

/-- A cursor in a text of which `read` has been read. -/
structure Stands (text : String) (read : List Char) (cursor : Cursor) : Prop where
  whole : read ++ cursor.rest = text.toList
  pos : cursor.pos = min (2 ^ 32 - 1) (String.ofList read).utf8ByteSize
  line : cursor.line = 1 + read.count '\n'

/-- Of the runs that come next and are accepted throughout, this one is the longest. -/
structure IsLongest (accepts : Char → Bool) (rest run : List Char) : Prop where
  next : run <+: rest
  accepted : ∀ ch ∈ run, accepts ch = true
  longest : ∀ other, other <+: rest → (∀ ch ∈ other, accepts ch = true) → other <+: run

private theorem stands_between (text : String) {read rest : List Char} (whole : read ++ rest = text.toList) :
    Stands text read (between read rest) where
  whole := whole
  pos := by
    rw [Offset.utf8ByteSize_eq_bytes, String.toList_ofList, between,
      Offset.after_eq_min 0 read (Nat.zero_le _), Nat.zero_add, Offset.greatest]
  line := rfl

private theorem isLongest_takeWhile (accepts : Char → Bool) (rest : List Char) :
    IsLongest accepts rest (rest.takeWhile accepts) where
  next := List.takeWhile_prefix accepts
  accepted := List.all_eq_true.mp List.all_takeWhile
  longest := by
    rintro other ⟨back, rfl⟩ inside
    rw [List.takeWhile_append_of_pos inside]
    exact List.prefix_append other _

/-- One request, wherever it is made: what its reply has taken comes next in the text, and the
cursor is left right behind it. -/
private theorem answer_between (read rest : List Char) (request : Request) :
    ∃ back, rest = request.taken ((between read rest).answer request).1 ++ back ∧
      ((between read rest).answer request).2 =
        between (read ++ request.taken ((between read rest).answer request).1) back := by
  cases request with
  | peek => exact ⟨rest, rfl, by simp [Request.taken, answer]⟩
  | next =>
    cases rest with
    | nil => exact ⟨[], rfl, by simp [Request.taken, answer, next, between]⟩
    | cons ch rest => exact ⟨rest, rfl, between_pass read [ch] rest⟩
  | takeWhile accepts =>
    have split : rest = rest.takeWhile accepts ++ rest.dropWhile accepts :=
      List.takeWhile_append_dropWhile.symm
    have passed := between_pass read (rest.takeWhile accepts) (rest.dropWhile accepts)
    rw [← split] at passed
    exact ⟨rest.dropWhile accepts, split, passed⟩

theorem left_cons (cursor : Cursor) (request : Request) (requests : List Request) :
    cursor.left (request :: requests) = (cursor.answer request).2.left requests := by
  rw [left, left, answers, List.getLast?_cons]
  cases ((cursor.answer request).2.answers requests).getLast? <;> rfl

/-- A run of requests, by induction on it with the place it begins at left open. -/
private theorem left_between (read rest : List Char) (requests : List Request) :
    ∃ back, rest = taken requests ((between read rest).answers requests) ++ back ∧
      (between read rest).left requests =
        between (read ++ taken requests ((between read rest).answers requests)) back := by
  induction requests generalizing read rest with
  | nil => exact ⟨rest, rfl, by rw [taken, List.zipWith_nil_left, List.flatten_nil, List.append_nil]; rfl⟩
  | cons request requests ih =>
    obtain ⟨middle, split, reached⟩ := answer_between read rest request
    obtain ⟨back, split', reached'⟩ := ih (read ++ request.taken ((between read rest).answer request).1) middle
    rw [← reached] at split' reached'
    refine ⟨back, ?_, ?_⟩
    · rw [answers, taken, List.zipWith_cons_cons, List.flatten_cons, List.append_assoc]
      exact split.trans (congrArg _ split')
    · rw [left_cons, reached', List.append_assoc]
      rfl

private theorem answers_append (cursor : Cursor) (requests later : List Request) :
    cursor.answers (requests ++ later) = cursor.answers requests ++ (cursor.left requests).answers later := by
  induction requests generalizing cursor with
  | nil => rfl
  | cons request requests ih => rw [List.cons_append, answers, ih, left_cons, answers, List.cons_append]

private theorem length_answers (cursor : Cursor) (requests : List Request) :
    (cursor.answers requests).length = requests.length := by
  induction requests generalizing cursor with
  | nil => rfl
  | cons request requests ih => rw [answers, List.length_cons, ih, List.length_cons]

private theorem takeWhile_again (cursor : Cursor) (accepts : Char → Bool) :
    (cursor.takeWhile accepts).2.takeWhile accepts = ([], (cursor.takeWhile accepts).2) := by
  have nothing : (cursor.takeWhile accepts).2.rest.takeWhile accepts = [] := by
    rw [rest_takeWhile]
    induction cursor.rest with
    | nil => rfl
    | cons ch rest ih => by_cases accepted : accepts ch = true <;> simp [accepted, ih]
  rw [takeWhile, nothing, pass_nil]

/-- Whatever has been asked, the cursor stands behind all that the replies have taken. There the
next character is the one that can be looked at, which changes nothing, and a run is the longest
there is. -/
theorem left_stands (text : String) (requests : List Request) :
    let cursor := (ofText text).left requests
    Stands text (taken requests ((ofText text).answers requests)) cursor ∧
      ((ofText text).answers requests).length = requests.length ∧
      (∀ later, (ofText text).answers (requests ++ later) =
        (ofText text).answers requests ++ cursor.answers later) ∧
      (cursor.answer .next).1 = .char cursor.rest.head? ∧
      cursor.answer .peek = ((cursor.answer .next).1, cursor) ∧
      ∀ accepts, ∃ run, (cursor.answer (.takeWhile accepts)).1 = .run run ∧
        IsLongest accepts cursor.rest run ∧
        (cursor.answer (.takeWhile accepts)).2.answer (.takeWhile accepts) =
          (.run [], (cursor.answer (.takeWhile accepts)).2) := by
  intro cursor
  obtain ⟨back, whole, reached⟩ :
      ∃ back, text.toList = taken requests ((ofText text).answers requests) ++ back ∧
      cursor = between (taken requests ((ofText text).answers requests)) back :=
    left_between [] text.toList requests
  have next : (cursor.answer .next).1 = .char cursor.rest.head? := by
    simp only [answer, Cursor.next]
    cases cursor.rest <;> rfl
  refine ⟨?_, length_answers _ _, answers_append _ _, next, by rw [next]; rfl, fun accepts => ?_⟩
  · rw [reached]
    exact stands_between text whole.symm
  · refine ⟨cursor.rest.takeWhile accepts, rfl, isLongest_takeWhile accepts cursor.rest, ?_⟩
    simp only [answer, takeWhile_again]

example : (ofText "é\n1").left [.peek, .takeWhile (· ≠ '1'), .peek] = ⟨['1'], 3, 2⟩ := by decide +kernel

end Cursor
end Formula
