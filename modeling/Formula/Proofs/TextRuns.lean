/-! Runs of characters of one class. Where a run ends can be told from the text, provided that
what follows does not carry it on. -/

namespace Formula

variable {accepts : Char → Bool} {run run' rest rest' : List Char}

theorem takeWhile_run (inside : run.all accepts = true) (stop : ∀ ch ∈ rest.head?, accepts ch = false) :
    (run ++ rest).takeWhile accepts = run := by
  rw [List.takeWhile_append_of_pos (by simpa using inside)]
  cases rest with
  | nil => simp
  | cons ch rest => simp [stop ch rfl]

theorem dropWhile_run (inside : run.all accepts = true) (stop : ∀ ch ∈ rest.head?, accepts ch = false) :
    (run ++ rest).dropWhile accepts = rest := by
  rw [List.dropWhile_append_of_pos (by simpa using inside)]
  cases rest with
  | nil => simp
  | cons ch rest => simp [stop ch rfl]

/-- Only in one way a text begins with a run that does not go on. -/
theorem run_unique (inside : run.all accepts = true) (inside' : run'.all accepts = true)
    (stop : ∀ ch ∈ rest.head?, accepts ch = false) (stop' : ∀ ch ∈ rest'.head?, accepts ch = false)
    (same : run ++ rest = run' ++ rest') : run = run' ∧ rest = rest' := by
  constructor
  · rw [← takeWhile_run inside stop, same, takeWhile_run inside' stop']
  · rw [← dropWhile_run inside stop, same, dropWhile_run inside' stop']

end Formula
