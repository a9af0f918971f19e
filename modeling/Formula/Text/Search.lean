/-! Finding one text in another. -/

namespace Formula.Text

def beginsWith (word text : String) : Bool := word.toList.isPrefixOf text.toList

/-- Whether `word` stands anywhere in `text`. The empty word stands everywhere. -/
def occursIn (word : List Char) : List Char → Bool
  | [] => word.isEmpty
  | ch :: rest => word.isPrefixOf (ch :: rest) || occursIn word rest

def mentions (word text : String) : Bool := occursIn word.toList text.toList

theorem occursIn_iff {word text : List Char} :
    occursIn word text = true ↔ ∃ front back, text = front ++ word ++ back := by
  induction text with
  | nil => simp [occursIn]
  | cons ch rest ih =>
    simp only [occursIn, Bool.or_eq_true, ih, List.isPrefixOf_iff_prefix]
    constructor
    · rintro (⟨back, whole⟩ | ⟨front, back, whole⟩)
      · exact ⟨[], back, by simp [whole]⟩
      · exact ⟨ch :: front, back, by simp [whole]⟩
    · rintro ⟨front, back, whole⟩
      cases front with
      | nil => exact .inl ⟨back, by simpa using whole.symm⟩
      | cons first front =>
        simp only [List.cons_append, List.cons.injEq] at whole
        exact .inr ⟨front, back, whole.2⟩

end Formula.Text
