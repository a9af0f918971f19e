import Formula.Proofs.TextRuns
import Formula.Text.Quoted

/-! Quoted text tells what was quoted and where it ends. Each escape is read as the character
it stands for, whatever follows, and none of them begins with the quote that ends the text. -/

namespace Formula.Text

def hexDigit (ch : Char) : Nat := if ch.isDigit then ch.toNat - 48 else ch.toNat - 87

def hexNatural (run : List Char) : Nat := run.foldl (fun n ch => 16 * n + hexDigit ch) 0

def isInside (ch : Char) : Bool := ch != '\x7d'

theorem hexDigit_digitChar {n : Nat} (small : n < 16) :
    hexDigit n.digitChar = n ∧ isInside n.digitChar = true := by
  have all : ∀ n < 16, hexDigit n.digitChar = n ∧ isInside n.digitChar = true := by decide
  exact all n small

private theorem hexNatural_toDigits (n : Nat) :
    hexNatural (Nat.toDigits 16 n) = n ∧ (Nat.toDigits 16 n).all isInside = true := by
  induction n using Nat.strongRecOn with
  | ind n ih =>
    rcases Nat.lt_or_ge n 16 with small | great
    · have last := hexDigit_digitChar small
      rw [Nat.toDigits_of_lt_base small]
      simpa [hexNatural] using last
    · obtain ⟨value, inside⟩ := ih (n / 16) (Nat.div_lt_self (by omega) (by decide))
      have last := hexDigit_digitChar (Nat.mod_lt n (by decide : 16 > 0))
      rw [Nat.toDigits_of_base_le (by decide) great]
      constructor
      · rw [hexNatural, List.foldl_append, ← hexNatural, value, List.foldl_cons, List.foldl_nil, last.1]
        omega
      · rw [List.all_append, inside, List.all_cons, last.2]
        rfl

/-- The character at the front of quoted text, and what follows it. A quote is none. -/
def readChar : List Char → Option (Char × List Char)
  | [] => none
  | '"' :: _ => none
  | '\\' :: '0' :: rest => some ('\x00', rest)
  | '\\' :: 't' :: rest => some ('\t', rest)
  | '\\' :: 'n' :: rest => some ('\n', rest)
  | '\\' :: 'r' :: rest => some ('\r', rest)
  | '\\' :: 'u' :: '\x7b' :: rest =>
    some (Char.ofNat (hexNatural (rest.takeWhile isInside)), (rest.dropWhile isInside).tail)
  | '\\' :: ch :: rest => some (ch, rest)
  | ch :: rest => some (ch, rest)

private theorem readChar_codeEscape (ch : Char) (rest : List Char) :
    readChar (codeEscape ch ++ rest) = some (ch, rest) := by
  obtain ⟨value, inside⟩ := hexNatural_toDigits ch.toNat
  have stop : ∀ ch ∈ ('\x7d' :: rest).head?, isInside ch = false := by
    rintro ch ⟨⟩
    rfl
  have spelled : codeEscape ch ++ rest =
      '\\' :: 'u' :: '\x7b' :: (Nat.toDigits 16 ch.toNat ++ '\x7d' :: rest) := by
    simp [codeEscape]
  rw [spelled, readChar, takeWhile_run inside stop, dropWhile_run inside stop, value, Char.ofNat_toNat,
    List.tail_cons]

private theorem readChar_plain {ch : Char} (rest : List Char) (noQuote : ch ≠ '"') (noBackslash : ch ≠ '\\') :
    readChar (ch :: rest) = some (ch, rest) := by
  unfold readChar
  split <;> simp_all

/-- Whatever follows, an escape is read as what it stands for. -/
theorem readChar_escape (ch : Char) (rest : List Char) : readChar (escape ch ++ rest) = some (ch, rest) := by
  have named : ∀ special ∈ ['\x00', '\t', '\n', '\r', '"', '\\'],
      readChar (escape special ++ rest) = some (special, rest) := by
    simp [escape, readChar]
  by_cases special : ch ∈ ['\x00', '\t', '\n', '\r', '"', '\\']
  · exact named ch special
  · have other : escape ch = if isPrintable ch then [ch] else codeEscape ch := by
      simp_all [escape]
    rw [other]
    split
    · apply readChar_plain <;> simp_all
    · exact readChar_codeEscape ch rest

private theorem escaped_unique {text text' rest rest' : List Char}
    (same : text.flatMap escape ++ '"' :: rest = text'.flatMap escape ++ '"' :: rest') :
    text = text' ∧ rest = rest' := by
  induction text generalizing text' with
  | nil =>
    cases text' with
    | nil => exact ⟨rfl, (List.cons.inj same).2⟩
    | cons ch' more' =>
      rw [List.flatMap_cons, List.append_assoc] at same
      have read := readChar_escape ch' (more'.flatMap escape ++ '"' :: rest')
      rw [← same] at read
      cases read
  | cons ch more ih =>
    rw [List.flatMap_cons, List.append_assoc] at same
    have read := readChar_escape ch (more.flatMap escape ++ '"' :: rest)
    cases text' with
    | nil =>
      rw [same] at read
      cases read
    | cons ch' more' =>
      rw [List.flatMap_cons, List.append_assoc] at same
      rw [same, readChar_escape] at read
      obtain ⟨rfl, onward⟩ := Prod.mk.inj (Option.some.inj read)
      obtain ⟨rfl, ends⟩ := ih onward.symm
      exact ⟨rfl, ends⟩

theorem toList_quoted (text : String) : (quoted text).toList = '"' :: (text.toList.flatMap escape ++ ['"']) :=
  String.toList_ofList

/-- What begins with a quoted text does so in one way. -/
theorem quoted_unique {text text' : String} {rest rest' : List Char}
    (same : (quoted text).toList ++ rest = (quoted text').toList ++ rest') : text = text' ∧ rest = rest' := by
  rw [toList_quoted, toList_quoted] at same
  have inside : text.toList.flatMap escape ++ '"' :: rest = text'.toList.flatMap escape ++ '"' :: rest' := by
    simpa using same
  obtain ⟨spelled, ends⟩ := escaped_unique inside
  exact ⟨String.toList_inj.mp spelled, ends⟩

theorem quoted_inj {text text' : String} : quoted text = quoted text' ↔ text = text' := by
  constructor
  · intro same
    have texts : (quoted text).toList ++ [] = (quoted text').toList ++ [] := by rw [same]
    exact (quoted_unique texts).1
  · rintro rfl
    rfl

end Formula.Text
