import Formula.Proofs.LexingUnknown
import Mathlib.Data.List.Forall2

/-! Texts put side by side. When no run goes on over the seam, a cut of each of them makes
a cut of both together: the gap at the end of the first is put in front of the first
lexeme of the second. So the tokens are those of the one text and then those of the
other, which now stand further behind. -/

namespace Formula
namespace Lexing

/-- No run of the first text goes on into the second. -/
def Parted (front back : List Char) : Prop :=
  ∀ ch ∈ front.getLast?, ∀ next ∈ back.head?,
    (ch.isDigit = true → next.isDigit = false) ∧ (isLetter ch = true → isLetter next = false)

def Piece.after {gap : List Char} (blank : gap.all isBlank = true) (piece : Piece) : Piece where
  gap := gap ++ piece.gap
  blank := by rw [List.all_append, blank, piece.blank, Bool.and_self]
  kind := piece.kind
  run := piece.run
  lexeme := piece.lexeme

private theorem Parted.merge_eq_false {front back : List Char} (parted : Parted front back) {piece next : Piece}
    (lead rest : List Char) (ends : front = lead ++ piece.run) (begins : back = next.run ++ rest) :
    merge piece.run next.run = false := by
  obtain ⟨first, more, spelled, -⟩ := next.lexeme.first
  obtain ⟨head, tail, filled, -⟩ := piece.lexeme.first
  have nonempty : piece.run ≠ [] := by simp [filled]
  have last : front.getLast? = some (piece.run.getLast nonempty) := by
    rw [ends, List.getLast?_append, List.getLast?_eq_getLast_of_ne_nil nonempty, Option.some_or]
  have inside := List.getLast_mem nonempty
  obtain ⟨digits, letters⟩ := parted _ last first (by simp [begins, spelled])
  refine Bool.eq_false_iff.mpr fun merged => ?_
  rcases (Bool.or_eq_true _ _).mp merged with both | both
  all_goals
    obtain ⟨all, all'⟩ := (Bool.and_eq_true _ _).mp both
    have here := List.all_eq_true.mp all _ inside
    have there := List.all_eq_true.mp all' first (by simp [spelled])
  · simp [digits here] at there
  · simp [letters here] at there

namespace Segmentation

variable {front back : List Char}

def append (cut : Segmentation front) (cut' : Segmentation back) (parted : Parted front back) :
    Segmentation (front ++ back) :=
  match cut' with
  | ⟨[], last, blank, _, whole⟩ =>
    { pieces := cut.pieces
      last := cut.last ++ last
      blank := by rw [List.all_append, cut.blank, blank, Bool.and_self]
      apart := cut.apart
      whole := by
        rw [List.flatMap_nil, List.nil_append] at whole
        rw [← List.append_assoc, cut.whole, whole] }
  | ⟨first :: more, last, blank, apart, whole⟩ =>
    { pieces := cut.pieces ++ first.after cut.blank :: more
      last := last
      blank := blank
      apart := by
        refine List.isChain_append.mpr ⟨cut.apart, ?_, fun piece ending next beginning => ?_⟩
        · exact List.isChain_cons.mpr (List.isChain_cons.mp apart)
        · obtain rfl := Option.some.inj beginning
          -- The gap at the seam is empty only if neither text has blanks there.
          intro empty
          obtain ⟨noGap, noLead⟩ := List.append_eq_nil_iff.mp empty
          obtain ⟨lead, pieces⟩ := List.getLast?_eq_some_iff.mp ending
          refine parted.merge_eq_false (lead.flatMap Piece.text ++ piece.gap)
            (more.flatMap Piece.text ++ last) ?_ ?_
          · simp [← cut.whole, pieces, noGap, Piece.text]
          · simp [← whole, Piece.text, Piece.after, noLead]
      whole := by
        have lead : front = cut.pieces.flatMap Piece.text ++ cut.last := cut.whole.symm
        simp [lead, ← whole, Piece.text, Piece.after] }

theorem placed_append (cut : Segmentation front) (cut' : Segmentation back) (parted : Parted front back)
    (before : List Char) :
    placed before (cut.append cut' parted).pieces =
      placed before cut.pieces ++ placed (before ++ front) cut'.pieces := by
  obtain ⟨pieces, last, blank, apart, whole⟩ := cut'
  cases pieces with
  | nil => simp [append, placed]
  | cons first more =>
    have lead : front = cut.pieces.flatMap Piece.text ++ cut.last := cut.whole.symm
    rw [append, Lexing.placed_append]
    simp [lead, placed, Piece.token, Piece.text, Piece.after]

private theorem kind_ne_end (cut : Segmentation front) (known : ∀ ch ∈ front, ¬ IsUnknown ch) {token : Token}
    (inside : token ∈ placed [] cut.pieces) : token.kind ≠ .endOfInput := by
  obtain ⟨lead, piece, rest, pieces, rfl⟩ := mem_placed_iff.mp inside
  intro isEnd
  obtain ⟨ch, member, unknown⟩ := cut.exists_unknown_iff.mpr ⟨piece, by simp [pieces], isEnd⟩
  exact known ch member unknown

end Segmentation

theorem IsUnknown.parted {ch : Char} (unknown : IsUnknown ch) (front back : List Char) :
    Parted front (ch :: back) ∧ Ends [ch] back := by
  obtain ⟨-, noDigit, noLetter, -⟩ := unknown
  constructor
  · intro last _ next first
    obtain rfl := Option.some.inj first
    exact ⟨fun _ => noDigit, fun _ => noLetter⟩
  · intro next _
    simp [noDigit, noLetter]

end Lexing

open Lexing

theorem tokenize_of_toList {source : String} {text : List Char} (spelled : source.toList = text)
    (cut : Segmentation text) : Source.tokenize source = cut.tokens := by
  subst spelled
  exact tokenize_eq cut

/-- The tokens of a text up to its first unknown character are those of what stands in
front of it. What ends them is the unknown character, and not the end of the text. -/
theorem tokenize_unknown {front : String} (back : String) {ch : Char} (known : ∀ ch ∈ front.toList, ¬ IsUnknown ch)
    (unknown : IsUnknown ch) :
    ∃ tokens later, (∀ token ∈ tokens, token.kind ≠ .endOfInput) ∧
      Source.tokenize front = tokens ++ [⟨.endOfInput, "", .behind front.toList []⟩] ∧
      Source.tokenize (front ++ String.singleton ch ++ back) =
        tokens ++ ⟨.endOfInput, String.singleton ch, .behind front.toList [ch]⟩ :: later := by
  obtain ⟨cut⟩ := exists_segmentation front.toList
  obtain ⟨rest⟩ := exists_segmentation back.toList
  obtain ⟨parted, ends⟩ := unknown.parted front.toList back.toList
  let stop : Piece := ⟨[], rfl, .endOfInput, [ch], .unknown unknown.1 unknown.2.1 unknown.2.2.1 unknown.2.2.2⟩
  let behind : Segmentation (ch :: back.toList) := rest.push stop ends
  have placed_behind : placed front.toList behind.pieces =
      ⟨.endOfInput, String.singleton ch, .behind front.toList [ch]⟩ ::
        placed (front.toList ++ [ch]) rest.pieces := by
    simp [behind, stop, Segmentation.push, placed, Piece.token, Piece.text]
  let last : Token := ⟨.endOfInput, "", .behind (front.toList ++ ch :: back.toList) []⟩
  refine ⟨placed [] cut.pieces, placed (front.toList ++ [ch]) rest.pieces ++ [last],
    fun _ => cut.kind_ne_end known, tokenize_eq cut, ?_⟩
  rw [tokenize_of_toList (by simp) (cut.append behind parted), Segmentation.tokens,
    cut.placed_append behind parted, List.nil_append, placed_behind, List.append_assoc, List.cons_append]

end Formula
