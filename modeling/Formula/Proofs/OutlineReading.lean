import Formula.Outline
import Formula.Proofs.TextQuoting
import Mathlib.Data.List.TakeWhile

/-! The text of an outline tells the outline, on one line as in a block. An outline is a word,
and what stands behind the word tells which of the kinds it is; a part ends at what no part
begins with. So by induction on the outline its text is told from whatever follows it. -/

namespace Formula

/-- The characters of names and of numbers. -/
def isWordChar (ch : Char) : Bool := ch.isAlphanum || ch == '.' || ch == '-'

inductive Mark where
  | quote
  | colon
  | opened (bracket : Bracket)
  | other
deriving DecidableEq

namespace Mark

def ofText : List Char → Mark
  | '"' :: _ => quote
  | ':' :: _ => colon
  | '(' :: _ => opened .round
  | '[' :: _ => opened .square
  | ' ' :: '\x7b' :: _ => opened .brace
  | _ => other

/-- No part begins like the text or goes on with it. -/
structure Ends (text : List Char) : Prop where
  stop : ∀ ch ∈ text.head?, isWordChar ch = false
  other : ofText text = .other

/-- Nothing that is marked goes on with a word. -/
theorem stop_of_ne_other {text : List Char} (marked : ofText text ≠ other) :
    ∀ ch ∈ text.head?, isWordChar ch = false := by
  unfold ofText at marked
  split at marked <;> simp_all [isWordChar]

private theorem ofText_word {text : List Char} (filled : text ≠ []) (word : text.all isWordChar = true) :
    ofText text = other := by
  apply Classical.byContradiction
  intro marked
  obtain ⟨ch, more, rfl⟩ := List.exists_cons_of_ne_nil filled
  have stop := stop_of_ne_other marked ch rfl
  simp [stop] at word

end Mark

open Mark (Ends)

namespace Layout

def gap : Layout → Bracket → List Char
  | line, .brace => [' ']
  | line, _ => []
  | block _, _ => ['\n']

end Layout

def Bracket.closer : Bracket → Char
  | round => ')'
  | square => ']'
  | brace => '\x7d'

def Bracket.sign : Bracket → List Char
  | round => ['(']
  | square => ['[']
  | brace => [' ', '\x7b']

private theorem Layout.toList_opening (layout : Layout) (bracket : Bracket) :
    (layout.opening bracket).toList = bracket.sign ++ layout.gap bracket := by
  cases layout <;> cases bracket <;> simp [opening, Bracket.sign, gap]

private theorem Mark.ofText_sign (bracket : Bracket) (rest : List Char) :
    ofText (bracket.sign ++ rest) = opened bracket := by
  cases bracket <;> rfl

namespace Outline

def inside (layout : Layout) (bracket : Bracket) (items : List Outline) : List Char :=
  (renderAll layout.inner items).toList ++ (layout.closing bracket).toList

def onward (layout : Layout) (bracket : Bracket) (items : List Outline) : List Char :=
  (layout.inner.trail items.isEmpty).toList ++ inside layout bracket items

def contents (layout : Layout) (bracket : Bracket) : List Outline → List Char
  | [] => Layout.line.gap bracket ++ inside .line bracket []
  | item :: items => layout.gap bracket ++ inside layout bracket (item :: items)

theorem inside_cons (layout : Layout) (bracket : Bracket) (item : Outline) (items : List Outline) :
    inside layout bracket (item :: items) =
      layout.inner.lead.toList ++ ((item.render layout.inner).toList ++ onward layout bracket items) := by
  simp [inside, onward, renderAll]

theorem inside_line_nil (bracket : Bracket) :
    inside .line bracket [] = Layout.line.gap bracket ++ [bracket.closer] := by
  cases bracket <;> rfl

private theorem inside_block_nil (level : Nat) (bracket : Bracket) :
    inside (.block level) bracket [] = List.replicate (4 * level) ' ' ++ [bracket.closer] := by
  cases bracket <;> simp [inside, renderAll, Layout.closing, Layout.indent, Bracket.closer]

theorem onward_block (level : Nat) (bracket : Bracket) (items : List Outline) :
    onward (.block level) bracket items = ',' :: '\n' :: inside (.block level) bracket items := by
  simp [onward, Layout.inner, Layout.trail]

theorem onward_line_nil (bracket : Bracket) : onward .line bracket [] = inside .line bracket [] := rfl

theorem onward_line_cons (bracket : Bracket) (item : Outline) (items : List Outline) :
    onward .line bracket (item :: items) = ',' :: ' ' :: inside .line bracket (item :: items) := by
  simp [onward, Layout.inner, Layout.trail]

theorem contents_line (bracket : Bracket) (items : List Outline) :
    contents .line bracket items = Layout.line.gap bracket ++ inside .line bracket items := by
  cases items <;> rfl

private theorem toList_render_group (layout : Layout) (head : String) (bracket : Bracket)
    (items : List Outline) :
    ((group head bracket items).render layout).toList =
      head.toList ++ (bracket.sign ++ contents layout bracket items) := by
  cases items <;> simp [render, contents, inside, renderAll, Layout.toList_opening]

def word : Outline → List Char
  | atom text => text.toList.takeWhile isWordChar
  | field label _ => label.toList
  | group head _ _ => head.toList

def behind (layout : Layout) : Outline → List Char
  | atom text => text.toList.dropWhile isWordChar
  | field _ value => ':' :: ' ' :: (value.render layout).toList
  | group _ bracket items => bracket.sign ++ contents layout bracket items

def mark : Outline → Mark
  | atom text => .ofText text.toList
  | field _ _ => .colon
  | group _ bracket _ => .opened bracket

theorem toList_render (layout : Layout) (outline : Outline) :
    (outline.render layout).toList = outline.word ++ outline.behind layout := by
  cases outline with
  | atom text => exact List.takeWhile_append_dropWhile.symm
  | field label value => simp [render, word, behind]
  | group head bracket items => exact toList_render_group layout head bracket items

/-- Outlines whose atoms are words or quoted texts and whose names are words. -/
inductive Legible : Outline → Prop where
  | word {text : String} (filled : text.toList ≠ []) (word : text.toList.all isWordChar = true) :
    Legible (.atom text)
  | quoted (text : String) : Legible (.atom (Text.quoted text))
  | field {label : String} {value : Outline} (word : label.toList.all isWordChar = true)
    (legible : Legible value) : Legible (.field label value)
  | group {head : String} {bracket : Bracket} {items : List Outline} (word : head.toList.all isWordChar = true)
    (legible : ∀ item ∈ items, Legible item) : Legible (.group head bracket items)

theorem legible_one {head : String} {bracket : Bracket} {item : Outline}
    (word : head.toList.all isWordChar = true) (legible : item.Legible) :
    (group head bracket [item]).Legible := by
  apply Legible.group word
  rintro part inside
  rwa [List.mem_singleton.mp inside]

theorem legible_optional {value : Option Outline} (legible : ∀ inner ∈ value, inner.Legible) :
    (optional value).Legible := by
  cases value with
  | none => exact .word (by decide) (by decide)
  | some inner => exact legible_one rfl (legible inner rfl)

theorem word_atom {text : String} (word : text.toList.all isWordChar = true) : (atom text).word = text.toList :=
  List.takeWhile_eq_self_iff.mpr (List.all_eq_true.mp word)

theorem behind_atom {text : String} (layout : Layout) (word : text.toList.all isWordChar = true) :
    (atom text).behind layout = [] :=
  List.dropWhile_eq_nil_iff.mpr (List.all_eq_true.mp word)

theorem mark_atom {text : String} (filled : text.toList ≠ []) (word : text.toList.all isWordChar = true) :
    (atom text).mark = .other :=
  Mark.ofText_word filled word

theorem mark_quoted (text : String) : (atom (Text.quoted text)).mark = .quote := by
  rw [mark, Text.toList_quoted]
  rfl

namespace Legible

variable {layout : Layout} {bracket : Bracket} {outline : Outline} {rest : List Char}

theorem all_word (legible : outline.Legible) : outline.word.all isWordChar = true := by
  cases legible with
  | word _ _ => exact List.all_takeWhile
  | quoted _ => exact List.all_takeWhile
  | field word _ => exact word
  | group word _ => exact word

theorem of_mark (legible : outline.Legible) :
    match outline.mark with
    | .quote => ∃ text, outline = .atom (Text.quoted text)
    | .colon => ∃ label value, outline = .field label value ∧ value.Legible
    | .opened bracket => ∃ head items, outline = .group head bracket items ∧ ∀ item ∈ items, item.Legible
    | .other => ∃ text, outline = .atom text ∧ text.toList ≠ [] ∧ text.toList.all isWordChar = true := by
  cases legible with
  | word filled word =>
    rw [mark_atom filled word]
    exact ⟨_, rfl, filled, word⟩
  | quoted text =>
    rw [mark_quoted]
    exact ⟨text, rfl⟩
  | field _ legible => exact ⟨_, _, rfl, legible⟩
  | group _ legible => exact ⟨_, _, rfl, legible⟩

/-- What stands behind the word is what the outline is marked with. -/
theorem ofText_behind (legible : outline.Legible) (ends : Ends rest) :
    Mark.ofText (outline.behind layout ++ rest) = outline.mark := by
  cases legible with
  | word filled word =>
    rw [behind_atom layout word, mark_atom filled word]
    exact ends.other
  | quoted text =>
    rw [mark_quoted, behind, Text.toList_quoted]
    rfl
  | field _ _ => rfl
  | group _ _ =>
    rw [behind, List.append_assoc, Mark.ofText_sign]
    rfl

theorem stop_behind (legible : outline.Legible) (ends : Ends rest) :
    ∀ ch ∈ (outline.behind layout ++ rest).head?, isWordChar ch = false := by
  by_cases unmarked : outline.mark = .other
  · have atom := legible.of_mark
    rw [unmarked] at atom
    obtain ⟨text, rfl, -, word⟩ := atom
    rw [behind_atom layout word]
    exact ends.stop
  · apply Mark.stop_of_ne_other
    rwa [legible.ofText_behind ends]

/-- The word and the kind are told from what follows. -/
theorem split_unique {outline' : Outline} {rest' : List Char} (legible : outline.Legible)
    (legible' : outline'.Legible) (ends : Ends rest) (ends' : Ends rest')
    (same : (outline.render layout).toList ++ rest = (outline'.render layout).toList ++ rest') :
    outline.word = outline'.word ∧ outline.mark = outline'.mark ∧
      outline.behind layout ++ rest = outline'.behind layout ++ rest' := by
  rw [toList_render, toList_render, List.append_assoc, List.append_assoc] at same
  obtain ⟨words, behind⟩ := run_unique legible.all_word legible'.all_word (legible.stop_behind ends)
    (legible'.stop_behind ends') same
  refine ⟨words, ?_, behind⟩
  rw [← legible.ofText_behind ends, behind, legible'.ofText_behind ends']

end Legible

theorem ends_comma (rest : List Char) : Ends (',' :: rest) := by
  refine ⟨?_, rfl⟩
  rintro ch ⟨⟩
  decide

theorem ends_closing (bracket : Bracket) (rest : List Char) : Ends (inside .line bracket [] ++ rest) := by
  rw [inside_line_nil]
  constructor
  · cases bracket <;> rintro ch ⟨⟩ <;> decide
  · cases bracket <;> rfl

theorem ends_onward (layout : Layout) (bracket : Bracket) (items : List Outline) (rest : List Char) :
    Ends (onward layout bracket items ++ rest) := by
  cases layout with
  | block level =>
    rw [onward_block]
    exact ends_comma _
  | line =>
    cases items with
    | nil => exact ends_closing bracket rest
    | cons item items =>
      rw [onward_line_cons]
      exact ends_comma _

section Items

variable {layout : Layout} {bracket : Bracket} {item : Outline} {items items' : List Outline}
  {rest rest' : List Char}

theorem closing_ne_item (legible : item.Legible) (rest rest' : List Char) :
    inside layout bracket [] ++ rest ≠ inside layout bracket (item :: items) ++ rest' := by
  intro same
  rw [inside_cons] at same
  cases layout with
  | line =>
    -- a part without a word is marked, and the bracket that closes is not
    have ends := ends_closing bracket rest
    have ends' := ends_onward .line bracket items rest'
    have spelled : [] ++ (inside .line bracket [] ++ rest) =
        item.word ++ (item.behind .line ++ (onward .line bracket items ++ rest')) := by
      rw [← List.append_assoc item.word, ← toList_render]
      simpa [Layout.inner, Layout.lead] using same
    obtain ⟨wordless, behind⟩ :=
      run_unique rfl legible.all_word ends.stop (legible.stop_behind ends') spelled
    have atom := legible.of_mark
    rw [← legible.ofText_behind ends', ← behind, ends.other] at atom
    obtain ⟨text, rfl, filled, word⟩ := atom
    exact filled ((word_atom word).symm.trans wordless.symm)
  | block level =>
    -- a part stands further in than the bracket that closes
    have indent : Layout.lead (.block (level + 1)) = Layout.indent (level + 1) := rfl
    have further : (Layout.indent (level + 1)).toList =
        List.replicate (4 * level) ' ' ++ [' ', ' ', ' ', ' '] := by
      rw [Layout.indent, String.toList_ofList, Nat.mul_add, ← List.replicate_append_replicate]
      rfl
    rw [Layout.inner, indent, further, inside_block_nil] at same
    simp only [List.append_assoc, List.append_cancel_left_eq] at same
    cases bracket <;> cases same

private theorem onward_cancel (same : onward layout bracket items ++ rest = onward layout bracket items' ++ rest') :
    inside layout bracket items ++ rest = inside layout bracket items' ++ rest' := by
  cases layout with
  | block level =>
    simp only [onward_block] at same
    exact @List.append_cancel_left _ [',', '\n'] _ _ same
  | line =>
    cases items with
    | nil =>
      cases items' with
      | nil => exact same
      | cons item' items' =>
        rw [onward_line_nil, onward_line_cons, inside_line_nil] at same
        cases bracket <;> cases same
    | cons item items =>
      cases items' with
      | nil =>
        rw [onward_line_nil, onward_line_cons, inside_line_nil] at same
        cases bracket <;> cases same
      | cons item' items' =>
        simp only [onward_line_cons] at same
        exact @List.append_cancel_left _ [',', ' '] _ _ same

/-- Whatever follows, the text tells the outline and where it ends. -/
def Telling (outline : Outline) : Prop :=
  ∀ ⦃layout : Layout⦄ ⦃outline' : Outline⦄ ⦃rest rest' : List Char⦄,
    outline'.Legible → Ends rest → Ends rest' →
      (outline.render layout).toList ++ rest = (outline'.render layout).toList ++ rest' →
        outline = outline' ∧ rest = rest'

theorem inside_unique (telling : ∀ item ∈ items, item.Telling) (legible : ∀ item ∈ items, item.Legible)
    (legible' : ∀ item ∈ items', item.Legible)
    (same : inside layout bracket items ++ rest = inside layout bracket items' ++ rest') :
    items = items' ∧ rest = rest' := by
  induction items generalizing items' with
  | nil =>
    cases items' with
    | nil => exact ⟨rfl, List.append_cancel_left same⟩
    | cons item' items' => exact absurd same (closing_ne_item (legible' item' List.mem_cons_self) rest rest')
  | cons item items ih =>
    cases items' with
    | nil => exact absurd same.symm (closing_ne_item (legible item List.mem_cons_self) rest' rest)
    | cons item' items' =>
      rw [List.forall_mem_cons] at telling legible legible'
      simp only [inside_cons, List.append_assoc, List.append_cancel_left_eq] at same
      obtain ⟨rfl, onward⟩ := telling.1 legible'.1 (ends_onward layout bracket items rest)
        (ends_onward layout bracket items' rest') same
      obtain ⟨rfl, ends⟩ := ih telling.2 legible.2 legible'.2 (onward_cancel onward)
      exact ⟨rfl, ends⟩

private theorem contents_unique (telling : ∀ item ∈ items, item.Telling)
    (legible : ∀ item ∈ items, item.Legible)
    (legible' : ∀ item ∈ items', item.Legible)
    (same : contents layout bracket items ++ rest = contents layout bracket items' ++ rest') :
    items = items' ∧ rest = rest' := by
  cases layout with
  | line =>
    rw [contents_line, contents_line, List.append_assoc, List.append_assoc] at same
    exact inside_unique telling legible legible' (List.append_cancel_left same)
  | block level =>
    cases items with
    | nil =>
      cases items' with
      | nil => exact ⟨rfl, List.append_cancel_left same⟩
      | cons item' items' =>
        rw [contents, contents, inside_line_nil] at same
        cases bracket <;> cases same
    | cons item items =>
      cases items' with
      | nil =>
        rw [contents, contents, inside_line_nil] at same
        cases bracket <;> cases same
      | cons item' items' =>
        rw [contents, contents, List.append_assoc, List.append_assoc] at same
        exact inside_unique telling legible legible' (List.append_cancel_left same)

end Items

theorem Legible.telling {outline : Outline} (legible : outline.Legible) : outline.Telling := by
  induction legible with
  | @word text filled word =>
    intro layout outline' rest rest' legible' ends ends' same
    obtain ⟨words, marks, behind⟩ := (Legible.word filled word).split_unique legible' ends ends' same
    have kind := legible'.of_mark
    rw [← marks, mark_atom filled word] at kind
    obtain ⟨text', rfl, -, word'⟩ := kind
    rw [word_atom word, word_atom word', String.toList_inj] at words
    rw [behind_atom layout word, behind_atom layout word'] at behind
    exact ⟨congrArg atom words, behind⟩
  | quoted text =>
    intro layout outline' rest rest' legible' ends ends' same
    obtain ⟨-, marks, -⟩ := (Legible.quoted text).split_unique legible' ends ends' same
    have kind := legible'.of_mark
    rw [← marks, mark_quoted] at kind
    obtain ⟨text', rfl⟩ := kind
    obtain ⟨rfl, onward⟩ := Text.quoted_unique same
    exact ⟨rfl, onward⟩
  | @field label value word legible ih =>
    intro layout outline' rest rest' legible' ends ends' same
    obtain ⟨words, marks, behind⟩ := (Legible.field word legible).split_unique legible' ends ends' same
    have kind := legible'.of_mark
    rw [← marks] at kind
    obtain ⟨label', value', rfl, valued⟩ := kind
    obtain ⟨rfl, onward⟩ := ih valued ends ends' (@List.append_cancel_left _ [':', ' '] _ _ behind)
    obtain rfl := String.toList_inj.mp words
    exact ⟨rfl, onward⟩
  | @group head bracket items word legible ih =>
    intro layout outline' rest rest' legible' ends ends' same
    obtain ⟨words, marks, behind⟩ := (Legible.group word legible).split_unique legible' ends ends' same
    have kind := legible'.of_mark
    rw [← marks] at kind
    obtain ⟨head', items', rfl, parts⟩ := kind
    rw [Outline.behind, Outline.behind, List.append_assoc, List.append_assoc] at behind
    obtain ⟨rfl, onward⟩ := contents_unique ih legible parts (List.append_cancel_left behind)
    obtain rfl := String.toList_inj.mp words
    exact ⟨rfl, onward⟩

theorem render_inj {outline outline' : Outline} (layout : Layout) (legible : outline.Legible)
    (legible' : outline'.Legible) : outline.render layout = outline'.render layout ↔ outline = outline' := by
  have done : Ends [] := ⟨nofun, rfl⟩
  constructor
  · intro same
    have texts : (outline.render layout).toList ++ [] = (outline'.render layout).toList ++ [] := by rw [same]
    exact (legible.telling legible' done done texts).1
  · rintro rfl
    rfl

theorem tuple_inj {head head' : String} {items items' : List Outline} :
    tuple head items = tuple head' items' ↔ head = head' ∧ items = items' := by
  simp [tuple]

theorem record_inj {head head' : String} {fields fields' : List Outline} :
    record head fields = record head' fields' ↔ head = head' ∧ fields = fields' := by
  simp [record]

theorem optional_inj {value value' : Option Outline} : optional value = optional value' ↔ value = value' := by
  cases value <;> cases value' <;> simp [optional, tuple]

end Outline
end Formula
