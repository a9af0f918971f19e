/-! Outlines: the parts of a value, named and bracketed, to be written on one
line or with every part on a line of its own. -/

namespace Formula

inductive Bracket where
  | round
  | square
  | brace
deriving DecidableEq

inductive Outline where
  | atom (text : String)
  | field (label : String) (value : Outline)
  | group (head : String) (bracket : Bracket) (items : List Outline)

/-- On one line, or in a block that is so many levels deep. -/
inductive Layout where
  | line
  | block (level : Nat)
deriving DecidableEq

namespace Layout

def indent (level : Nat) : String := String.ofList (List.replicate (4 * level) ' ')

def inner : Layout → Layout
  | line => line
  | block level => block (level + 1)

def opening : Layout → Bracket → String
  | line, .round => "("
  | line, .square => "["
  | line, .brace => " \x7b "
  | block _, .round => "(\n"
  | block _, .square => "[\n"
  | block _, .brace => " \x7b\n"

def closing : Layout → Bracket → String
  | line, .round => ")"
  | line, .square => "]"
  | line, .brace => " \x7d"
  | block level, .round => indent level ++ ")"
  | block level, .square => indent level ++ "]"
  | block level, .brace => indent level ++ "\x7d"

def lead : Layout → String
  | line => ""
  | block level => indent level

/-- What stands behind each part; on one line the last has nothing there. -/
def trail : Layout → Bool → String
  | line, true => ""
  | line, false => ", "
  | block _, _ => ",\n"

end Layout

namespace Outline

mutual

/-- The text of an outline. A group without parts is written as its brackets. -/
def render (layout : Layout) : Outline → String
  | atom text => text
  | field label value => label ++ ": " ++ value.render layout
  | group head bracket [] => head ++ Layout.opening .line bracket ++ Layout.closing .line bracket
  | group head bracket (item :: items) =>
    head ++ layout.opening bracket ++ renderAll layout.inner (item :: items) ++
      layout.closing bracket

def renderAll (layout : Layout) : List Outline → String
  | [] => ""
  | item :: items =>
    layout.lead ++ item.render layout ++ layout.trail items.isEmpty ++ renderAll layout items

end

mutual

/-- The text of an outline behind the text `before`. Writing onto what is there
takes time in proportion to what is written, however deep the outline is. -/
def renderOnto (before : String) (layout : Layout) : Outline → String
  | atom text => before ++ text
  | field label value => value.renderOnto (before ++ label ++ ": ") layout
  | group head bracket [] =>
    before ++ head ++ Layout.opening .line bracket ++ Layout.closing .line bracket
  | group head bracket (item :: items) =>
    renderAllOnto (before ++ head ++ layout.opening bracket) layout.inner (item :: items) ++
      layout.closing bracket

def renderAllOnto (before : String) (layout : Layout) : List Outline → String
  | [] => before
  | item :: items =>
    renderAllOnto (item.renderOnto (before ++ layout.lead) layout ++ layout.trail items.isEmpty)
      layout items

end

mutual

theorem renderOnto_eq (before : String) (layout : Layout) :
    (outline : Outline) → outline.renderOnto before layout = before ++ outline.render layout
  | atom _ => rfl
  | field label value => by
    simp only [renderOnto, render, renderOnto_eq _ layout value, String.append_assoc]
  | group head bracket [] => by simp only [renderOnto, render, String.append_assoc]
  | group head bracket (item :: items) => by
    simp only [renderOnto, render, renderAllOnto_eq _ layout.inner (item :: items),
      String.append_assoc]

theorem renderAllOnto_eq (before : String) (layout : Layout) :
    (items : List Outline) → renderAllOnto before layout items = before ++ renderAll layout items
  | [] => by simp [renderAllOnto, renderAll]
  | item :: items => by
    simp only [renderAllOnto, renderAll, renderOnto_eq _ layout item, renderAllOnto_eq _ layout items,
      String.append_assoc]

end

def compact (outline : Outline) : String := outline.renderOnto "" .line

def pretty (outline : Outline) : String := outline.renderOnto "" (.block 0)

theorem compact_eq (outline : Outline) : outline.compact = outline.render .line := by
  simp [compact, renderOnto_eq]

theorem pretty_eq (outline : Outline) : outline.pretty = outline.render (.block 0) := by
  simp [pretty, renderOnto_eq]

def tuple (head : String) (items : List Outline) : Outline := .group head .round items

def record (head : String) (fields : List Outline) : Outline := .group head .brace fields

def list (items : List Outline) : Outline := .group "" .square items

def optional : Option Outline → Outline
  | none => .atom "None"
  | some value => tuple "Some" [value]

end Outline
end Formula
