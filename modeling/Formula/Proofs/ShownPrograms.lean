import Formula.Proofs.CommandOutcome
import Formula.Proofs.NumberWriting
import Formula.Proofs.OutlineReading
import Formula.Proofs.PrintingImage
import Formula.Proofs.SourceLayout

/-! What is shown of a program tells the program. The outline of a program is legible, whatever
its names are, so that its text tells the outline, on one line as in a block; and outlines are
equal where names are equal and numbers are the same word or are both undefined results. -/

namespace Formula

namespace Writing

variable {digits : List Char}

theorem all_word_of_digits (all : digits.all Char.isDigit = true) : digits.all isWordChar = true := by
  rw [List.all_eq_true] at all ⊢
  intro ch inside
  simp [isWordChar, Char.isAlphanum, all ch inside]

private theorem all_word_writtenOut (word : digits.all isWordChar = true) (place : Int) :
    (writtenOut digits place).all isWordChar = true := by
  have marks : isWordChar '0' = true ∧ isWordChar '.' = true := by decide
  unfold writtenOut
  split
  · simp [zeros, marks, word]
  · split
    · simp [zeros, marks, word]
    · have parts := word
      rw [← List.take_append_drop place.toNat digits, List.all_append, Bool.and_eq_true] at parts
      rw [List.all_append, List.all_cons, parts.1, parts.2, marks.2]
      rfl

private theorem all_word_scientific (word : digits.all isWordChar = true) (power : Int) :
    (scientific digits power).all isWordChar = true := by
  have marks : isWordChar '.' = true ∧ isWordChar 'e' = true ∧ isWordChar '-' = true := by decide
  have exponent : (toString power).toList.all isWordChar = true := by
    rw [Reading.toList_toString, List.all_append, all_word_of_digits (Reading.all_isDigit_toDigits _)]
    split <;> simp [marks]
  unfold scientific
  rw [List.all_append, List.all_cons, exponent, marks.2.1]
  match digits, word with
  | [], _ => rfl
  | [only], word => simpa using word
  | first :: second :: more, word => simpa [marks] using word

end Writing

namespace Binary64

private theorem all_word_write (x : Binary64) : x.write.toList.all isWordChar = true := by
  have magnitude (m : Nat) : (Writing.magnitude m).all isWordChar = true := by
    unfold Writing.magnitude Writing.decimal
    have digits := Writing.all_word_of_digits (Decimal.all_isDigit_significant (.shortest m))
    split
    · decide
    split
    · decide
    split
    · exact Writing.all_word_writtenOut digits _
    · exact Writing.all_word_scientific digits _
  unfold write
  split
  · decide
  · rw [String.toList_ofList, List.all_append, magnitude]
    split <;> decide

private theorem write_ne_nil (x : Binary64) : x.write.toList ≠ [] := by
  intro empty
  have read := read?_write x
  rw [String.toList_eq_nil_iff.mp empty] at read
  cases read

end Binary64

private theorem Operator.name_inj {op op' : Operator} : op.name = op'.name ↔ op = op' := by
  cases op <;> cases op' <;> decide

namespace Expr

/-- The same tree, but that one undefined result is as good as another. -/
def Same : Expr → Expr → Prop
  | number x, number y => x.Same y
  | reference n, reference n' => n = n'
  | assign n init, assign n' init' => n = n' ∧ init.Same init'
  | announce k n, announce k' n' => k = k' ∧ n = n'
  | declare k n init, declare k' n' init' => k = k' ∧ n = n' ∧ init.Same init'
  | binary left op right, binary left' op' right' => left.Same left' ∧ op = op' ∧ right.Same right'
  | _, _ => False

theorem nameOutline_inj {name name' : String} {init init' : Option Outline} :
    nameOutline name init = nameOutline name' init' ↔ name = name' ∧ init = init' := by
  simp [nameOutline, Outline.record_inj, Outline.optional_inj, Text.quoted_inj]

theorem keywordOutline_inj {keyword keyword' : String} {name name' : Outline} :
    keywordOutline keyword name = keywordOutline keyword' name' ↔ keyword = keyword' ∧ name = name' := by
  simp [keywordOutline, Outline.tuple_inj, Outline.record_inj, Text.quoted_inj]

theorem outline_inj {expr expr' : Expr} : expr.outline = expr'.outline ↔ expr.Same expr' := by
  induction expr generalizing expr' with
  | number x =>
    cases expr' <;>
      simp [outline, Same, keywordOutline, Outline.tuple_inj, Outline.record_inj, Binary64.write_eq_write_iff]
  | reference name =>
    cases expr' <;> simp [outline, Same, keywordOutline, Outline.tuple_inj, nameOutline_inj]
  | assign name init ih =>
    cases expr' <;> simp [outline, Same, keywordOutline, Outline.tuple_inj, nameOutline_inj, ih]
  | announce keyword name =>
    cases expr' with
    | announce | declare => simp [outline, Same, keywordOutline_inj, nameOutline_inj]
    | _ => simp [outline, Same, keywordOutline, Outline.tuple_inj]
  | declare keyword name init ih =>
    cases expr' with
    | announce | declare => simp [outline, Same, keywordOutline_inj, nameOutline_inj, ih]
    | _ => simp [outline, Same, keywordOutline, Outline.tuple_inj]
  | binary left op right ihLeft ihRight =>
    cases expr' <;>
      simp [outline, Same, keywordOutline, Outline.tuple_inj, Outline.record_inj, Operator.name_inj, ihLeft,
        ihRight]

theorem legible_nameOutline (name : String) {init : Option Outline}
    (legible : ∀ value ∈ init, value.Legible) : (nameOutline name init).Legible := by
  apply Outline.Legible.group rfl
  refine List.forall_mem_cons.mpr ⟨.field rfl (.quoted name), ?_⟩
  refine List.forall_mem_cons.mpr ⟨.field rfl (Outline.legible_optional legible), nofun⟩

theorem legible_keywordOutline (keyword : String) {name : Outline} (legible : name.Legible) :
    (keywordOutline keyword name).Legible := by
  apply Outline.legible_one rfl
  apply Outline.Legible.group rfl
  refine List.forall_mem_cons.mpr ⟨.field rfl (.quoted keyword), ?_⟩
  refine List.forall_mem_cons.mpr ⟨.field rfl legible, nofun⟩

theorem legible_outline (expr : Expr) : expr.outline.Legible := by
  have given {init : Expr} (legible : init.outline.Legible) : ∀ value ∈ some init.outline, value.Legible := by
    rintro value ⟨⟩
    exact legible
  induction expr with
  | number x =>
    apply Outline.legible_one rfl
    apply Outline.legible_one rfl
    exact .field rfl (.word x.write_ne_nil x.all_word_write)
  | reference name =>
    apply Outline.legible_one rfl
    exact legible_nameOutline name nofun
  | assign name init ih =>
    apply Outline.legible_one rfl
    exact legible_nameOutline name (given ih)
  | announce keyword name => exact legible_keywordOutline keyword (legible_nameOutline name nofun)
  | declare keyword name init ih =>
    exact legible_keywordOutline keyword (legible_nameOutline name (given ih))
  | binary left op right ihLeft ihRight =>
    have sign : (Outline.atom op.name).Legible := by
      apply Outline.Legible.word <;> cases op <;> decide
    apply Outline.legible_one rfl
    apply Outline.Legible.group rfl
    refine List.forall_mem_cons.mpr ⟨.field rfl ihLeft, ?_⟩
    refine List.forall_mem_cons.mpr ⟨.field rfl sign, ?_⟩
    refine List.forall_mem_cons.mpr ⟨.field rfl ihRight, nofun⟩

/-- A tree that is read from a text holds no undefined result. -/
theorem Same.eq_of_formed {expr expr' : Expr} (same : expr.Same expr') (formed : expr.Formed) :
    expr = expr' := by
  induction expr generalizing expr' with
  | number x =>
    cases expr' with
    | number y => exact congrArg number (Binary64.Same.eq same formed.isNaN)
    | _ => exact same.elim
  | reference name =>
    cases expr' with
    | reference name' => exact congrArg reference same
    | _ => exact same.elim
  | assign name init ih =>
    cases expr' with
    | assign name' init' => rw [same.1, ih same.2 formed.2]
    | _ => exact same.elim
  | announce keyword name => exact formed.elim
  | declare keyword name init ih =>
    cases expr' with
    | declare keyword' name' init' => rw [same.1, same.2.1, ih same.2.2 formed.2.2]
    | _ => exact same.elim
  | binary left op right ihLeft ihRight =>
    cases expr' with
    | binary left' op' right' => rw [ihLeft same.1 formed.2.1, same.2.1, ihRight same.2.2 formed.2.2.2]
    | _ => exact same.elim

private theorem eq_of_forall_same {body body' : List Expr} (same : List.Forall₂ Same body body')
    (formed : ∀ expr ∈ body, expr.Formed) : body = body' := by
  induction same with
  | nil => rfl
  | cons first rest ih =>
    rw [List.forall_mem_cons] at formed
    rw [first.eq_of_formed formed.1, ih formed.2]

end Expr

namespace Program

/-- Statement by statement the same trees. -/
def Same (p q : Program) : Prop := List.Forall₂ Expr.Same p.body q.body

variable {p q : Program}

theorem outline_inj : p.outline = q.outline ↔ p.Same q := by
  have statements := @forall₂_iff_map _ _ Expr.outline p.body q.body
  simp only [Expr.outline_inj] at statements
  simp [outline, Outline.record_inj, Outline.list, Same, statements]

theorem legible_outline (program : Program) : program.outline.Legible := by
  apply Outline.legible_one rfl
  apply Outline.Legible.field rfl
  apply Outline.Legible.group rfl
  rintro item inside
  obtain ⟨expr, -, rfl⟩ := List.mem_map.mp inside
  exact expr.legible_outline

theorem render_inj (layout : Layout) : p.outline.render layout = q.outline.render layout ↔ p.Same q :=
  (Outline.render_inj layout p.legible_outline q.legible_outline).trans outline_inj

theorem compact_inj : p.outline.compact = q.outline.compact ↔ p.Same q := by
  rw [Outline.compact_eq, Outline.compact_eq, render_inj]

theorem pretty_inj : p.outline.pretty = q.outline.pretty ↔ p.Same q := by
  rw [Outline.pretty_eq, Outline.pretty_eq, render_inj]

theorem Same.eq_of_formed (same : p.Same q) (formed : ∀ expr ∈ p.body, expr.Formed) : p = q := by
  obtain ⟨body⟩ := p
  obtain ⟨body'⟩ := q
  exact congrArg mk (Expr.eq_of_forall_same same formed)

end Program

theorem formed_of_parse {options : Options} {text : String} {program : Program}
    (parsed : options.parse text = .ok program) : ∀ expr ∈ program.body, expr.Formed := by
  unfold Options.parse Source.parseUnder at parsed
  split at parsed
  · cases read : Source.parse text with
    | error error =>
      rw [read] at parsed
      cases parsed
    | ok program =>
      rw [read] at parsed
      cases parsed
      exact fun expr inside => (stated_of_parse read expr inside).formed
  · exact fun expr inside => (stated_of_parseStrict parsed expr inside).formed

namespace Command

/-- What is written to the standard output for a program: by the command that reads one file, or
by a session in answer to a line. -/
inductive Shows : String → Program → Prop where
  | file {args : List String} {read : String → Except ReadError ByteArray} {program : Program}
    (lines : List Line) (delivers : Delivers args read program) :
    Shows (run args read lines).output.stdout program
  | line {options : Options} {text : String} {program : Program} {output : Output}
    (filled : Text.isBlank text = false) (parsed : options.parse text = .ok program)
    (answered : Session.answer options (.text text) = some output) :
    Shows output.stdout program

theorem answer_of_parsed {options : Options} {text : String} {program : Program}
    (filled : Text.isBlank text = false) (staying : options.isExit text = false)
    (parsed : options.parse text = .ok program) :
    Session.answer options (.text text) = some ⟨Session.shown program, ""⟩ := by
  simp [Session.answer, filled, staying, parsed]

theorem Shows.shown {stdout : String} {program : Program} (shows : Shows stdout program) :
    stdout = Session.shown program ∧ ∀ expr ∈ program.body, expr.Formed := by
  cases shows with
  | file lines delivers =>
    refine ⟨congrArg (·.output.stdout) (run_of_delivers delivers lines), ?_⟩
    obtain ⟨options, path, text, -, -, -, parsed⟩ := delivers
    exact formed_of_parse parsed
  | @line options text _ _ filled parsed answered =>
    refine ⟨?_, formed_of_parse parsed⟩
    cases leaving : options.isExit text with
    | true => simp [Session.answer, filled, leaving] at answered
    | false =>
      rw [answer_of_parsed filled leaving parsed] at answered
      cases answered
      rfl

/-- The text of a program tells the program, on one line as in a block: two texts of one kind are
equal just when the programs are the same, and then so are those of the other kind. What was read
from a text is the same only as itself, so that outputs are equal just when the programs are. -/
theorem shown_determines (p q : Program) :
    (p.outline.pretty = q.outline.pretty ↔ p.outline.compact = q.outline.compact) ∧
    (p.outline.compact = q.outline.compact ↔ p.Same q) ∧
    ∀ stdout stdout', Shows stdout p → Shows stdout' q → (stdout = stdout' ↔ p = q) := by
  refine ⟨Program.pretty_inj.trans Program.compact_inj.symm, Program.compact_inj, ?_⟩
  intro stdout stdout' shows shows'
  obtain ⟨rfl, formed⟩ := shows.shown
  obtain ⟨rfl, -⟩ := shows'.shown
  constructor
  · intro same
    have pretty : p.outline.pretty = q.outline.pretty := (String.append_left_inj "\n").mp same
    exact (Program.pretty_inj.mp pretty).eq_of_formed formed
  · rintro rfl
    rfl

def sumFile (_ : String) : Except ReadError ByteArray := .ok "1+2".toUTF8

/-- The sum in the file is shown as it is in answer to a line that has it in parentheses, and not as
the sum of the same numbers in the other order. -/
theorem shown_determines_sum :
    Session.answer {} (.text "(1 + 2)") = some ⟨(run ["sum"] sumFile []).output.stdout, ""⟩ ∧
      Session.answer {} (.text "2+1") ≠ some ⟨(run ["sum"] sumFile []).output.stdout, ""⟩ := by
  let sum : Program := ⟨[.binary (.number (.nearest false 1 1)) .add (.number (.nearest false 2 1))]⟩
  let swapped : Program := ⟨[.binary (.number (.nearest false 2 1)) .add (.number (.nearest false 1 1))]⟩
  have delivers : Delivers ["sum"] sumFile sum :=
    ⟨{ mode := .batch "sum" }, "sum", "1+2", by decide +kernel, rfl, rfl, by decide +kernel⟩
  have filled : Text.isBlank "(1 + 2)" = false ∧ Text.isBlank "2+1" = false := by decide +kernel
  have parsed : Options.parse {} "(1 + 2)" = .ok sum ∧ Options.parse {} "2+1" = .ok swapped := by
    decide +kernel
  have answered := answer_of_parsed filled.1 (by decide +kernel) parsed.1
  have answered' := answer_of_parsed filled.2 (by decide +kernel) parsed.2
  have different : sum ≠ swapped := by decide +kernel
  constructor
  · rw [answered]
    have same := ((shown_determines sum sum).2.2 _ _ (.file [] delivers) (.line filled.1 parsed.1 answered)).mpr rfl
    rw [same]
  · rw [answered']
    have apart := (shown_determines sum swapped).2.2 _ _ (.file [] delivers) (.line filled.2 parsed.2 answered')
    intro same
    cases different (apart.mp (congrArg Output.stdout (Option.some.inj same)).symm)

end Command
end Formula
