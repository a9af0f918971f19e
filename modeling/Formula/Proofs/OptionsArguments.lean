import Formula.Options
import Mathlib.Data.List.Induction

/-! What the arguments of the command ask for. Which of them is at fault is said of the list
alone: a flag without a meaning, or a path when there is one already. The first one at fault is
complained of, and where none is the order of the arguments does not matter. -/

namespace Formula
namespace Options

/-- What begins with two dashes is a flag, and everything else is a path. -/
def IsFlag (arg : String) : Prop := "--".toList <+: arg.toList

instance : DecidablePred IsFlag := fun arg => inferInstanceAs (Decidable ("--".toList <+: arg.toList))

def paths (args : List String) : List String := args.filter (¬ IsFlag ·)

/-- A flag other than the one there is, or a path that has an earlier path. -/
def IsBad (earlier : List String) (arg : String) : Prop :=
  if IsFlag arg then arg ≠ "--permissive" else paths earlier ≠ []

instance (earlier : List String) (arg : String) : Decidable (IsBad earlier arg) :=
  inferInstanceAs (Decidable (if IsFlag arg then arg ≠ "--permissive" else paths earlier ≠ []))

/-- None of the arguments is bad where it stands. -/
def Good (args : List String) : Prop := ∀ front arg, front ++ [arg] <+: args → ¬ IsBad front arg

structure FirstBad (args front : List String) (arg : String) : Prop where
  here : front ++ [arg] <+: args
  bad : IsBad front arg
  good : Good front

def fault (arg : String) : UsageError := if IsFlag arg then .unknownOption arg else .secondFile

def asked (args : List String) : Options where
  policy := if "--permissive" ∈ args then .permissive else .strict
  mode :=
    match paths args with
    | [] => .interactive
    | path :: _ => .batch path

variable {args args' front : List String} {arg : String}

theorem beginsWith_iff_isFlag : Text.beginsWith "--" arg = true ↔ IsFlag arg :=
  List.isPrefixOf_iff_prefix

private theorem isFlag_permissive : IsFlag "--permissive" := by decide

theorem paths_concat_of_flag (isFlag : IsFlag arg) : paths (args ++ [arg]) = paths args := by
  simp [paths, isFlag]

theorem paths_concat_of_path (isPath : ¬ IsFlag arg) : paths (args ++ [arg]) = paths args ++ [arg] := by
  simp [paths, isPath]

theorem isBad_iff_of_flag (isFlag : IsFlag arg) : IsBad args arg ↔ arg ≠ "--permissive" := by
  rw [IsBad, if_pos isFlag]

theorem isBad_iff_of_path (isPath : ¬ IsFlag arg) : IsBad args arg ↔ paths args ≠ [] := by
  rw [IsBad, if_neg isPath]

theorem good_concat_iff : Good (args ++ [arg]) ↔ Good args ∧ ¬ IsBad args arg := by
  constructor
  · intro good
    exact ⟨fun front other before => good front other (before.trans (List.prefix_append _ _)),
      good args arg (List.prefix_refl _)⟩
  · rintro ⟨good, noBad⟩ front other before
    rcases List.prefix_concat_iff.mp before with whole | before
    · obtain ⟨rfl, rfl⟩ := List.append_inj' whole rfl |>.imp_right List.singleton_inj.mp
      exact noBad
    · exact good front other before

/-- Goodness without an order: only the one flag, and at most one path. -/
theorem good_iff :
    Good args ↔ (∀ arg ∈ args, IsFlag arg → arg = "--permissive") ∧ (paths args).length ≤ 1 := by
  induction args using List.reverseRecOn with
  | nil => simp [Good, paths]
  | append_singleton args arg ih =>
    rw [good_concat_iff, ih, List.forall_mem_append, List.forall_mem_singleton]
    by_cases isFlag : IsFlag arg
    · rw [isBad_iff_of_flag isFlag, paths_concat_of_flag isFlag, not_not, and_right_comm]
      simp only [isFlag, forall_const]
    · have room : (paths args).length ≤ 1 ∧ paths args = [] ↔ (paths args ++ [arg]).length ≤ 1 := by
        rw [List.length_append, List.length_singleton, ← List.length_eq_zero_iff]
        omega
      rw [isBad_iff_of_path isFlag, paths_concat_of_path isFlag, not_not, and_assoc, room]
      simp only [isFlag, false_implies, and_true]

theorem exists_firstBad (bad : ¬ Good args) : ∃ front arg, FirstBad args front arg := by
  induction args using List.reverseRecOn with
  | nil => exact absurd (by simp [Good]) bad
  | append_singleton args arg ih =>
    by_cases good : Good args
    · have isBad : IsBad args arg := by
        by_contra noBad
        exact bad (good_concat_iff.mpr ⟨good, noBad⟩)
      exact ⟨args, arg, List.prefix_refl _, isBad, good⟩
    · obtain ⟨front, first, firstBad⟩ := ih good
      exact ⟨front, first, firstBad.here.trans (List.prefix_append _ _), firstBad.bad, firstBad.good⟩

theorem addAll_append (options : Options) (args later : List String) :
    options.addAll (args ++ later) = (options.addAll args).bind (·.addAll later) := by
  induction args generalizing options with
  | nil => rfl
  | cons arg args ih =>
    rw [List.cons_append, addAll, addAll]
    cases options.add arg with
    | error error => rfl
    | ok options => exact ih options

theorem ofArgs_concat (args : List String) (arg : String) :
    ofArgs (args ++ [arg]) = (ofArgs args).bind (·.add arg) := by
  rw [ofArgs, addAll_append, ← ofArgs]
  congr 1
  funext options
  rw [addAll]
  cases options.add arg <;> rfl

theorem add_asked (args : List String) (arg : String) :
    (asked args).add arg = if IsBad args arg then .error (fault arg) else .ok (asked (args ++ [arg])) := by
  by_cases isFlag : IsFlag arg
  · by_cases permissive : arg = "--permissive"
    · have fine : ¬ IsBad args arg := mt (isBad_iff_of_flag isFlag).mp (not_not.mpr permissive)
      rw [if_neg fine, add, if_pos permissive, asked, asked, paths_concat_of_flag isFlag]
      simp [permissive]
    · have bad : IsBad args arg := (isBad_iff_of_flag isFlag).mpr permissive
      rw [if_pos bad, add, if_neg permissive, if_pos (beginsWith_iff_isFlag.mpr isFlag), fault, if_pos isFlag]
  · have permissive : arg ≠ "--permissive" := by
      rintro rfl
      exact isFlag isFlag_permissive
    rw [add, if_neg permissive, if_neg (mt beginsWith_iff_isFlag.mp isFlag)]
    cases earlier : paths args with
    | nil =>
      have fine : ¬ IsBad args arg := mt (isBad_iff_of_path isFlag).mp (not_not.mpr earlier)
      simp [fine, asked, paths_concat_of_path isFlag, earlier, Ne.symm permissive]
    | cons path more =>
      have bad : IsBad args arg := (isBad_iff_of_path isFlag).mpr (by simp [earlier])
      simp [bad, asked, earlier, fault, isFlag]

theorem ofArgs_of_good (good : Good args) : ofArgs args = .ok (asked args) := by
  induction args using List.reverseRecOn with
  | nil => rfl
  | append_singleton args arg ih =>
    obtain ⟨good, noBad⟩ := good_concat_iff.mp good
    rw [ofArgs_concat, ih good]
    exact (add_asked args arg).trans (if_neg noBad)

theorem ofArgs_of_firstBad (firstBad : FirstBad args front arg) : ofArgs args = .error (fault arg) := by
  obtain ⟨⟨back, rfl⟩, bad, good⟩ := firstBad
  have stopped : ofArgs (front ++ [arg]) = .error (fault arg) := by
    rw [ofArgs_concat, ofArgs_of_good good]
    exact (add_asked front arg).trans (if_pos bad)
  rw [ofArgs, addAll_append, ← ofArgs, stopped]
  rfl

private theorem paths_eq_of_perm (perm : args.Perm args') (few : (paths args).length ≤ 1) :
    paths args = paths args' := by
  have same : (paths args).Perm (paths args') := perm.filter _
  generalize paths args = found at few same ⊢
  match found, few with
  | [], _ => exact (List.nil_perm.mp same).symm
  | [path], _ => exact List.singleton_perm.mp same

theorem Good.perm (good : Good args) (perm : args.Perm args') : Good args' ∧ asked args = asked args' := by
  obtain ⟨flags, few⟩ := good_iff.mp good
  have same := paths_eq_of_perm perm few
  refine ⟨good_iff.mpr ⟨fun arg inside => flags arg (perm.mem_iff.mpr inside), same ▸ few⟩, ?_⟩
  simp only [asked, same, perm.mem_iff]

end Options
end Formula
