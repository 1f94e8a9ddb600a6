import Mathlib.Data.List.Induction
import ProcedureCall.Proofs.Data.Registry

/-!
# What a new name of a type finds

A name that is given to another one stands for that name, and for nothing that the other name stands
for in its turn: a look-up follows one name only. So directly after a name was given it finds the
type that was registered under the other name, if there is one, whatever was registered and given
before (`get?_addAlias_self`). The other name itself may stand for a third one; then the two find
different things, unless neither of the names behind them is that of a type.

## What is proved

* `get?_made` — what a registry finds, told from its history: the type that was registered last
  under the last target of the name.
* `alias_finds_registered_type` — what a new name finds, and when that is what the other name found.
-/

namespace ProcedureCall.Registry

/-- The type that some changes registered last under a name in small letters. -/
def registered? (changes : List Change) (key : String) : Option DataType :=
  changes.reverse.findSome? fun
    | .register t _ => if lowerCase t.name = key then some t else none
    | .addAlias _ _ => none

theorem made_concat (changes : List Change) (c : Change) :
    made (changes ++ [c]) = (made changes).change c := by
  rw [made, List.foldl_append]
  rfl

/-- A type that was registered under a name has it. -/
theorem lowerCase_name_of_registered? {changes : List Change} {key : String} {t : DataType}
    (h : registered? changes key = some t) : lowerCase t.name = key := by
  obtain ⟨c, -, hc⟩ := List.exists_of_findSome?_eq_some h
  cases c with
  | register s others =>
    by_cases hkey : lowerCase s.name = key
    · simp only [hkey, if_true, Option.some.injEq] at hc
      exact hc ▸ hkey
    · simp [hkey] at hc
  | addAlias other name => simp at hc

/-- Under a name the type is kept that was registered last. -/
theorem get?_types_made (changes : List Change) (key : String) :
    Entries.get? key (made changes).types = registered? changes key := by
  induction changes using List.reverseRecOn with
  | nil => rfl
  | append_singleton changes c ih =>
    rw [made_concat, registered?, List.reverse_append, List.reverse_singleton,
      List.singleton_append, List.findSome?_cons]
    cases c with
    | register t others =>
      rw [change, register_eq]
      by_cases hkey : lowerCase t.name = key
      · subst hkey
        simp
      · rw [Entries.get?_put_of_ne _ _ hkey, ih]
        simp [hkey, registered?]
    | addAlias other name => exact ih

/-- What a registry finds: the type that was registered last under the last target of the name. A
name without a target stands for itself. -/
theorem get?_made (changes : List Change) {name : String} (hname : name ≠ "") :
    (made changes).get? (some name) =
      registered? changes ((target? changes (folded name)).getD (folded name)) := by
  have hnonempty : ¬ name.isEmpty = true := by simpa using hname
  rw [get?, if_neg hnonempty]
  dsimp only
  rw [get?_aliases_made, get?_types_made, folded]

/-- What was given last counts, and it is not followed any further. -/
theorem get?_addAlias_self (changes : List Change) {other name : String}
    (hother : other ≠ "" ∧ trimmed other = other) :
    ((made changes).addAlias other name).get? (some other) =
      registered? changes (lowerCase name) := by
  have hnonempty : ¬ other.isEmpty = true := by simpa using hother.1
  rw [get?, if_neg hnonempty]
  dsimp only [addAlias]
  rw [hother.2, Entries.get?_put_self, Option.getD_some, get?_types_made]

/-- Under two names there is the same type only if the names are one. -/
theorem registered?_eq_iff (changes : List Change) {key other : String} (hne : other ≠ key) :
    registered? changes key = registered? changes other ↔
      registered? changes key = none ∧ registered? changes other = none := by
  constructor
  · intro heq
    have hnone : registered? changes key = none := by
      rw [Option.eq_none_iff_forall_ne_some]
      intro t ht
      have hkey := lowerCase_name_of_registered? ht
      have hother := lowerCase_name_of_registered? (heq ▸ ht)
      exact hne (hother.symm.trans hkey)
    exact ⟨hnone, heq ▸ hnone⟩
  · rintro ⟨hkey, hother⟩
    rw [hkey, hother]

/-- **A new name finds the type that was registered under the other name.** After any changes of an
empty registry, among them those that make the standard one, a name that is given to another one,
neither of them empty and neither with white space around it, finds the type that was registered last
under the other name, if any. This is what the other name found directly before exactly unless the
other name stood for a third one at that time, and one of the two is the name of a registered
type. -/
theorem alias_finds_registered_type (changes : List Change) {other name : String}
    (hother : other ≠ "" ∧ trimmed other = other) (hname : name ≠ "" ∧ trimmed name = name) :
    ((made changes).addAlias other name).get? (some other) =
        registered? changes (lowerCase name) ∧
      (((made changes).addAlias other name).get? (some other) = (made changes).get? (some name) ↔
        ∀ target, target? changes (lowerCase name) = some target → target ≠ lowerCase name →
          registered? changes (lowerCase name) = none ∧ registered? changes target = none) := by
  refine ⟨get?_addAlias_self changes hother, ?_⟩
  rw [get?_addAlias_self changes hother, get?_made changes hname.1, folded, hname.2]
  cases htarget : target? changes (lowerCase name) with
  | none => simp
  | some target =>
    rw [Option.getD_some]
    by_cases heq : target = lowerCase name
    · simp [heq]
    · rw [registered?_eq_iff changes heq]
      exact ⟨fun h _ hsome _ => Option.some.inj hsome ▸ h, fun h => h target rfl heq⟩

/-- In the registry of the standard types a new name for `Integer` finds what `Integer` finds. -/
theorem new_name_finds_integer :
    ("whole" ≠ "" ∧ trimmed "whole" = "whole") ∧ ("Integer" ≠ "" ∧ trimmed "Integer" = "Integer") ∧
      (standard.addAlias "whole" "Integer").get? (some "whole") =
        some ⟨"integer", 4, .numeric⟩ ∧
      (standard.addAlias "whole" "Integer").get? (some "whole") =
        standard.get? (some "Integer") := by
  have hother : "whole" ≠ "" ∧ trimmed "whole" = "whole" := by decide +kernel
  have hname : "Integer" ≠ "" ∧ trimmed "Integer" = "Integer" := by decide +kernel
  obtain ⟨hfinds, hsame⟩ := alias_finds_registered_type standardChanges hother hname
  rw [made_standardChanges] at hfinds hsame
  have hregistered : registered? standardChanges (lowerCase "Integer") =
      some ⟨"integer", 4, .numeric⟩ := by decide +kernel
  have hnone : target? standardChanges (lowerCase "Integer") = none := by decide +kernel
  refine ⟨hother, hname, hfinds.trans hregistered, hsame.mpr fun target htarget => ?_⟩
  rw [hnone] at htarget
  cases htarget

/-- In the registry of the standard types `int` stands for `integer`, and a new name for `int` finds
nothing. -/
theorem name_of_name_finds_nothing :
    ("whole" ≠ "" ∧ trimmed "whole" = "whole") ∧ ("int" ≠ "" ∧ trimmed "int" = "int") ∧
      standard.get? (some "int") = some ⟨"integer", 4, .numeric⟩ ∧
      (standard.addAlias "whole" "int").get? (some "whole") = none := by
  decide +kernel

end ProcedureCall.Registry
