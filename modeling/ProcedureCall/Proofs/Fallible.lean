import Mathlib.Data.List.Forall2
import ProcedureCall.Fault

/-!
# Values or faults

What is computed in steps, or for each member of a list, comes to a value if every step does.
-/

namespace ProcedureCall.Fallible

variable {α β : Type}

theorem exists_of_bind_eq_ok {known : Except Fault α} {f : α → Except Fault β} {b : β}
    (h : known.bind f = .ok b) : ∃ value, known = .ok value ∧ f value = .ok b := by
  cases known with
  | error fault => cases h
  | ok value => exact ⟨value, rfl, h⟩

section Each

variable {f : α → Except Fault β} {as : List α}

theorem length_of_mapM_eq_ok {bs : List β} (h : as.mapM f = .ok bs) : bs.length = as.length := by
  induction as generalizing bs with
  | nil =>
    cases h
    rfl
  | cons a as ih =>
    rw [List.mapM_cons] at h
    obtain ⟨b, -, hrest⟩ := exists_of_bind_eq_ok h
    obtain ⟨rest, hmapped, hdone⟩ := exists_of_bind_eq_ok hrest
    cases hdone
    rw [List.length_cons, List.length_cons, ih hmapped]

/-- A list is gone through to its end if none of its members fails. -/
theorem exists_mapM_eq_ok_iff : (∃ bs, as.mapM f = .ok bs) ↔ ∀ a ∈ as, ∃ b, f a = .ok b := by
  induction as with
  | nil => simp [pure, Except.pure]
  | cons a as ih =>
    rw [List.forall_mem_cons, ← ih, List.mapM_cons]
    cases f a <;> cases as.mapM f <;> simp [bind, Except.bind, pure, Except.pure]

/-- What members give fits them if each of them gives something that fits it. -/
theorem exists_forall₂_mapM_iff {R : α → β → Prop} :
    (∃ bs, as.mapM f = .ok bs ∧ List.Forall₂ R as bs) ↔ ∀ a ∈ as, ∃ b, f a = .ok b ∧ R a b := by
  induction as with
  | nil => simp [pure, Except.pure]
  | cons a as ih =>
    rw [List.forall_mem_cons, ← ih, List.mapM_cons]
    cases f a <;> cases as.mapM f <;> simp [bind, Except.bind, pure, Except.pure]

end Each

end ProcedureCall.Fallible
