import ProcedureCall.Proofs.Action

/-!
# What actions do

Whatever comes of an action, the world before it, the entries that it leaves and the world after it
may be related. `Does P a` says that they are. A relation that `Chains` is shown of a whole action
from its parts, so that for one kind of effect only the single requests have to be looked at. That
all entries have a property (`Leaves`) is the relation that says nothing about the worlds.

## What is proved

* `Does.bind`, `Does.attempt`, `Does.ensuring`, `does_forEach` — what the parts do, the whole does.
* `LeavesFrom.first`, `LeavesFrom.second` — what is known of the whole journal is known of its
  parts.
-/

namespace ProcedureCall.Action

variable {σ τ ε δ α β : Type}

/-- However a run of the action ends, the world before, the entries and the world after are
related. -/
def Does (P : σ → List ε → σ → Prop) (a : Action σ ε α) : Prop :=
  ∀ w r w' j, a.Ends w r w' j → P w j w'

/-- The relation holds where nothing is done, and of one thing after another. -/
structure Chains (P : σ → List ε → σ → Prop) : Prop where
  /-- Nothing is done. -/
  nil : ∀ w, P w [] w
  /-- One thing is done after another. -/
  append : ∀ {w w₁ w₂ : σ} {j₁ j₂ : List ε}, P w j₁ w₁ → P w₁ j₂ w₂ → P w (j₁ ++ j₂) w₂

/-- What is read out of the entries piece by piece may be related in place of them. -/
theorem Chains.comap {R : σ → List δ → σ → Prop} (hR : Chains R) {f : List ε → List δ}
    (hnil : f [] = []) (happend : ∀ j₁ j₂, f (j₁ ++ j₂) = f j₁ ++ f j₂) :
    Chains fun w j w' => R w (f j) w' where
  nil w := by rw [hnil]; exact hR.nil w
  append h₁ h₂ := by rw [happend]; exact hR.append h₁ h₂

theorem chains_eq_nil : Chains fun (_ : σ) (j : List ε) (_ : σ) => j = [] where
  nil _ := rfl
  append h₁ h₂ := by rw [h₁, h₂, List.append_nil]

variable {P : σ → List ε → σ → Prop}

theorem Does.mono {Q : σ → List ε → σ → Prop} {a : Action σ ε α} (ha : Does P a)
    (h : ∀ w j w', P w j w' → Q w j w') : Does Q a :=
  fun w r w' j hends => h w j w' (ha w r w' j hends)

/-! ### Single actions -/

theorem does_ofExcept (hP : Chains P) (known : Except Fault α) :
    Does P (ofExcept known : Action σ ε α) := by
  intro w r w' j h
  obtain ⟨-, rfl, rfl⟩ := ends_ofExcept.mp h
  exact hP.nil w'

theorem does_pure (hP : Chains P) (value : α) : Does P (pure value : Action σ ε α) :=
  does_ofExcept hP (.ok value)

theorem does_fail (hP : Chains P) (fault : Fault) : Does P (fail fault : Action σ ε α) :=
  does_ofExcept hP (.error fault)

theorem does_record {entry : ε} (h : ∀ w, P w [entry] w) :
    Does P (record entry : Action σ ε Unit) := by
  intro w r w' j hends
  cases r with
  | ok value =>
    obtain ⟨rfl, rfl⟩ := gives_record.mp hends
    exact h w'
  | error fault => exact absurd hends not_fails_record

theorem does_world (hP : Chains P) : Does P (world : Action σ ε σ) := by
  intro w r w' j h
  obtain ⟨-, rfl, rfl⟩ := ends_world.mp h
  exact hP.nil w'

theorem does_change {f : σ → σ} (h : ∀ w, P w [] (f w)) : Does P (change f : Action σ ε Unit) := by
  intro w r w' j hends
  obtain ⟨-, rfl, rfl⟩ := ends_change.mp hends
  exact h w

/-! ### Actions made of others -/

theorem Does.bind {a : Action σ ε α} {f : α → Action σ ε β} (hP : Chains P) (ha : Does P a)
    (hf : ∀ value, Does P (f value)) : Does P (a >>= f) := by
  intro w r w' j h
  rcases ends_bind.mp h with ⟨fault, -, hfails⟩ | ⟨value, w₁, j₁, j₂, hgives, hrest, rfl⟩
  · exact ha _ _ _ _ hfails
  · exact hP.append (ha _ _ _ _ hgives) (hf value _ _ _ _ hrest)

theorem Does.map {a : Action σ ε α} {f : α → β} (hP : Chains P) (ha : Does P a) :
    Does P (f <$> a) :=
  ha.bind hP fun value => does_pure hP (f value)

/-- Discarding the value of an action discards nothing of what it does. -/
theorem exists_ends_of_discard {a : Action σ ε α} {w w' : σ} {r : Except Fault Unit} {j : List ε}
    (h : (discard a : Action σ ε Unit).Ends w r w' j) : ∃ result, a.Ends w result w' j := by
  have hbind : (a >>= fun _ => pure ()).Ends w r w' j := h
  rcases ends_bind.mp hbind with ⟨fault, -, hfails⟩ | ⟨value, w₁, j₁, j₂, hgives, hpure, rfl⟩
  · exact ⟨_, hfails⟩
  · obtain ⟨-, rfl, rfl⟩ := Ends.unique hpure (pure_gives () w₁)
    exact ⟨_, by rwa [List.append_nil]⟩

/-- An action whose value is discarded runs as the action does. -/
theorem ends_discard {a : Action σ ε α} {w w' : σ} {r : Except Fault α} {j : List ε}
    (h : a.Ends w r w' j) : (discard a : Action σ ε Unit).Ends w (r.map fun _ => ()) w' j := by
  have hmapped : ((fun _ => ()) <$> a).Ends w (r.map fun _ => ()) w' j := ends_map.mpr ⟨r, h, rfl⟩
  exact hmapped

theorem Does.discard {a : Action σ ε α} (ha : Does P a) : Does P (discard a) := by
  intro w r w' j h
  obtain ⟨result, hends⟩ := exists_ends_of_discard h
  exact ha _ _ _ _ hends

theorem Does.attempt {a : Action σ ε α} (ha : Does P a) : Does P a.attempt := by
  intro w r w' j h
  obtain ⟨result, hends⟩ := exists_ends_of_attempt h
  exact ha _ _ _ _ hends

theorem Does.ensuring {a : Action σ ε α} {last : Action σ ε Unit} (hP : Chains P) (ha : Does P a)
    (hlast : Does P last) : Does P (a.ensuring last) := by
  intro w r w' j h
  obtain ⟨first, w₁, j₁, later, j₂, hfirst, hlater, -, rfl⟩ := ends_ensuring.mp h
  exact hP.append (ha _ _ _ _ hfirst) (hlast _ _ _ _ hlater)

theorem Does.noting {a : Action σ ε α} {entry : Bool → ε} (hP : Chains P) (ha : Does P a)
    (h : ∀ w accepted, P w [entry accepted] w) : Does P (a.noting entry) := by
  intro w r w' j hends
  obtain ⟨j₁, ha', rfl⟩ := ends_noting.mp hends
  exact hP.append (ha _ _ _ _ ha') (h _ _)

theorem Does.entering {Q : σ → List δ → σ → Prop} {a : Action σ δ α} {f : δ → ε} (ha : Does Q a)
    (h : ∀ w j w', Q w j w' → P w (j.map f) w') : Does P (a.entering f) := by
  intro w r w' j hends
  obtain ⟨j₁, ha', rfl⟩ := ends_entering.mp hends
  exact h _ _ _ (ha _ _ _ _ ha')

theorem Does.within {Q : τ → List ε → τ → Prop} {a : Action σ ε α} {get : τ → σ} {set : σ → τ → τ}
    (ha : Does P a) (h : ∀ w j v, P (get w) j v → Q w j (set v w)) : Does Q (a.within get set) := by
  intro w r w' j hends
  obtain ⟨v, ha', rfl⟩ := ends_within.mp hends
  exact h _ _ _ (ha _ _ _ _ ha')

theorem does_forEach {f : α → Action σ ε β} (hP : Chains P) (hf : ∀ a, Does P (f a))
    (as : List α) : Does P (forEach f as) := by
  induction as with
  | nil => exact does_pure hP []
  | cons a as ih => exact (hf a).bind hP fun _ => ih.bind hP fun _ => does_pure hP _

/-! ### What is in the journal -/

/-- Every entry that the action can leave has the property. -/
def Leaves (p : ε → Prop) (a : Action σ ε α) : Prop := Does (fun _ j _ => ∀ e ∈ j, p e) a

theorem chains_forall (p : ε → Prop) :
    Chains (fun (_ : σ) (j : List ε) (_ : σ) => ∀ e ∈ j, p e) where
  nil _ := by simp
  append h₁ h₂ := List.forall_mem_append.mpr ⟨h₁, h₂⟩

variable {p : ε → Prop}

theorem leaves_entering {a : Action σ δ α} {f : δ → ε} (h : ∀ e, p (f e)) :
    Leaves p (a.entering f) := by
  intro w r w' j hr
  obtain ⟨j₁, -, rfl⟩ := ends_entering.mp hr
  simpa using fun e _ => h e

/-! ### What is in one journal -/

/-- Run in `w`, every entry that the action leaves has the property. -/
def LeavesFrom (p : ε → Prop) (a : Action σ ε α) (w : σ) : Prop :=
  ∀ r w' j, a.Ends w r w' j → ∀ e ∈ j, p e

theorem leavesFrom_iff {a : Action σ ε α} {w : σ} :
    LeavesFrom p a w ↔ ∀ e ∈ (a.run w).journal, p e := by
  constructor
  · exact fun h => h (a.run w).result (a.run w).world (a.run w).journal rfl
  · intro h r w' j hends
    rwa [← show (a.run w).journal = j from congrArg Outcome.journal hends]

/-- What the first of two actions leaves, both together leave. -/
theorem LeavesFrom.first {a : Action σ ε α} {f : α → Action σ ε β} {w : σ}
    (h : LeavesFrom p (a >>= f) w) : LeavesFrom p a w := by
  intro r w' j ha
  cases r with
  | ok value =>
    have hall := h _ _ _ ((Gives.ends_bind ha).mpr ⟨_, rfl, rfl⟩)
    exact (List.forall_mem_append.mp hall).1
  | error fault => exact h _ _ _ (ends_bind.mpr (Or.inl ⟨fault, rfl, ha⟩))

/-- What the second leaves where the first left off, both together leave. -/
theorem LeavesFrom.second {a : Action σ ε α} {f : α → Action σ ε β} {w w₁ : σ} {value : α}
    {j₁ : List ε} (h : LeavesFrom p (a >>= f) w) (ha : a.Gives w value w₁ j₁) :
    LeavesFrom p (f value) w₁ := by
  intro r w' j hf
  exact (List.forall_mem_append.mp (h _ _ _ ((Gives.ends_bind ha).mpr ⟨j, hf, rfl⟩))).2

theorem LeavesFrom.of_attempt {a : Action σ ε α} {w : σ} (h : LeavesFrom p a.attempt w) :
    LeavesFrom p a w := by
  intro r w' j ha
  cases r with
  | ok value => exact h _ _ _ (gives_attempt_ok.mpr ha)
  | error fault =>
    cases hfault : fault.isFailure with
    | true => exact h _ _ _ (gives_attempt_error.mpr ⟨hfault, ha⟩)
    | false => exact h _ _ _ (fails_attempt.mpr ⟨hfault, ha⟩)

end ProcedureCall.Action
