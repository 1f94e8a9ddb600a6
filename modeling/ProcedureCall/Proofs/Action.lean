import ProcedureCall.Action

/-!
# Runs of actions

How a run of an action is taken apart. `Gives` and `Fails` say how a run ends, and for each way of
building an action there is one lemma that says when the built action gives a value or fails; later
modules use these and never open an action.

## What is proved

* `gives_bind`, `fails_bind` — a run of two actions one after the other is a run of the first and
  then a run of the second from the world that the first left, and the journals follow each other;
  so actions are a lawful monad.
* `Uninterrupted.completes_attempt` — an attempt comes to an end in every world, unless it is
  interrupted.
* `gives_ensuring`, `ends_ensuring` — the last action runs whatever came of the first.
-/

namespace ProcedureCall.Action

variable {σ τ ε δ α β : Type}

/-- Run in `w`, the action ends with the result `r` and leaves the world `w'` and the entries
`j`. -/
def Ends (a : Action σ ε α) (w : σ) (r : Except Fault α) (w' : σ) (j : List ε) : Prop :=
  a.run w = ⟨r, w', j⟩

/-- Run in `w`, the action gives `value`. -/
def Gives (a : Action σ ε α) (w : σ) (value : α) (w' : σ) (j : List ε) : Prop :=
  a.Ends w (.ok value) w' j

/-- Run in `w`, the action fails with `fault`. -/
def Fails (a : Action σ ε α) (w : σ) (fault : Fault) (w' : σ) (j : List ε) : Prop :=
  a.Ends w (.error fault) w' j

theorem Ends.result {a : Action σ ε α} {w w' : σ} {r : Except Fault α} {j : List ε}
    (h : a.Ends w r w' j) : (a.run w).result = r := by rw [h]

/-- A run ends in one way only. -/
theorem Ends.unique {a : Action σ ε α} {w w₁ w₂ : σ} {r₁ r₂ : Except Fault α} {j₁ j₂ : List ε}
    (h₁ : a.Ends w r₁ w₁ j₁) (h₂ : a.Ends w r₂ w₂ j₂) : r₁ = r₂ ∧ w₁ = w₂ ∧ j₁ = j₂ := by
  have h : (⟨r₁, w₁, j₁⟩ : Outcome σ ε α) = ⟨r₂, w₂, j₂⟩ := h₁.symm.trans h₂
  rwa [Outcome.mk.injEq] at h

theorem ends_run (a : Action σ ε α) (w : σ) :
    a.Ends w (a.run w).result (a.run w).world (a.run w).journal := rfl

/-- A run ends in some way. -/
theorem exists_ends (a : Action σ ε α) (w : σ) : ∃ r w' j, a.Ends w r w' j :=
  ⟨_, _, _, rfl⟩

/-- Actions run alike if the one ends however the other does. -/
theorem run_eq_of_ends {a a' : Action σ ε α} {w : σ}
    (h : ∀ r w' j, a.Ends w r w' j → a'.Ends w r w' j) : a.run w = a'.run w :=
  (h _ _ _ (ends_run a w)).symm

/-- A run gives a value or fails. -/
theorem gives_or_fails (a : Action σ ε α) (w : σ) :
    (∃ value w' j, a.Gives w value w' j) ∨ ∃ fault w' j, a.Fails w fault w' j := by
  unfold Gives Fails Ends
  rcases h : a.run w with ⟨value | fault, w', j⟩
  · exact Or.inr ⟨_, w', j, rfl⟩
  · exact Or.inl ⟨_, w', j, rfl⟩

/-- The run in which an action gives its value is the only one. -/
theorem Gives.unique {a : Action σ ε α} {w w₁ w₂ : σ} {v₁ v₂ : α} {j₁ j₂ : List ε}
    (h₁ : a.Gives w v₁ w₁ j₁) (h₂ : a.Gives w v₂ w₂ j₂) : v₁ = v₂ ∧ w₁ = w₂ ∧ j₁ = j₂ := by
  obtain ⟨hv, hw, hj⟩ := Ends.unique h₁ h₂
  exact ⟨Except.ok.inj hv, hw, hj⟩

theorem Gives.not_fails {a : Action σ ε α} {w w₁ w₂ : σ} {value : α} {fault : Fault}
    {j₁ j₂ : List ε} (h₁ : a.Gives w value w₁ j₁) : ¬ a.Fails w fault w₂ j₂ := by
  intro h₂
  cases (Ends.unique h₁ h₂).1

/-- An action whose result is known runs to it. -/
theorem exists_ends_of_result {a : Action σ ε α} {w : σ} {r : Except Fault α}
    (h : (a.run w).result = r) : ∃ w' j, a.Ends w r w' j :=
  ⟨(a.run w).world, (a.run w).journal, by unfold Ends; rw [← h]⟩

/-- What is computed from the value of a run is computed from a value that the action gives. -/
theorem exists_gives_of_map_eq_some {a : Action σ ε α} {f : α → β} {w : σ} {b : β}
    (h : (a.run w).result.toOption.map f = some b) :
    ∃ value w', a.Gives w value w' (a.run w).journal ∧ f value = b := by
  rcases gives_or_fails a w with ⟨value, w', j, ha⟩ | ⟨fault, w', j, ha⟩
  · have hjournal : (a.run w).journal = j := congrArg Outcome.journal ha
    rw [ha.result] at h
    exact ⟨value, w', hjournal ▸ ha, Option.some.inj h⟩
  · rw [ha.result] at h
    cases h

/-! ### Single actions -/

@[simp] theorem gives_pure {value v : α} {w w' : σ} {j : List ε} :
    (pure value : Action σ ε α).Gives w v w' j ↔ v = value ∧ w' = w ∧ j = [] := by
  change (⟨.ok value, w, []⟩ : Outcome σ ε α) = _ ↔ _
  rw [Outcome.mk.injEq, Except.ok.injEq, eq_comm, @eq_comm _ w, @eq_comm _ _ j]

theorem pure_gives (value : α) (w : σ) : (pure value : Action σ ε α).Gives w value w [] :=
  gives_pure.mpr ⟨rfl, rfl, rfl⟩

@[simp] theorem not_fails_pure {value : α} {w w' : σ} {fault : Fault} {j : List ε} :
    ¬ (pure value : Action σ ε α).Fails w fault w' j := by
  intro h
  cases congrArg Outcome.result (show (⟨.ok value, w, []⟩ : Outcome σ ε α) = _ from h)

@[simp] theorem gives_record {entry : ε} {v : Unit} {w w' : σ} {j : List ε} :
    (record entry : Action σ ε Unit).Gives w v w' j ↔ w' = w ∧ j = [entry] := by
  change (⟨.ok (), w, [entry]⟩ : Outcome σ ε Unit) = _ ↔ _
  rw [Outcome.mk.injEq, @eq_comm _ w, @eq_comm _ _ j]
  simp

theorem record_gives (entry : ε) (w : σ) : (record entry : Action σ ε Unit).Gives w () w [entry] :=
  gives_record.mpr ⟨rfl, rfl⟩

@[simp] theorem not_fails_record {entry : ε} {w w' : σ} {fault : Fault} {j : List ε} :
    ¬ (record entry : Action σ ε Unit).Fails w fault w' j := by
  intro h
  cases congrArg Outcome.result (show (⟨.ok (), w, [entry]⟩ : Outcome σ ε Unit) = _ from h)

@[simp] theorem not_gives_fail {fault : Fault} {v : α} {w w' : σ} {j : List ε} :
    ¬ (fail fault : Action σ ε α).Gives w v w' j := by
  intro h
  cases congrArg Outcome.result (show (⟨.error fault, w, []⟩ : Outcome σ ε α) = _ from h)

@[simp] theorem fails_fail {fault f : Fault} {w w' : σ} {j : List ε} :
    (fail fault : Action σ ε α).Fails w f w' j ↔ f = fault ∧ w' = w ∧ j = [] := by
  change (⟨.error fault, w, []⟩ : Outcome σ ε α) = _ ↔ _
  rw [Outcome.mk.injEq, Except.error.injEq, eq_comm, @eq_comm _ w, @eq_comm _ _ j]

/-- An action that is known beforehand ends with what is known and does nothing. -/
@[simp] theorem ends_ofExcept {known r : Except Fault α} {w w' : σ} {j : List ε} :
    (ofExcept known : Action σ ε α).Ends w r w' j ↔ r = known ∧ w' = w ∧ j = [] := by
  cases known with
  | ok value =>
    change (⟨.ok value, w, []⟩ : Outcome σ ε α) = _ ↔ _
    rw [Outcome.mk.injEq, eq_comm, @eq_comm _ w, @eq_comm _ _ j]
  | error fault =>
    change (⟨.error fault, w, []⟩ : Outcome σ ε α) = _ ↔ _
    rw [Outcome.mk.injEq, eq_comm, @eq_comm _ w, @eq_comm _ _ j]

theorem ends_fail {fault : Fault} {r : Except Fault α} {w w' : σ} {j : List ε} :
    (fail fault : Action σ ε α).Ends w r w' j ↔ r = .error fault ∧ w' = w ∧ j = [] :=
  @ends_ofExcept _ _ _ (.error fault) r w w' j

@[simp] theorem ends_world {r : Except Fault σ} {w w' : σ} {j : List ε} :
    (world : Action σ ε σ).Ends w r w' j ↔ r = .ok w ∧ w' = w ∧ j = [] := by
  change (⟨.ok w, w, []⟩ : Outcome σ ε σ) = _ ↔ _
  rw [Outcome.mk.injEq, eq_comm, @eq_comm _ w, @eq_comm _ _ j]

theorem world_gives (w : σ) : (world : Action σ ε σ).Gives w w w [] :=
  ends_world.mpr ⟨rfl, rfl, rfl⟩

@[simp] theorem ends_change {f : σ → σ} {r : Except Fault Unit} {w w' : σ} {j : List ε} :
    (change f : Action σ ε Unit).Ends w r w' j ↔ r = .ok () ∧ w' = f w ∧ j = [] := by
  change (⟨.ok (), f w, []⟩ : Outcome σ ε Unit) = _ ↔ _
  rw [Outcome.mk.injEq, eq_comm, @eq_comm _ (f w), @eq_comm _ _ j]

theorem change_gives (f : σ → σ) (w : σ) : (change f : Action σ ε Unit).Gives w () (f w) [] :=
  ends_change.mpr ⟨rfl, rfl, rfl⟩

/-! ### One action after the other -/

private theorem run_bind_of_gives {a : Action σ ε α} {f : α → Action σ ε β} {w w' : σ} {value : α}
    {j : List ε} (h : a.Gives w value w' j) :
    (a >>= f).run w = ⟨((f value).run w').result, ((f value).run w').world,
      j ++ ((f value).run w').journal⟩ := by
  change andThen a f w = _
  unfold andThen
  rw [show a w = ⟨.ok value, w', j⟩ from h]
  rfl

private theorem run_bind_of_fails {a : Action σ ε α} {f : α → Action σ ε β} {w w' : σ}
    {fault : Fault} {j : List ε} (h : a.Fails w fault w' j) :
    (a >>= f).run w = ⟨.error fault, w', j⟩ := by
  change andThen a f w = _
  unfold andThen
  rw [show a w = ⟨.error fault, w', j⟩ from h]

theorem gives_bind {a : Action σ ε α} {f : α → Action σ ε β} {w w' : σ} {b : β} {j : List ε} :
    (a >>= f).Gives w b w' j ↔
      ∃ value w₁ j₁ j₂, a.Gives w value w₁ j₁ ∧ (f value).Gives w₁ b w' j₂ ∧ j = j₁ ++ j₂ := by
  constructor
  · intro h
    rcases gives_or_fails a w with ⟨value, w₁, j₁, ha⟩ | ⟨fault, w₁, j₁, ha⟩
    · have hrun := (run_bind_of_gives ha).symm.trans h
      rw [Outcome.mk.injEq] at hrun
      obtain ⟨hresult, hworld, hjournal⟩ := hrun
      refine ⟨value, w₁, j₁, _, ha, ?_, hjournal.symm⟩
      unfold Gives Ends
      rw [← hresult, ← hworld]
    · have hrun := (run_bind_of_fails ha).symm.trans h
      simp at hrun
  · rintro ⟨value, w₁, j₁, j₂, ha, hf, rfl⟩
    unfold Gives Ends
    rw [run_bind_of_gives ha, show (f value).run w₁ = _ from hf]

theorem Gives.bind {a : Action σ ε α} {f : α → Action σ ε β} {w w₁ w' : σ} {value : α} {b : β}
    {j₁ j₂ : List ε} (ha : a.Gives w value w₁ j₁) (hf : (f value).Gives w₁ b w' j₂) :
    (a >>= f).Gives w b w' (j₁ ++ j₂) :=
  gives_bind.mpr ⟨value, w₁, j₁, j₂, ha, hf, rfl⟩

theorem fails_bind {a : Action σ ε α} {f : α → Action σ ε β} {w w' : σ} {fault : Fault}
    {j : List ε} :
    (a >>= f).Fails w fault w' j ↔ a.Fails w fault w' j ∨
      ∃ value w₁ j₁ j₂, a.Gives w value w₁ j₁ ∧ (f value).Fails w₁ fault w' j₂ ∧ j = j₁ ++ j₂ := by
  constructor
  · intro h
    rcases gives_or_fails a w with ⟨value, w₁, j₁, ha⟩ | ⟨other, w₁, j₁, ha⟩
    · have hrun := (run_bind_of_gives ha).symm.trans h
      rw [Outcome.mk.injEq] at hrun
      obtain ⟨hresult, hworld, hjournal⟩ := hrun
      refine Or.inr ⟨value, w₁, j₁, _, ha, ?_, hjournal.symm⟩
      unfold Fails Ends
      rw [← hresult, ← hworld]
    · have hrun := (run_bind_of_fails ha).symm.trans h
      rw [Outcome.mk.injEq, Except.error.injEq] at hrun
      obtain ⟨rfl, rfl, rfl⟩ := hrun
      exact Or.inl ha
  · rintro (ha | ⟨value, w₁, j₁, j₂, ha, hf, rfl⟩)
    · exact run_bind_of_fails ha
    · unfold Fails Ends
      rw [run_bind_of_gives ha, show (f value).run w₁ = _ from hf]

/-- A run of two actions ends with the failure of the first, or as the second does. -/
theorem ends_bind {a : Action σ ε α} {f : α → Action σ ε β} {w w' : σ} {r : Except Fault β}
    {j : List ε} :
    (a >>= f).Ends w r w' j ↔ (∃ fault, r = .error fault ∧ a.Fails w fault w' j) ∨
      ∃ value w₁ j₁ j₂, a.Gives w value w₁ j₁ ∧ (f value).Ends w₁ r w' j₂ ∧ j = j₁ ++ j₂ := by
  cases r with
  | ok b => simpa [Gives] using gives_bind
  | error fault => simpa [Fails] using fails_bind

/-- Two actions that run alike are followed alike by what runs alike from where they end. -/
theorem run_bind_congr {a a' : Action σ ε α} {f f' : α → Action σ ε β} {w : σ}
    (ha : a.run w = a'.run w)
    (hf : ∀ value w' j, a.Gives w value w' j → (f value).run w' = (f' value).run w') :
    (a >>= f).run w = (a' >>= f').run w := by
  rcases gives_or_fails a w with ⟨value, w', j, hgives⟩ | ⟨fault, w', j, hfails⟩
  · have hgives' : a'.Gives w value w' j := ha.symm.trans hgives
    rw [run_bind_of_gives hgives, run_bind_of_gives hgives', hf _ _ _ hgives]
  · have hfails' : a'.Fails w fault w' j := ha.symm.trans hfails
    rw [run_bind_of_fails hfails, run_bind_of_fails hfails']

/-- After an action that gives a value, a run goes on as the second action does. -/
theorem Gives.ends_bind {a : Action σ ε α} {f : α → Action σ ε β} {w w₁ w' : σ} {value : α}
    {r : Except Fault β} {j₁ j : List ε} (h : a.Gives w value w₁ j₁) :
    (a >>= f).Ends w r w' j ↔ ∃ j₂, (f value).Ends w₁ r w' j₂ ∧ j = j₁ ++ j₂ := by
  rw [Action.ends_bind]
  constructor
  · rintro (⟨fault, -, hfails⟩ | ⟨other, w₂, j₂, j₃, hgives, hrest, rfl⟩)
    · exact absurd hfails h.not_fails
    · obtain ⟨rfl, rfl, rfl⟩ := h.unique hgives
      exact ⟨j₃, hrest, rfl⟩
  · rintro ⟨j₂, hrest, rfl⟩
    exact Or.inr ⟨value, w₁, j₁, j₂, h, hrest, rfl⟩

theorem fails_map {a : Action σ ε α} {f : α → β} {w w' : σ} {fault : Fault} {j : List ε} :
    (f <$> a).Fails w fault w' j ↔ a.Fails w fault w' j := by
  change (a >>= fun value => pure (f value)).Fails w fault w' j ↔ _
  rw [fails_bind]
  simp

/-- What becomes of the value is done to it after the run. -/
theorem ends_map {a : Action σ ε α} {f : α → β} {w w' : σ} {r : Except Fault β} {j : List ε} :
    (f <$> a).Ends w r w' j ↔ ∃ result, a.Ends w result w' j ∧ r = result.map f := by
  change (a >>= fun value => pure (f value)).Ends w r w' j ↔ _
  rw [ends_bind]
  constructor
  · rintro (⟨fault, rfl, hfails⟩ | ⟨value, w₁, j₁, j₂, hgives, hpure, rfl⟩)
    · exact ⟨_, hfails, rfl⟩
    · obtain ⟨rfl, rfl, rfl⟩ := Ends.unique hpure (pure_gives _ w₁)
      exact ⟨_, by rwa [List.append_nil], rfl⟩
  · rintro ⟨fault | value, ha, rfl⟩
    · exact Or.inl ⟨fault, rfl, ha⟩
    · exact Or.inr ⟨value, w', j, [], ha, pure_gives _ w', (List.append_nil j).symm⟩

/-- Actions obey the laws of a monad: the journals of actions one after another follow each other,
however the actions are bracketed. -/
instance : LawfulMonad (Action σ ε) := by
  refine LawfulMonad.mk' (Action σ ε) (fun a => ?_) (fun value f => ?_) fun a f g => ?_
  · funext w
    refine run_eq_of_ends fun r w' j h => ?_
    obtain ⟨result, ha, rfl⟩ := ends_map.mp h
    cases result <;> exact ha
  · funext w
    refine run_eq_of_ends fun r w' j h => ?_
    obtain ⟨j₂, hf, rfl⟩ := (pure_gives value w).ends_bind.mp h
    exact hf
  · funext w
    refine run_eq_of_ends fun r w' j h => ?_
    rcases ends_bind.mp h with ⟨fault, rfl, hfails⟩ | ⟨b, w₁, j₁, j₂, hgives, hg, rfl⟩
    · rcases fails_bind.mp hfails with ha | ⟨value, w₁, j₁, j₂, ha, hf, rfl⟩
      · exact ends_bind.mpr (Or.inl ⟨fault, rfl, ha⟩)
      · exact ha.ends_bind.mpr ⟨j₂, ends_bind.mpr (Or.inl ⟨fault, rfl, hf⟩), rfl⟩
    · obtain ⟨value, w₂, j₃, j₄, ha, hf, rfl⟩ := gives_bind.mp hgives
      exact ha.ends_bind.mpr ⟨j₄ ++ j₂, hf.ends_bind.mpr ⟨j₂, hg, rfl⟩, List.append_assoc _ _ _⟩

/-! ### Attempts -/

private theorem run_attempt_of_gives {a : Action σ ε α} {w w' : σ} {value : α} {j : List ε}
    (h : a.Gives w value w' j) : a.attempt.run w = ⟨.ok (.ok value), w', j⟩ := by
  change attempt a w = _
  unfold attempt
  rw [show a w = ⟨.ok value, w', j⟩ from h]

private theorem run_attempt_of_fails {a : Action σ ε α} {w w' : σ} {fault : Fault} {j : List ε}
    (h : a.Fails w fault w' j) :
    a.attempt.run w =
      ⟨if fault.isFailure then .ok (.error fault) else .error fault, w', j⟩ := by
  change attempt a w = _
  unfold attempt
  rw [show a w = ⟨.error fault, w', j⟩ from h]

@[simp] theorem gives_attempt_ok {a : Action σ ε α} {w w' : σ} {value : α} {j : List ε} :
    a.attempt.Gives w (.ok value) w' j ↔ a.Gives w value w' j := by
  constructor
  · intro h
    rcases gives_or_fails a w with ⟨v, w₁, j₁, ha⟩ | ⟨fault, w₁, j₁, ha⟩
    · have hrun := (run_attempt_of_gives ha).symm.trans h
      rw [Outcome.mk.injEq, Except.ok.injEq, Except.ok.injEq] at hrun
      obtain ⟨rfl, rfl, rfl⟩ := hrun
      exact ha
    · have hrun := congrArg Outcome.result ((run_attempt_of_fails ha).symm.trans h)
      split at hrun <;> simp at hrun
  · exact run_attempt_of_gives

@[simp] theorem gives_attempt_error {a : Action σ ε α} {w w' : σ} {fault : Fault} {j : List ε} :
    a.attempt.Gives w (.error fault) w' j ↔ fault.isFailure = true ∧ a.Fails w fault w' j := by
  constructor
  · intro h
    rcases gives_or_fails a w with ⟨v, w₁, j₁, ha⟩ | ⟨other, w₁, j₁, ha⟩
    · have hrun := congrArg Outcome.result ((run_attempt_of_gives ha).symm.trans h)
      simp at hrun
    · have hrun := (run_attempt_of_fails ha).symm.trans h
      rw [Outcome.mk.injEq] at hrun
      obtain ⟨hresult, rfl, rfl⟩ := hrun
      split at hresult
      case isTrue hfailure =>
        rw [Except.ok.injEq, Except.error.injEq] at hresult
        subst hresult
        exact ⟨hfailure, ha⟩
      case isFalse => simp at hresult
  · rintro ⟨hfailure, ha⟩
    refine (run_attempt_of_fails ha).trans ?_
    rw [if_pos hfailure]

/-- Only an interrupt gets past an attempt. -/
theorem fails_attempt {a : Action σ ε α} {w w' : σ} {fault : Fault} {j : List ε} :
    a.attempt.Fails w fault w' j ↔ fault.isFailure = false ∧ a.Fails w fault w' j := by
  constructor
  · intro h
    rcases gives_or_fails a w with ⟨v, w₁, j₁, ha⟩ | ⟨other, w₁, j₁, ha⟩
    · have hrun := congrArg Outcome.result ((run_attempt_of_gives ha).symm.trans h)
      simp at hrun
    · have hrun := (run_attempt_of_fails ha).symm.trans h
      rw [Outcome.mk.injEq] at hrun
      obtain ⟨hresult, rfl, rfl⟩ := hrun
      split at hresult
      case isTrue => simp at hresult
      case isFalse hnot =>
        rw [Except.error.injEq] at hresult
        subst hresult
        exact ⟨by simpa using hnot, ha⟩
  · rintro ⟨hinterrupt, ha⟩
    refine (run_attempt_of_fails ha).trans ?_
    rw [if_neg (by simp [hinterrupt])]

/-- What an attempt gives when the action ends with a result: failures become values. -/
def caught : Except Fault α → Except Fault (Except Fault α)
  | .ok value => .ok (.ok value)
  | .error fault => if fault.isFailure then .ok (.error fault) else .error fault

/-- Only an interrupt is not caught. -/
theorem caught_eq_error {x : Except Fault α} {fault : Fault} (h : caught x = .error fault) :
    x = .error .interrupt ∧ fault = .interrupt := by
  cases x with
  | ok value => cases h
  | error other => cases other <;> simp_all [caught, Fault.isFailure]

theorem caught_eq_ok {x y : Except Fault α} (h : caught x = .ok y) :
    y = x ∧ ∀ fault, x = .error fault → fault.isFailure = true := by
  cases x with
  | ok value =>
    cases h
    exact ⟨rfl, nofun⟩
  | error fault =>
    cases hfault : fault.isFailure with
    | false => simp [caught, hfault] at h
    | true =>
      rw [caught, hfault, if_pos rfl] at h
      cases h
      exact ⟨rfl, fun other heq => by cases heq; exact hfault⟩

theorem ok_eq_map_caught_error {g : Except Fault α → β} {fault : Fault} {b : β} :
    .ok b = (caught (.error fault)).map g ↔ fault.isFailure = true ∧ b = g (.error fault) := by
  cases hfault : fault.isFailure <;> simp [caught, hfault, Except.map]

theorem eq_interrupt_of_map_caught {g : Except Fault α → β} {x : Except Fault α} {fault : Fault}
    (h : .error fault = (caught x).map g) : fault = .interrupt := by
  cases hcaught : caught x with
  | error other =>
    rw [hcaught] at h
    exact (Except.error.inj h).trans (caught_eq_error hcaught).2
  | ok y =>
    rw [hcaught] at h
    cases h

/-- An attempt runs as the action does, and catches its failure. -/
theorem ends_attempt {a : Action σ ε α} {w w' : σ} {r : Except Fault (Except Fault α)}
    {j : List ε} :
    a.attempt.Ends w r w' j ↔ ∃ result, a.Ends w result w' j ∧ r = caught result := by
  constructor
  · intro h
    rcases r with fault | fault | value
    · obtain ⟨hfault, ha⟩ := fails_attempt.mp h
      exact ⟨_, ha, by simp [caught, hfault]⟩
    · obtain ⟨hfault, ha⟩ := gives_attempt_error.mp h
      exact ⟨_, ha, by simp [caught, hfault]⟩
    · exact ⟨_, gives_attempt_ok.mp h, rfl⟩
  · rintro ⟨fault | value, ha, rfl⟩
    · cases hfault : fault.isFailure with
      | true =>
        have hcaught : caught (.error fault : Except Fault α) = .ok (.error fault) := by
          simp [caught, hfault]
        rw [hcaught]
        exact gives_attempt_error.mpr ⟨hfault, ha⟩
      | false =>
        rw [show caught (.error fault : Except Fault α) = .error fault by simp [caught, hfault]]
        exact fails_attempt.mpr ⟨hfault, ha⟩
    · exact gives_attempt_ok.mpr ha

/-- An attempt does what the action does. -/
theorem exists_ends_of_attempt {a : Action σ ε α} {w w' : σ} {r : Except Fault (Except Fault α)}
    {j : List ε} (h : a.attempt.Ends w r w' j) : ∃ result, a.Ends w result w' j := by
  obtain ⟨result, ha, -⟩ := ends_attempt.mp h
  exact ⟨result, ha⟩

/-! ### Entries -/

/-- Seen as other entries, an action runs as before. -/
theorem ends_entering {a : Action σ ε α} {f : ε → δ} {w w' : σ} {r : Except Fault α}
    {j : List δ} :
    (a.entering f).Ends w r w' j ↔ ∃ j₁, a.Ends w r w' j₁ ∧ j = j₁.map f := by
  change (⟨(a.run w).result, (a.run w).world, (a.run w).journal.map f⟩ : Outcome σ δ α) = _ ↔ _
  unfold Ends
  rcases a.run w with ⟨result, world, journal⟩
  simp only [Outcome.mk.injEq]
  constructor
  · rintro ⟨rfl, rfl, rfl⟩
    exact ⟨journal, ⟨rfl, rfl, rfl⟩, rfl⟩
  · rintro ⟨j₁, ⟨rfl, rfl, rfl⟩, rfl⟩
    exact ⟨rfl, rfl, rfl⟩

/-- The entry of a noted action comes after those of the action itself. -/
theorem ends_noting {a : Action σ ε α} {entry : Bool → ε} {w w' : σ} {r : Except Fault α}
    {j : List ε} :
    (a.noting entry).Ends w r w' j ↔ ∃ j₁, a.Ends w r w' j₁ ∧ j = j₁ ++ [entry r.toBool] := by
  change (⟨(a.run w).result, (a.run w).world,
    (a.run w).journal ++ [entry (a.run w).result.toBool]⟩ : Outcome σ ε α) = _ ↔ _
  unfold Ends
  rcases a.run w with ⟨result, world, journal⟩
  simp only [Outcome.mk.injEq]
  constructor
  · rintro ⟨rfl, rfl, rfl⟩
    exact ⟨journal, ⟨rfl, rfl, rfl⟩, rfl⟩
  · rintro ⟨j₁, ⟨rfl, rfl, rfl⟩, rfl⟩
    exact ⟨rfl, rfl, rfl⟩

/-- An action with another one after it ends in the fault of the later one if that fails, and else
as the first does. -/
theorem ends_ensuring {a : Action σ ε α} {last : Action σ ε Unit} {w w' : σ} {r : Except Fault α}
    {j : List ε} :
    (a.ensuring last).Ends w r w' j ↔
      ∃ first w₁ j₁ later j₂, a.Ends w first w₁ j₁ ∧ last.Ends w₁ later w' j₂ ∧
        r = (later.bind fun _ => first) ∧ j = j₁ ++ j₂ := by
  change ensuring a last w = _ ↔ _
  unfold ensuring
  rcases ha : a w with ⟨first, w₁, j₁⟩
  rcases hlast : last w₁ with ⟨later, w₂, j₂⟩
  simp only [hlast, Outcome.mk.injEq]
  constructor
  · rintro ⟨rfl, rfl, rfl⟩
    refine ⟨first, w₁, j₁, later, j₂, ha, hlast, ?_, rfl⟩
    cases later <;> rfl
  · rintro ⟨first', w₁', j₁', later', j₂', hfirst, hlater, rfl, rfl⟩
    have hsame := ha.symm.trans hfirst
    rw [Outcome.mk.injEq] at hsame
    obtain ⟨rfl, rfl, rfl⟩ := hsame
    have hsame := hlast.symm.trans hlater
    rw [Outcome.mk.injEq] at hsame
    obtain ⟨rfl, rfl, rfl⟩ := hsame
    exact ⟨by cases later <;> rfl, rfl, rfl⟩

theorem gives_ensuring {a : Action σ ε α} {last : Action σ ε Unit} {w w' : σ} {value : α}
    {j : List ε} :
    (a.ensuring last).Gives w value w' j ↔
      ∃ w₁ j₁ j₂, a.Gives w value w₁ j₁ ∧ last.Gives w₁ () w' j₂ ∧ j = j₁ ++ j₂ := by
  unfold Gives
  rw [ends_ensuring]
  constructor
  · rintro ⟨first, w₁, j₁, later, j₂, hfirst, hlater, hr, rfl⟩
    cases later with
    | error fault => cases hr
    | ok u =>
      obtain rfl : .ok value = first := hr
      exact ⟨w₁, j₁, j₂, hfirst, hlater, rfl⟩
  · rintro ⟨w₁, j₁, j₂, hfirst, hlater, rfl⟩
    exact ⟨_, w₁, j₁, _, j₂, hfirst, hlater, rfl, rfl⟩

/-- In a part of a larger world an action runs as before. -/
theorem ends_within {get : τ → σ} {set : σ → τ → τ} {a : Action σ ε α} {w w' : τ}
    {r : Except Fault α} {j : List ε} :
    (a.within get set).Ends w r w' j ↔ ∃ v, a.Ends (get w) r v j ∧ w' = set v w := by
  change (⟨(a.run (get w)).result, set (a.run (get w)).world w, (a.run (get w)).journal⟩ :
    Outcome τ ε α) = _ ↔ _
  unfold Ends
  rcases a.run (get w) with ⟨result, v, journal⟩
  simp only [Outcome.mk.injEq]
  constructor
  · rintro ⟨rfl, rfl, rfl⟩
    exact ⟨v, ⟨rfl, rfl, rfl⟩, rfl⟩
  · rintro ⟨v, ⟨rfl, rfl, rfl⟩, rfl⟩
    exact ⟨rfl, rfl, rfl⟩

/-! ### Coming to an end -/

/-- No run of the action is interrupted. -/
def Uninterrupted (a : Action σ ε α) : Prop := ∀ w w' j, ¬ a.Fails w .interrupt w' j

/-- The action gives a value in every world. -/
def Completes (a : Action σ ε α) : Prop := ∀ w, ∃ value w' j, a.Gives w value w' j

theorem Completes.uninterrupted {a : Action σ ε α} (h : a.Completes) : a.Uninterrupted := by
  intro w w' j hfails
  obtain ⟨value, w₁, j₁, hgives⟩ := h w
  exact hgives.not_fails hfails

theorem completes_pure (value : α) : (pure value : Action σ ε α).Completes :=
  fun w => ⟨value, w, [], pure_gives value w⟩

theorem completes_record (entry : ε) : (record entry : Action σ ε Unit).Completes :=
  fun w => ⟨(), w, [entry], record_gives entry w⟩

theorem Completes.bind {a : Action σ ε α} {f : α → Action σ ε β} (ha : a.Completes)
    (hf : ∀ value, (f value).Completes) : (a >>= f).Completes := by
  intro w
  obtain ⟨value, w₁, j₁, h₁⟩ := ha w
  obtain ⟨b, w₂, j₂, h₂⟩ := hf value w₁
  exact ⟨b, w₂, j₁ ++ j₂, h₁.bind h₂⟩

theorem Completes.ensuring {a : Action σ ε α} {last : Action σ ε Unit} (ha : a.Completes)
    (hlast : last.Completes) : (a.ensuring last).Completes := by
  intro w
  obtain ⟨value, w₁, j₁, h₁⟩ := ha w
  obtain ⟨_, w₂, j₂, h₂⟩ := hlast w₁
  exact ⟨value, w₂, j₁ ++ j₂, gives_ensuring.mpr ⟨w₁, j₁, j₂, h₁, h₂, rfl⟩⟩

theorem Uninterrupted.bind {a : Action σ ε α} {f : α → Action σ ε β} (ha : a.Uninterrupted)
    (hf : ∀ value, (f value).Uninterrupted) : (a >>= f).Uninterrupted := by
  intro w w' j h
  rcases fails_bind.mp h with h | ⟨value, w₁, j₁, j₂, -, h, -⟩
  · exact ha w w' j h
  · exact hf value w₁ w' j₂ h

theorem Uninterrupted.entering {a : Action σ ε α} {f : ε → δ} (ha : a.Uninterrupted) :
    (a.entering f).Uninterrupted := by
  intro w w' j h
  obtain ⟨j₁, h₁, -⟩ := ends_entering.mp h
  exact ha w w' j₁ h₁

theorem Uninterrupted.noting {a : Action σ ε α} {entry : Bool → ε} (ha : a.Uninterrupted) :
    (a.noting entry).Uninterrupted := by
  intro w w' j h
  obtain ⟨j₁, h₁, -⟩ := ends_noting.mp h
  exact ha w w' j₁ h₁

theorem uninterrupted_fail {fault : Fault} (h : fault.isFailure = true) :
    (fail fault : Action σ ε α).Uninterrupted := by
  intro w w' j hfails
  obtain ⟨rfl, -, -⟩ := fails_fail.mp hfails
  cases h

/-- An attempt turns every failure into a value, so only an interrupt could keep it from its end. -/
theorem Uninterrupted.completes_attempt {a : Action σ ε α} (ha : a.Uninterrupted) :
    a.attempt.Completes := by
  intro w
  rcases gives_or_fails a w with ⟨value, w', j, h⟩ | ⟨fault, w', j, h⟩
  · exact ⟨.ok value, w', j, gives_attempt_ok.mpr h⟩
  · refine ⟨.error fault, w', j, gives_attempt_error.mpr ⟨?_, h⟩⟩
    cases fault with
    | interrupt => exact absurd h (ha w w' j)
    | _ => rfl

end ProcedureCall.Action
