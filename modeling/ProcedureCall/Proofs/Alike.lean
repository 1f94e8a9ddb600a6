import ProcedureCall.Proofs.Action

/-!
# Actions that are alike

Two actions may be run side by side, each in a world of its own. They are `Alike` if from related
worlds they end with the same fault or with related values, leave related worlds again, and related
journals. A relation of journals that `Joins` is shown of whole actions from their parts; what the
parts have in common, the whole has.
-/

namespace ProcedureCall.Action

variable {σ τ ε δ α β γ κ : Type}

/-- Two results are the same fault or related values. -/
inductive SameEnd (V : α → β → Prop) : Except Fault α → Except Fault β → Prop where
  /-- Both gave a value. -/
  | ok {a : α} {b : β} : V a b → SameEnd V (.ok a) (.ok b)
  /-- Both failed with one fault. -/
  | error (fault : Fault) : SameEnd V (.error fault) (.error fault)

@[simp] theorem sameEnd_ok {V : α → β → Prop} {a : α} {b : β} :
    SameEnd V (.ok a) (.ok b) ↔ V a b :=
  ⟨fun h => by cases h; assumption, .ok⟩

theorem sameEnd_eq {r r' : Except Fault α} : SameEnd (· = ·) r r' ↔ r = r' := by
  constructor
  · rintro (⟨rfl⟩ | _) <;> rfl
  · rintro rfl
    rcases r with fault | value
    · exact .error fault
    · exact .ok rfl

/-- From worlds that `R` relates, however the two actions end, their results are the same fault or
related by `V`, the worlds are related again, and the journals are related by `J`. -/
def Alike (R : σ → τ → Prop) (J : List ε → List δ → Prop) (V : α → β → Prop) (a : Action σ ε α)
    (b : Action τ δ β) : Prop :=
  ∀ ⦃w v r r' w' v' j j'⦄, R w v → a.Ends w r w' j → b.Ends v r' v' j' →
    SameEnd V r r' ∧ R w' v' ∧ J j j'

/-- The relation holds of empty journals, and of one pair of journals after another. -/
structure Joins (J : List ε → List δ → Prop) : Prop where
  /-- Nothing is left on either side. -/
  nil : J [] []
  /-- More is left after what was left. -/
  append : ∀ {j₁ j₂ : List ε} {k₁ k₂ : List δ}, J j₁ k₁ → J j₂ k₂ → J (j₁ ++ j₂) (k₁ ++ k₂)

variable {R : σ → τ → Prop} {J : List ε → List δ → Prop} {V : α → β → Prop} {W : γ → κ → Prop}

theorem alike_pure (hJ : Joins J) {a : α} {b : β} (h : V a b) :
    Alike R J V (pure a : Action σ ε α) (pure b : Action τ δ β) := by
  intro w v r r' w' v' j j' hw ha hb
  obtain ⟨rfl, rfl, rfl⟩ := Ends.unique ha (pure_gives a w)
  obtain ⟨rfl, rfl, rfl⟩ := Ends.unique hb (pure_gives b v)
  exact ⟨.ok h, hw, hJ.nil⟩

theorem alike_fail (hJ : Joins J) (fault : Fault) :
    Alike R J V (fail fault : Action σ ε α) (fail fault : Action τ δ β) := by
  intro w v r r' w' v' j j' hw ha hb
  obtain ⟨rfl, rfl, rfl⟩ := Ends.unique ha (fails_fail.mpr ⟨rfl, rfl, rfl⟩)
  obtain ⟨rfl, rfl, rfl⟩ := Ends.unique hb (fails_fail.mpr ⟨rfl, rfl, rfl⟩)
  exact ⟨.error fault, hw, hJ.nil⟩

theorem alike_record {e : ε} {d : δ} (h : J [e] [d]) :
    Alike R J (· = ·) (record e : Action σ ε Unit) (record d : Action τ δ Unit) := by
  intro w v r r' w' v' j j' hw ha hb
  obtain ⟨rfl, rfl, rfl⟩ := Ends.unique ha (record_gives e w)
  obtain ⟨rfl, rfl, rfl⟩ := Ends.unique hb (record_gives d v)
  exact ⟨.ok rfl, hw, h⟩

/-- An action is alike to itself in one and the same world. -/
theorem alike_self (a : Action σ ε α) : Alike (· = ·) (fun _ _ => True) (· = ·) a a := by
  rintro w _ r r' w' v' j j' rfl ha hb
  obtain ⟨rfl, rfl, rfl⟩ := Ends.unique ha hb
  exact ⟨sameEnd_eq.mpr rfl, rfl, trivial⟩

/-- Alike actions, followed by actions that are alike after related values, are alike. -/
theorem Alike.bind (hJ : Joins J) {a : Action σ ε α} {b : Action τ δ β} {f : α → Action σ ε γ}
    {g : β → Action τ δ κ} (hab : Alike R J V a b)
    (hfg : ∀ x y, V x y → Alike R J W (f x) (g y)) : Alike R J W (a >>= f) (b >>= g) := by
  intro w v r r' w' v' j j' hw hleft hright
  rcases ends_bind.mp hleft with ⟨fault, rfl, ha⟩ | ⟨x, w₁, j₁, j₂, ha, hf, rfl⟩
  · rcases ends_bind.mp hright with ⟨other, rfl, hb⟩ | ⟨y, v₁, k₁, k₂, hb, -, -⟩
    · obtain ⟨hsame, hrest⟩ := hab hw ha hb
      cases hsame
      exact ⟨.error fault, hrest⟩
    · cases (hab hw ha hb).1
  · rcases ends_bind.mp hright with ⟨other, rfl, hb⟩ | ⟨y, v₁, k₁, k₂, hb, hg, rfl⟩
    · cases (hab hw ha hb).1
    · obtain ⟨hxy, hw₁, hj₁⟩ := hab hw ha hb
      obtain ⟨hsame, hw', hj₂⟩ := hfg x y (sameEnd_ok.mp hxy) hw₁ hf hg
      exact ⟨hsame, hw', hJ.append hj₁ hj₂⟩

theorem Alike.attempt {a : Action σ ε α} {b : Action τ δ β} (hab : Alike R J V a b) :
    Alike R J (SameEnd V) a.attempt b.attempt := by
  intro w v r r' w' v' j j' hw hleft hright
  obtain ⟨first, ha, rfl⟩ := ends_attempt.mp hleft
  obtain ⟨other, hb, rfl⟩ := ends_attempt.mp hright
  obtain ⟨hsame, hrest⟩ := hab hw ha hb
  refine ⟨?_, hrest⟩
  cases hsame with
  | ok hxy => exact .ok (.ok hxy)
  | error fault =>
    cases hfault : fault.isFailure with
    | true => simpa [caught, hfault] using SameEnd.error fault
    | false => simpa [caught, hfault] using SameEnd.error fault

end ProcedureCall.Action
