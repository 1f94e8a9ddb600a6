import ProcedureCall.Proofs.Settings.Reading
import ProcedureCall.Proofs.Settings.UrlFaults

/-!
# What ends a reading at once

A reading goes on where a part of a record is wrong, so that every such part is told, but a fault of
another kind ends it at once (`Reading.stop?`). Of several such faults the first one counts, in the
order in which the parts are read. No field of a profile or of a configuration file can be at fault
in this way: only a connection URL in a profile can be, and only if it is of the wrong scheme or no
text (`Profile.stop?_eq`, `FileSettings.stop?_read`).
-/

namespace ProcedureCall

open Reader

namespace Reading

variable {α β : Type}

/-- The fault that ends a reading at once, if there is one. -/
def stop? (r : Reading α) : Option Fault :=
  match r.result with
  | .ok _ => none
  | .error (.invalid _) => none
  | .error fault => some fault

/-- A reading gives something, tells what is wrong, or is ended. -/
theorem result_cases (r : Reading α) :
    (∃ a, r.result = .ok a) ∨ (∃ ds, r.result = .error (.invalid ds)) ∨
      ∃ fault, r.result = .error fault ∧ r.stop? = some fault := by
  unfold stop?
  rcases r.result with fault | a
  · cases fault with
    | invalid ds => exact Or.inr (Or.inl ⟨ds, rfl⟩)
    | _ => exact Or.inr (Or.inr ⟨_, rfl, rfl⟩)
  · exact Or.inl ⟨a, rfl⟩

@[simp] theorem stop?_pure (a : α) : (pure a : Reading α).stop? = none := rfl

@[simp] theorem stop?_wrong (kind message : String) :
    (wrong kind message : Reading α).stop? = none := rfl

/-- Of two readings the first that is ended counts. -/
@[simp] theorem stop?_seq (f : Reading (α → β)) (a : Reading α) :
    (f <*> a).stop? = f.stop?.or a.stop? := by
  change (apply f a).stop? = _
  unfold apply stop?
  rcases f.result with fault | g <;> rcases a.result with fault' | x
  · cases fault <;> cases fault' <;> rfl
  · cases fault <;> rfl
  · cases fault' <;> rfl
  · rfl

@[simp] theorem stop?_map (f : α → β) (a : Reading α) : (f <$> a).stop? = a.stop? := by
  change ((pure f : Reading (α → β)) <*> a).stop? = _
  rw [stop?_seq, stop?_pure, Option.none_or]

@[simp] theorem stop?_inside (step : Step) (r : Reading α) : (r.inside step).stop? = r.stop? := by
  unfold inside
  split
  case h_1 details hr => simp [stop?, hr]
  case h_2 => rfl

@[simp] theorem stop?_checked (fault? : α → Option String) (r : Reading α) :
    (r.checked fault?).stop? = r.stop? := by
  unfold checked
  split
  case h_1 a ha =>
    split
    · rw [stop?_wrong, stop?, ha]
    · rfl
  case h_2 => rfl

/-- Of the readings of a list the first that is ended counts. -/
theorem stop?_all (rs : List (Reading α)) : (all rs).stop? = rs.findSome? stop? := by
  induction rs with
  | nil => rfl
  | cons r rs ih =>
    rw [all, stop?_seq, stop?_map, ih, List.findSome?_cons]
    cases r.stop? <;> rfl

end Reading

open Reading

namespace Reader

variable {α : Type}

/-- A reader that is never ended at once, whatever it is given. -/
def NeverStops (r : Reader α) : Prop := ∀ v, (r v).stop? = none

theorem neverStops_text : NeverStops text := by
  intro v
  unfold text
  split <;> rfl

theorem neverStops_integer : NeverStops integer := by
  have hnumber : ∀ x, (integerOfNumber x).stop? = none := by
    intro x
    unfold integerOfNumber
    split
    · split
      · rfl
      · split <;> rfl
    · rfl
  have hdecimal : ∀ x, (integerOfDecimal x).stop? = none := by
    intro x
    unfold integerOfDecimal
    split
    · split <;> rfl
    · rfl
  intro v
  unfold integer
  dsimp only
  split
  · rfl
  · split <;> rfl
  · split
    · exact hnumber _
    · exact hdecimal _
    · split <;> rfl

theorem neverStops_number : NeverStops number := by
  intro v
  unfold number
  dsimp only
  split
  · rfl
  · split <;> rfl
  · split <;> rfl

theorem neverStops_truth : NeverStops truth := by
  intro v
  unfold truth
  dsimp only
  split
  · rfl
  split
  · rfl
  · split <;> rfl
  · split
    · split
      · rfl
      · split <;> rfl
    · rfl

theorem NeverStops.optional {r : Reader α} (h : NeverStops r) : NeverStops (optional r) := by
  intro v
  unfold Reader.optional
  split
  · rfl
  · rw [stop?_map, h]

theorem NeverStops.checked {r : Reader α} (h : NeverStops r) (fault? : α → Option String) :
    NeverStops fun v => (r v).checked fault? := by
  intro v
  rw [stop?_checked, h]

/-- A field that has a value of its own is ended as its value is. -/
theorem stop?_withDefault (given : Given) (name : String) (fallback : α) (r : Reader α) :
    (withDefault given name fallback r).stop? = (find name given).bind fun v => (r v).stop? := by
  unfold withDefault
  split
  case h_1 v hv => rw [hv, stop?_inside, Option.bind_some]
  case h_2 hnone => rw [hnone]; rfl

theorem NeverStops.withDefault {r : Reader α} (h : NeverStops r) (given : Given) (name : String)
    (fallback : α) : (withDefault given name fallback r).stop? = none := by
  rw [stop?_withDefault]
  cases find name given with
  | none => rfl
  | some v => exact h v

/-- A table is ended at the first entry whose value is. -/
theorem stop?_tableOf (r : Reader α) (entries : List (Value × Value)) :
    (tableOf r (.mapping entries)).stop? = entries.findSome? fun entry => (r entry.2).stop? := by
  unfold tableOf
  rw [stop?_all, List.findSome?_map]
  refine congrArg (List.findSome? · entries) (funext fun entry => ?_)
  rw [Function.comp_apply, stop?_seq, stop?_map, stop?_inside, stop?_inside, stop?_inside,
    neverStops_text, Option.none_or]

end Reader

/-! ### Profiles -/

namespace Profile

/-- The connection URL that a value gives as a profile, if it gives one. -/
def urlOf? : Value → Option Value
  | .mapping entries => (find "dsn" (givenBy entries)).filter Value.isTruthy
  | _ => none

/-- The fault with the connection URL of a profile that ends the reading of a file: it is no text,
or its scheme is none of a connection. Where a URL is not of the right form, this is told as a fault
of the profile. -/
def urlStop? (v : Value) : Option Fault :=
  (urlOf? v).bind fun url =>
    match urlFields url with
    | .ok _ => none
    | .error (.mishap .badValue _) => none
    | .error fault => some fault

theorem stop?_readSettings (given : Given) : (readSettings given).stop? = none := by
  have hport := neverStops_integer.checked portFault?
  have hsslmode := neverStops_text.checked sslmodeFault?
  simp only [readSettings, stop?_seq, stop?_map, neverStops_text.withDefault,
    neverStops_text.optional.withDefault, neverStops_integer.withDefault,
    neverStops_truth.optional.withDefault, hport.withDefault, hsslmode.withDefault, Option.or_none]

theorem stop?_withUrl (given : Given) : (withUrl given).stop? =
    ((find "dsn" given).filter Value.isTruthy).bind fun url =>
      match urlFields url with
      | .ok _ => none
      | .error (.mishap .badValue _) => none
      | .error fault => some fault := by
  unfold withUrl
  cases (find "dsn" given).filter Value.isTruthy with
  | none => rfl
  | some url =>
    cases hfields : urlFields url with
    | ok fields => simp [hfields]
    | error fault =>
      rcases urlFields_eq_error hfields with ⟨message, rfl⟩ | ⟨scheme, rfl⟩ | rfl
      all_goals simp only [hfields, Option.bind_some]; rfl

/-- A profile is ended by its connection URL or not at all. -/
theorem stop?_read (v : Value) : (recordOf "PgProfile" read v).stop? = urlStop? v := by
  cases v with
  | mapping entries =>
    change (read (givenBy entries)).stop? = ((find "dsn" (givenBy entries)).filter _).bind _
    rw [← stop?_withUrl]
    unfold read
    split
    case h_1 fault hfault =>
      unfold stop?
      rw [hfault]
      cases fault <;> rfl
    case h_2 whole hwhole =>
      have hnone : (withUrl (givenBy entries)).stop? = none := by rw [stop?, hwhole]
      simp only [hnone, stop?_seq, stop?_map, stop?_pure, stop?_readSettings,
        neverStops_text.optional.withDefault, Option.or_none]
  | _ => rfl

end Profile

namespace FileSettings

/-- The fault that ends the reading of a configuration file: that of the first profile whose
connection URL is no text or of the wrong scheme. -/
def stop? (members : Given) : Option Fault :=
  match find "profiles" members with
  | some (.mapping entries) => entries.findSome? fun entry => Profile.urlStop? entry.2
  | _ => none

theorem stop?_read (members : Given) : (read members).stop? = stop? members := by
  have htable : (withDefault members "profiles" ({} : FileSettings).profiles
      (tableOf (recordOf "PgProfile" Profile.read))).stop? = stop? members := by
    rw [stop?_withDefault, stop?]
    cases find "profiles" members with
    | none => rfl
    | some v =>
      cases v with
      | mapping entries =>
        rw [Option.bind_some, stop?_tableOf]
        exact congrArg (List.findSome? · entries) (funext fun entry => Profile.stop?_read entry.2)
      | _ => rfl
  simp only [read, stop?_seq, stop?_map, neverStops_number.withDefault,
    neverStops_text.withDefault, neverStops_text.optional.withDefault, htable, Option.none_or]

end FileSettings

end ProcedureCall
