import ProcedureCall.Driver.Call
import ProcedureCall.Proofs.Effects

/-!
# Requests in the journal

Every request that the library makes of a collaborator is run as it is and then entered into the
journal. `ends_asked` says this once for all of them. A relation that is `Quiet` lets the library
remark what it likes, so that it is a matter of the requests alone. The rest of the module reads
registrations back out of a journal, and then all requests: `Asks` says how a run ends and what it
asked for on the way, whatever was noted beside that, and it is taken apart as `Ends` is.
-/

namespace ProcedureCall

variable {σ ν π α : Type}

/-- A request runs as the collaborator runs it; its notes come first, then the entry. -/
theorem ends_asked {a : Action σ Note α} {entry : Bool → Event ν π} {w w' : σ}
    {r : Except Fault α} {j : List (Event ν π)} :
    ((a.entering .note).noting entry).Ends w r w' j ↔
      ∃ notes, a.Ends w r w' notes ∧ j = notes.map .note ++ [entry r.toBool] := by
  rw [Action.ends_noting]
  constructor
  · rintro ⟨j₁, h, rfl⟩
    obtain ⟨notes, ha, rfl⟩ := Action.ends_entering.mp h
    exact ⟨notes, ha, rfl⟩
  · rintro ⟨notes, ha, rfl⟩
    exact ⟨notes.map .note, Action.ends_entering.mpr ⟨notes, ha, rfl⟩, rfl⟩

theorem uninterrupted_asked {a : Action σ Note α} (entry : Bool → Event ν π)
    (ha : a.Uninterrupted) : ((a.entering .note).noting entry).Uninterrupted :=
  ha.entering.noting

/-- A request does what the collaborator does, and its entry follows. -/
theorem does_asked {P : σ → List (Event ν π) → σ → Prop} {a : Action σ Note α}
    {entry : Bool → Event ν π}
    (h : ∀ w r w' notes, a.Ends w r w' notes → P w (notes.map .note ++ [entry r.toBool]) w') :
    Action.Does P ((a.entering .note).noting entry) := by
  intro w r w' j hends
  obtain ⟨notes, ha, rfl⟩ := ends_asked.mp hends
  exact h w r w' notes ha

/-- A request leaves notes and its own entry. -/
theorem leaves_asked {p : Event ν π → Prop} {a : Action σ Note α} {entry : Bool → Event ν π}
    (hnote : ∀ n, p (.note n)) (hentry : ∀ accepted, p (entry accepted)) :
    Action.Leaves p ((a.entering .note).noting entry) :=
  (Action.leaves_entering hnote).noting (Action.chains_forall p)
    fun _ accepted => by simpa using hentry accepted

/-! ### Remarks -/

/-- Is the note a remark, which tells of no statement and no message? -/
def Note.isRemark : Note → Bool
  | .queried .. | .message _ => false
  | _ => true

/-- The relation chains, and it holds where only a remark is left. -/
structure Quiet (P : σ → List (Event ν π) → σ → Prop) : Prop extends Action.Chains P where
  /-- A remark is left. -/
  remark : ∀ w n, n.isRemark = true → P w [.note n] w

theorem quiet_forall {p : Event ν π → Prop} (hnote : ∀ n, p (.note n)) :
    Quiet fun (_ : σ) (j : List (Event ν π)) (_ : σ) => ∀ e ∈ j, p e where
  toChains := Action.chains_forall p
  remark _ n _ := by simpa using hnote n

theorem Quiet.does_remark {P : σ → List (Event ν π) → σ → Prop} (hP : Quiet P) {n : Note}
    (h : n.isRemark = true) : Action.Does P (Action.record (.note n)) :=
  Action.does_record fun w => hP.remark w n h

namespace Event

/-! ### Registrations -/

/-- Does the entry tell of a registration? -/
def isRegistration : Event ν π → Bool
  | registered .. => true
  | _ => false

/-- The attempts to register an output, in order: its place, its code and whether the driver
accepted it. -/
def registrations (journal : List (Event ν π)) : List (Int × Int × Bool) :=
  journal.filterMap fun
    | registered slot code accepted => some (slot, code, accepted)
    | _ => none

/-- The places whose registration the driver accepted, in order. -/
def acceptedSlots (journal : List (Event ν π)) : List Int :=
  ((registrations journal).filter (·.2.2)).map (·.1)

@[simp] theorem registrations_append (j₁ j₂ : List (Event ν π)) :
    registrations (j₁ ++ j₂) = registrations j₁ ++ registrations j₂ := List.filterMap_append

@[simp] theorem acceptedSlots_append (j₁ j₂ : List (Event ν π)) :
    acceptedSlots (j₁ ++ j₂) = acceptedSlots j₁ ++ acceptedSlots j₂ := by
  simp [acceptedSlots]

theorem mem_registrations {slot code : Int} {accepted : Bool} {journal : List (Event ν π)} :
    (slot, code, accepted) ∈ registrations journal ↔ registered slot code accepted ∈ journal := by
  unfold registrations
  rw [List.mem_filterMap]
  constructor
  · rintro ⟨e, he, h⟩
    split at h
    · cases h
      exact he
    · cases h
  · intro he
    exact ⟨_, he, rfl⟩

theorem mem_acceptedSlots {slot : Int} {journal : List (Event ν π)} :
    slot ∈ acceptedSlots journal ↔ ∃ code, registered slot code true ∈ journal := by
  unfold acceptedSlots
  rw [List.mem_map]
  constructor
  · rintro ⟨⟨slot, code, accepted⟩, he, rfl⟩
    obtain ⟨hmem, rfl⟩ := List.mem_filter.mp he
    exact ⟨code, mem_registrations.mp hmem⟩
  · rintro ⟨code, he⟩
    exact ⟨(slot, code, true), List.mem_filter.mpr ⟨mem_registrations.mpr he, rfl⟩, rfl⟩

/-- Entries of other kinds register nothing. -/
theorem registrations_eq_nil {journal : List (Event ν π)}
    (h : ∀ e ∈ journal, e.isRegistration = false) : registrations journal = [] := by
  refine List.filterMap_eq_nil_iff.mpr fun e he => ?_
  have hne := h e he
  cases e <;> simp [isRegistration] at hne ⊢

@[simp] theorem registrations_notes (notes : List Note) :
    registrations (notes.map (.note : Note → Event ν π)) = [] :=
  registrations_eq_nil (by simp [isRegistration])

theorem acceptedSlots_eq_nil {journal : List (Event ν π)}
    (h : ∀ e ∈ journal, e.isRegistration = false) : acceptedSlots journal = [] := by
  simp [acceptedSlots, registrations_eq_nil h]

@[simp] theorem acceptedSlots_note (n : Note) :
    acceptedSlots [(.note n : Event ν π)] = [] := rfl

@[simp] theorem acceptedSlots_parametersAsked (procedure : π) :
    acceptedSlots [(.parametersAsked procedure : Event ν π)] = [] := rfl

@[simp] theorem acceptedSlots_notes (notes : List Note) :
    acceptedSlots (notes.map (.note : Note → Event ν π)) = [] :=
  acceptedSlots_eq_nil (by simp [isRegistration])

/-! ### Before the catalog is asked for parameters -/

/-- Does the entry tell that a procedure was asked for its parameters? -/
def asksParameters : Event ν π → Bool
  | parametersAsked _ => true
  | _ => false

/-- The places that the driver accepted before any procedure was asked for its parameters. -/
def acceptedFirst (journal : List (Event ν π)) : List Int :=
  acceptedSlots (journal.takeWhile fun e => !e.asksParameters)

theorem acceptedFirst_append {j₁ : List (Event ν π)} (h : ∀ e ∈ j₁, e.asksParameters = false)
    (j₂ : List (Event ν π)) :
    acceptedFirst (j₁ ++ j₂) = acceptedSlots j₁ ++ acceptedFirst j₂ := by
  unfold acceptedFirst
  rw [List.takeWhile_append_of_pos fun e he => by simp [h e he], acceptedSlots_append]

/-- Once the parameters were asked for, nothing counts any more. -/
theorem acceptedFirst_asked (notes : List Note) (procedure : π) (j : List (Event ν π)) :
    acceptedFirst ((notes.map .note ++ [.parametersAsked procedure]) ++ j) = [] := by
  rw [List.append_assoc, acceptedFirst_append (by simp [asksParameters]), acceptedSlots_notes]
  rfl

/-! ### All requests -/

/-- Does the entry tell of a request? All do but notes. -/
def isRequest : Event ν π → Bool
  | note _ => false
  | _ => true

/-- The requests in a journal, in order. -/
def requests (journal : List (Event ν π)) : List (Event ν π) := journal.filter isRequest

@[simp] theorem requests_append (j₁ j₂ : List (Event ν π)) :
    requests (j₁ ++ j₂) = requests j₁ ++ requests j₂ := List.filter_append _ _

@[simp] theorem requests_notes (notes : List Note) :
    requests (notes.map (.note : Note → Event ν π)) = [] := by
  simp [requests, isRequest]

end Event

namespace Action

variable {β : Type}

/-- Run in `w`, the action ends with the result `r` in the world `w'`, and these are the requests
that it made. -/
def Asks (a : Action σ (Event ν π) α) (w : σ) (r : Except Fault α) (w' : σ)
    (requests : List (Event ν π)) : Prop :=
  ∃ j, a.Ends w r w' j ∧ Event.requests j = requests

theorem exists_asks (a : Action σ (Event ν π) α) (w : σ) :
    ∃ r w' requests, a.Asks w r w' requests :=
  ⟨_, _, _, _, ends_run a w, rfl⟩

theorem Asks.unique {a : Action σ (Event ν π) α} {w w₁ w₂ : σ} {r₁ r₂ : Except Fault α}
    {q₁ q₂ : List (Event ν π)} (h₁ : a.Asks w r₁ w₁ q₁) (h₂ : a.Asks w r₂ w₂ q₂) :
    r₁ = r₂ ∧ w₁ = w₂ ∧ q₁ = q₂ := by
  obtain ⟨j₁, hends₁, rfl⟩ := h₁
  obtain ⟨j₂, hends₂, rfl⟩ := h₂
  obtain ⟨rfl, rfl, rfl⟩ := Ends.unique hends₁ hends₂
  exact ⟨rfl, rfl, rfl⟩

@[simp] theorem asks_pure {value : α} {r : Except Fault α} {w w' : σ}
    {requests : List (Event ν π)} :
    (pure value : Action σ (Event ν π) α).Asks w r w' requests ↔
      r = .ok value ∧ w' = w ∧ requests = [] := by
  constructor
  · rintro ⟨j, hends, rfl⟩
    obtain ⟨rfl, rfl, rfl⟩ := Ends.unique hends (pure_gives value w)
    exact ⟨rfl, rfl, rfl⟩
  · rintro ⟨rfl, rfl, rfl⟩
    exact ⟨[], pure_gives value w', rfl⟩

@[simp] theorem asks_fail {fault : Fault} {r : Except Fault α} {w w' : σ}
    {requests : List (Event ν π)} :
    (fail fault : Action σ (Event ν π) α).Asks w r w' requests ↔
      r = .error fault ∧ w' = w ∧ requests = [] := by
  constructor
  · rintro ⟨j, hends, rfl⟩
    obtain ⟨rfl, rfl, rfl⟩ := ends_fail.mp hends
    exact ⟨rfl, rfl, rfl⟩
  · rintro ⟨rfl, rfl, rfl⟩
    exact ⟨[], ends_fail.mpr ⟨rfl, rfl, rfl⟩, rfl⟩

/-- A request of a collaborator is the only one that it makes. -/
theorem asks_asked {a : Action σ Note α} {entry : Bool → Event ν π}
    (hentry : ∀ accepted, (entry accepted).isRequest = true) {r : Except Fault α} {w w' : σ}
    {requests : List (Event ν π)} :
    ((a.entering .note).noting entry).Asks w r w' requests ↔
      ∃ notes, a.Ends w r w' notes ∧ requests = [entry r.toBool] := by
  have hrequests : ∀ notes : List Note,
      Event.requests (notes.map .note ++ [entry r.toBool]) = [entry r.toBool] := fun notes => by
    rw [Event.requests_append, Event.requests_notes, List.nil_append]
    exact List.filter_eq_self.mpr (by simpa using hentry _)
  constructor
  · rintro ⟨j, hends, rfl⟩
    obtain ⟨notes, ha, rfl⟩ := ends_asked.mp hends
    exact ⟨notes, ha, hrequests notes⟩
  · rintro ⟨notes, ha, rfl⟩
    exact ⟨_, ends_asked.mpr ⟨notes, ha, rfl⟩, hrequests notes⟩

/-- The requests of two actions follow each other. -/
theorem asks_bind {a : Action σ (Event ν π) α} {f : α → Action σ (Event ν π) β}
    {r : Except Fault β} {w w' : σ} {requests : List (Event ν π)} :
    (a >>= f).Asks w r w' requests ↔
      (∃ fault, r = .error fault ∧ a.Asks w (.error fault) w' requests) ∨
        ∃ value w₁ q₁ q₂, a.Asks w (.ok value) w₁ q₁ ∧ (f value).Asks w₁ r w' q₂ ∧
          requests = q₁ ++ q₂ := by
  constructor
  · rintro ⟨j, hends, rfl⟩
    rcases ends_bind.mp hends with ⟨fault, rfl, hfails⟩ | ⟨value, w₁, j₁, j₂, ha, hf, rfl⟩
    · exact Or.inl ⟨fault, rfl, j, hfails, rfl⟩
    · exact Or.inr ⟨value, w₁, _, _, ⟨j₁, ha, rfl⟩, ⟨j₂, hf, rfl⟩, Event.requests_append _ _⟩
  · rintro (⟨fault, rfl, j, hfails, rfl⟩ | ⟨value, w₁, _, _, ⟨j₁, ha, rfl⟩, ⟨j₂, hf, rfl⟩, rfl⟩)
    · exact ⟨j, ends_bind.mpr (Or.inl ⟨fault, rfl, hfails⟩), rfl⟩
    · exact ⟨j₁ ++ j₂, ends_bind.mpr (Or.inr ⟨value, w₁, j₁, j₂, ha, hf, rfl⟩),
        Event.requests_append _ _⟩

/-- The requests of an action that gives a value are followed by those of the next. -/
theorem Gives.asks_bind {a : Action σ (Event ν π) α} {f : α → Action σ (Event ν π) β} {value : α}
    {w w₁ w' : σ} {j : List (Event ν π)} {r : Except Fault β} {requests : List (Event ν π)}
    (h : a.Gives w value w₁ j) :
    (a >>= f).Asks w r w' requests ↔
      ∃ rest, (f value).Asks w₁ r w' rest ∧ requests = Event.requests j ++ rest := by
  constructor
  · rintro ⟨k, hends, rfl⟩
    obtain ⟨j₂, hf, rfl⟩ := h.ends_bind.mp hends
    exact ⟨_, ⟨j₂, hf, rfl⟩, Event.requests_append _ _⟩
  · rintro ⟨_, ⟨j₂, hf, rfl⟩, rfl⟩
    exact ⟨_, h.ends_bind.mpr ⟨j₂, hf, rfl⟩, Event.requests_append _ _⟩

/-- What is computed from the value of an action asks nothing more. -/
theorem asks_bind_pure {a : Action σ (Event ν π) α} {f : α → β} {r : Except Fault β} {w w' : σ}
    {requests : List (Event ν π)} :
    (a >>= fun value => pure (f value)).Asks w r w' requests ↔
      ∃ result, a.Asks w result w' requests ∧ r = result.map f := by
  constructor
  · rintro ⟨j, hends, rfl⟩
    obtain ⟨result, ha, rfl⟩ := ends_map.mp hends
    exact ⟨result, ⟨j, ha, rfl⟩, rfl⟩
  · rintro ⟨result, ⟨j, ha, rfl⟩, rfl⟩
    exact ⟨j, ends_map.mpr ⟨result, ha, rfl⟩, rfl⟩

/-- What is noted in front of an action makes no difference. -/
@[simp] theorem asks_note_bind {n : Note} {f : Unit → Action σ (Event ν π) β}
    {r : Except Fault β} {w w' : σ} {requests : List (Event ν π)} :
    (record (.note n) >>= f).Asks w r w' requests ↔ (f ()).Asks w r w' requests := by
  rw [(record_gives _ w).asks_bind]
  simp [Event.requests, Event.isRequest]

@[simp] theorem asks_note_pure {n : Note} {value : α} {r : Except Fault α} {w w' : σ}
    {requests : List (Event ν π)} :
    (record (.note n) >>= fun _ => (pure value : Action σ (Event ν π) α)).Asks w r w' requests ↔
      r = .ok value ∧ w' = w ∧ requests = [] :=
  asks_note_bind.trans asks_pure

/-- An attempt asks what the action asks. -/
theorem asks_attempt {a : Action σ (Event ν π) α} {r : Except Fault (Except Fault α)} {w w' : σ}
    {requests : List (Event ν π)} :
    a.attempt.Asks w r w' requests ↔ ∃ x, a.Asks w x w' requests ∧ r = caught x := by
  constructor
  · rintro ⟨j, hends, rfl⟩
    obtain ⟨x, ha, rfl⟩ := ends_attempt.mp hends
    exact ⟨x, ⟨j, ha, rfl⟩, rfl⟩
  · rintro ⟨x, ⟨j, ha, rfl⟩, rfl⟩
    exact ⟨j, ends_attempt.mpr ⟨x, ha, rfl⟩, rfl⟩

/-- After an attempt a run goes on with the value or the failure, unless it was interrupted. -/
theorem asks_attempt_bind {a : Action σ (Event ν π) α}
    {f : Except Fault α → Action σ (Event ν π) β} {r : Except Fault β} {w w' : σ}
    {requests : List (Event ν π)} :
    (a.attempt >>= f).Asks w r w' requests ↔
      (r = .error .interrupt ∧ a.Asks w (.error .interrupt) w' requests) ∨
      (∃ fault w₁ q₁ q₂, fault.isFailure = true ∧ a.Asks w (.error fault) w₁ q₁ ∧
        (f (.error fault)).Asks w₁ r w' q₂ ∧ requests = q₁ ++ q₂) ∨
      ∃ value w₁ q₁ q₂, a.Asks w (.ok value) w₁ q₁ ∧ (f (.ok value)).Asks w₁ r w' q₂ ∧
        requests = q₁ ++ q₂ := by
  rw [asks_bind]
  simp only [asks_attempt]
  constructor
  · rintro (⟨fault, rfl, x, ha, hcaught⟩ | ⟨x, w₁, q₁, q₂, ⟨y, ha, hcaught⟩, hf, rfl⟩)
    · obtain ⟨rfl, rfl⟩ := caught_eq_error hcaught.symm
      exact Or.inl ⟨rfl, ha⟩
    · obtain ⟨rfl, hx⟩ := caught_eq_ok hcaught.symm
      cases x with
      | error fault => exact Or.inr (Or.inl ⟨fault, w₁, q₁, q₂, hx fault rfl, ha, hf, rfl⟩)
      | ok value => exact Or.inr (Or.inr ⟨value, w₁, q₁, q₂, ha, hf, rfl⟩)
  · rintro (⟨rfl, ha⟩ | ⟨fault, w₁, q₁, q₂, hfault, ha, hf, rfl⟩ | ⟨value, w₁, q₁, q₂, ha, hf, rfl⟩)
    · exact Or.inl ⟨_, rfl, _, ha, rfl⟩
    · exact Or.inr ⟨_, w₁, q₁, q₂, ⟨_, ha, by simp [caught, hfault]⟩, hf, rfl⟩
    · exact Or.inr ⟨_, w₁, q₁, q₂, ⟨_, ha, rfl⟩, hf, rfl⟩

/-- If what follows an attempt asks nothing and answers with a value in every case, the whole asks
what the action asks. -/
theorem asks_attempt_answer {a : Action σ (Event ν π) α}
    {f : Except Fault α → Action σ (Event ν π) β} {g : Except Fault α → β}
    (hf : ∀ x w r w' requests, (f x).Asks w r w' requests ↔
      r = .ok (g x) ∧ w' = w ∧ requests = [])
    {r : Except Fault β} {w w' : σ} {requests : List (Event ν π)} :
    (a.attempt >>= f).Asks w r w' requests ↔
      ∃ x, a.Asks w x w' requests ∧ r = (caught x).map g := by
  rw [asks_bind]
  simp only [asks_attempt, hf]
  constructor
  · rintro (⟨fault, rfl, x, ha, hcaught⟩ | ⟨x, w₁, q₁, _, ⟨y, ha, hcaught⟩, ⟨rfl, rfl, rfl⟩, rfl⟩)
    · exact ⟨x, ha, by rw [← hcaught]; rfl⟩
    · exact ⟨y, by rwa [List.append_nil], by rw [← hcaught]; rfl⟩
  · rintro ⟨x, ha, rfl⟩
    cases hcaught : caught x with
    | error fault => exact Or.inl ⟨fault, rfl, x, ha, hcaught.symm⟩
    | ok y =>
      exact Or.inr ⟨y, w', requests, [], ⟨x, ha, hcaught.symm⟩, ⟨rfl, rfl, rfl⟩,
        (List.append_nil _).symm⟩

end Action

end ProcedureCall
