import ProcedureCall.Proofs.Driver.Binds
import ProcedureCall.Proofs.Invoker.Lifecycle
import ProcedureCall.Rehearsal.Driver

/-!
# What the observer is told of binds

Two parties keep a history of binds: the driver, which is asked for each of them and may refuse it,
and the observer, which is told of some. Each operation that binds makes its requests one after
another and tells the observer of each request that the driver accepted, up to the first failure of
either (`Ending`, `bindEach_ends`). So the two histories agree after any number of operations.
-/

namespace ProcedureCall

open ProcedureCall.Action ProcedureCall.DriverCall

/-! ### The two histories -/

namespace Event

variable {ν π : Type}

/-- The binds that the driver was asked for, in order, and whether it accepted them. -/
def bindAttempts (journal : List (Event ν π)) : List (BindRequest × Bool) :=
  journal.filterMap fun
    | bound key value accepted => some (.value key value, accepted)
    | boundNull key code accepted => some (.absence key code, accepted)
    | _ => none

/-- The keys and values that the observer was told of, in order. -/
def observations (journal : List (Event ν π)) : List (Key × Value) :=
  journal.filterMap fun
    | observed key value => some (key, value)
    | _ => none

@[simp] theorem bindAttempts_append (j₁ j₂ : List (Event ν π)) :
    bindAttempts (j₁ ++ j₂) = bindAttempts j₁ ++ bindAttempts j₂ := List.filterMap_append

@[simp] theorem observations_append (j₁ j₂ : List (Event ν π)) :
    observations (j₁ ++ j₂) = observations j₁ ++ observations j₂ := List.filterMap_append

@[simp] theorem bindAttempts_notes (notes : List Note) :
    bindAttempts (notes.map (.note : Note → Event ν π)) = [] := by
  simp [bindAttempts]

@[simp] theorem observations_notes (notes : List Note) :
    observations (notes.map (.note : Note → Event ν π)) = [] := by
  simp [observations]

@[simp] theorem bindAttempts_observed (key : Key) (value : Value) :
    bindAttempts [(.observed key value : Event ν π)] = [] := rfl

@[simp] theorem observations_observed (key : Key) (value : Value) :
    observations [(.observed key value : Event ν π)] = [(key, value)] := rfl

end Event

namespace DriverCall.BindRequest

/-- A bind as it is told to the observer: the absence of a value is told as a value. -/
def told (b : BindRequest) : Key × Value := (b.key, b.bound)

/-- The entry that a request leaves. -/
def entry {ν π : Type} : BindRequest → Bool → Event ν π
  | value key v => .bound key v
  | absence key code => .boundNull key code

@[simp] theorem bindAttempts_entry {ν π : Type} (b : BindRequest) (accepted : Bool) :
    Event.bindAttempts [(b.entry accepted : Event ν π)] = [(b, accepted)] := by
  cases b <;> rfl

@[simp] theorem observations_entry {ν π : Type} (b : BindRequest) (accepted : Bool) :
    Event.observations [(b.entry accepted : Event ν π)] = [] := by
  cases b <;> rfl

end DriverCall.BindRequest

/-- Those of the binds asked for that the driver accepted, as they are told. -/
def acceptedBinds (attempts : List (BindRequest × Bool)) : List (Key × Value) :=
  (attempts.filter (·.2)).map (·.1.told)

@[simp] theorem acceptedBinds_append (before after : List (BindRequest × Bool)) :
    acceptedBinds (before ++ after) = acceptedBinds before ++ acceptedBinds after := by
  rw [acceptedBinds, List.filter_append, List.map_append]
  rfl

@[simp] theorem acceptedBinds_accepted (binds : List BindRequest) :
    acceptedBinds (binds.map (·, true)) = binds.map (·.told) := by
  rw [acceptedBinds, List.filter_eq_self.mpr (by simp), List.map_map]
  rfl

/-! ### Operations that bind -/

/-- Binds of values to the places from `slot` on. -/
def placedFrom (slot : Nat) (values : List Value) : List BindRequest :=
  (values.zipIdx slot).map fun (value, place) => .value (.int place) value

/-- The binds that an operation asks for, if it is one that binds. -/
def Operation.binds? : Operation → Option (List BindRequest)
  | .bind key value => some [.value key value]
  | .bindNull key code => some [.absence key code]
  | .bindAll values => some (placedFrom 1 values)
  | _ => none

namespace Invoker

variable {σ ν π : Type} (i : Invoker σ ν π)

/-- Asks the driver for a bind, and tells the observer if it was accepted. -/
def bindOne : BindRequest → Action (Progress × σ) (Event ν π) Unit
  | .value key value => i.bind key value
  | .absence key code => i.bindNull key code

/-- Some binds, one after another. -/
def bindEach : List BindRequest → Action (Progress × σ) (Event ν π) Unit
  | [] => pure ()
  | b :: binds => do
    i.bindOne b
    bindEach binds

theorem bindFrom_eq_bindEach (slot : Nat) (values : List Value) :
    i.bindFrom slot values = i.bindEach (placedFrom slot values) := by
  induction values generalizing slot with
  | nil => rfl
  | cons value values ih => exact bind_congr fun _ => ih (slot + 1)

/-- An operation that binds asks for its binds one after another. -/
theorem perform_eq_bindEach {op : Operation} {binds : List BindRequest}
    (h : op.binds? = some binds) : i.perform op = i.bindEach binds := by
  cases op with
  | bind key value =>
    cases h
    exact (bind_pure _).symm
  | bindNull key code =>
    cases h
    exact (bind_pure _).symm
  | bindAll values =>
    cases h
    exact i.bindFrom_eq_bindEach 1 values
  | _ => cases h

/-- The ways in which some binds end that are asked for one after another, with what the driver was
asked for and what the observer was told. -/
inductive Ending (i : Invoker σ ν π) (u : Progress × σ) : List BindRequest → Except Fault Unit →
    Progress × σ → List (BindRequest × Bool) → List (Key × Value) → Prop where
  /-- All are accepted and told. -/
  | bound {binds : List BindRequest} {v : Progress × σ} :
      Ending i u binds (.ok ()) v (binds.map (·, true)) (binds.map (·.told))
  /-- The driver refuses one. Those before it are accepted and told, those after it not asked
  for. -/
  | refused {before after : List BindRequest} {b : BindRequest} {w w' : σ} {fault : Fault}
      {j : List (Event ν π)} {notes : List Note} :
      (i.bindEach before).Gives u () (u.1, w) j →
      (i.call.ask b.request).Fails w fault w' notes →
      Ending i u (before ++ b :: after) (.error fault) (u.1, w')
        (before.map (·, true) ++ [(b, false)]) (before.map (·.told))
  /-- The observer fails when it is told of one. The binds after it are not asked for. -/
  | unheard {before after : List BindRequest} {b : BindRequest} {w w₁ w' : σ} {fault : Fault}
      {j : List (Event ν π)} {notes notes' : List Note} :
      (i.bindEach before).Gives u () (u.1, w) j →
      (i.call.ask b.request).Gives w () w₁ notes →
      (i.observe b.key b.bound).Fails w₁ fault w' notes' →
      Ending i u (before ++ b :: after) (.error fault) (u.1, w')
        ((before ++ [b]).map (·, true)) ((before ++ [b]).map (·.told))

variable {i} {u v : Progress × σ} {b : BindRequest} {binds : List BindRequest}
  {r : Except Fault Unit} {j : List (Event ν π)}

/-- In every case the observer was told of the accepted binds. -/
theorem Ending.told_eq {attempts : List (BindRequest × Bool)} {told : List (Key × Value)}
    (h : Ending i u binds r v attempts told) : told = acceptedBinds attempts := by
  cases h with
  | bound => simp
  | refused _ _ =>
    rw [acceptedBinds_append, acceptedBinds_accepted]
    exact (List.append_nil _).symm
  | unheard _ _ _ => rw [acceptedBinds_accepted]

/-- One bind is refused by the driver, or it is accepted and told. -/
theorem bindOne_ends (h : (i.bindOne b).Ends u r v j) :
    (∃ fault w notes, (i.call.ask b.request).Fails u.2 fault w notes ∧ r = .error fault ∧
      v = (u.1, w) ∧ Event.bindAttempts j = [(b, false)] ∧ Event.observations j = []) ∨
    ∃ w w' notes notes', (i.call.ask b.request).Gives u.2 () w notes ∧
      (i.observe b.key b.bound).Ends w r w' notes' ∧ v = (u.1, w') ∧
      Event.bindAttempts j = [(b, true)] ∧ Event.observations j = [b.told] := by
  have hbind : i.bindOne b = outside (do
      ((i.call.ask b.request).entering .note).noting b.entry
      i.tell b.key b.bound) := by cases b <;> rfl
  rw [hbind] at h
  obtain ⟨w', hends, rfl⟩ := ends_within.mp h
  rcases ends_bind.mp hends with ⟨fault, rfl, hfails⟩ | ⟨_, w, j₁, j₂, hgives, htold, rfl⟩
  · obtain ⟨notes, hask, rfl⟩ := ends_asked.mp hfails
    exact Or.inl ⟨fault, w', notes, hask, rfl, rfl, by simp [Except.toBool], by simp⟩
  · obtain ⟨notes, hask, rfl⟩ := ends_asked.mp hgives
    obtain ⟨notes', hobserve, rfl⟩ := ends_asked.mp htold
    refine Or.inr ⟨w, w', notes, notes', hask, hobserve, rfl, ?_, ?_⟩
    · simp only [Event.bindAttempts_append, Event.bindAttempts_notes, b.bindAttempts_entry,
        Event.bindAttempts_observed, List.nil_append, List.append_nil, Except.toBool]
    · simp only [Event.observations_append, Event.observations_notes, b.observations_entry,
        Event.observations_observed, List.nil_append, BindRequest.told]

/-- A bind that is accepted and told comes before those that follow it. -/
theorem Ending.cons {w : σ} {attempts : List (BindRequest × Bool)} {told : List (Key × Value)}
    (hone : (i.bindOne b).Gives u () (u.1, w) j) (h : Ending i (u.1, w) binds r v attempts told) :
    Ending i u (b :: binds) r v ((b, true) :: attempts) (b.told :: told) := by
  have hlonger : ∀ {before w₁ k}, (i.bindEach before).Gives (u.1, w) () (u.1, w₁) k →
      (i.bindEach (b :: before)).Gives u () (u.1, w₁) (j ++ k) :=
    fun hbefore => hone.bind hbefore
  cases h with
  | bound => exact .bound
  | refused hbefore hrefused => exact .refused (hlonger hbefore) hrefused
  | unheard hbefore hask hunheard => exact .unheard (hlonger hbefore) hask hunheard

/-- Binds that are asked for one after another end in one of these ways. -/
theorem bindEach_ends (h : (i.bindEach binds).Ends u r v j) :
    Ending i u binds r v (Event.bindAttempts j) (Event.observations j) := by
  induction binds generalizing u j with
  | nil =>
    obtain ⟨rfl, rfl, rfl⟩ := Ends.unique h (pure_gives () u)
    exact .bound
  | cons b binds ih =>
    have hnone : (i.bindEach []).Gives u () (u.1, u.2) [] := pure_gives () u
    rcases ends_bind.mp h with ⟨fault, rfl, hfails⟩ | ⟨_, w, j₁, j₂, hgives, hrest, rfl⟩
    · rcases bindOne_ends hfails with
        ⟨fault, w, notes, hask, hr, rfl, hattempts, htold⟩ |
        ⟨w, w', notes, notes', hask, hobserve, rfl, hattempts, htold⟩
      · cases hr
        rw [hattempts, htold]
        exact .refused hnone hask
      · rw [hattempts, htold]
        exact .unheard hnone hask hobserve
    · rcases bindOne_ends hgives with
        ⟨fault, w, notes, hask, hr, -⟩ |
        ⟨w, w', notes, notes', hask, hobserve, rfl, hattempts, htold⟩
      · cases hr
      rw [Event.bindAttempts_append, Event.observations_append, hattempts, htold]
      exact .cons hgives (ih hrest)

variable {start : Progress × σ} {ops : List Operation}

/-- **The observer is told of what the driver accepted.** Through any operations that bind, in any
order, whatever the driver refuses and whether or not the observer fails: the observer is told of
the binds that the driver accepted, of these only, in the same order and with the same keys and
values, an absent value told as such. And wherever such an operation is done, its binds are asked
for one after another up to the first that fails: those before it are accepted and told, it ends in
that failure, and those after it are not asked for. -/
theorem observer_told_of_accepted (hops : ∀ op ∈ ops, op.binds?.isSome)
    (h : Lives i start ops j u) :
    Event.observations j = acceptedBinds (Event.bindAttempts j) ∧
    ∀ {op binds u r v k}, op.binds? = some binds → (i.perform op).Ends u r v k →
      Ending i u binds r v (Event.bindAttempts k) (Event.observations k) := by
  have hending : ∀ {op binds u r v k}, op.binds? = some binds → (i.perform op).Ends u r v k →
      Ending i u binds r v (Event.bindAttempts k) (Event.observations k) := by
    intro op binds u r v k hbinds hends
    rw [i.perform_eq_bindEach hbinds] at hends
    exact bindEach_ends hends
  refine ⟨?_, hending⟩
  induction h with
  | start => rfl
  | step _ hop ih =>
    obtain ⟨hbefore, hlast⟩ := List.forall_mem_append.mp hops
    obtain ⟨binds, hbinds⟩ := Option.isSome_iff_exists.mp (hlast _ (List.mem_singleton_self _))
    rw [Event.observations_append, Event.bindAttempts_append, acceptedBinds_append, ih hbefore,
      (hending hbinds hop).told_eq]

/-- An invoker of a call that refuses the second bind, whose observer does nothing. -/
def refusedSecond : Invoker Rehearsal.World Unit Unit where
  call := Rehearsal.CallScript.call {}
  plan := ⟨none, none, none, .unavailable "", .unavailable "", ⟨.none, 0, none⟩, ⟨.unavailable, []⟩⟩
  observe := ignoreBind

/-- Of three values that are to be bound the second is refused, and the third not asked for. -/
theorem second_bind_refused :
    ∃ (j : List (Event Unit Unit)) (u : Progress × Rehearsal.World),
      Lives refusedSecond
        ({ projector := {} }, { bindFaults := [none, some (.tool .driver "refused")] })
        [.bindAll [.int 7, .text "x", .null], .bindNull (.text "a") 4] j u ∧
      Event.bindAttempts j = [(.value (.int 1) (.int 7), true),
        (.value (.int 2) (.text "x"), false), (.absence (.text "a") 4, true)] ∧
      Event.observations j = [(.int 1, .int 7), (.text "a", .null)] := by
  have hlife : ∃ (j : List (Event Unit Unit)) (u : Progress × Rehearsal.World),
      Event.bindAttempts j = [(.value (.int 1) (.int 7), true),
        (.value (.int 2) (.text "x"), false), (.absence (.text "a") 4, true)] ∧
      Lives refusedSecond
        ({ projector := {} }, { bindFaults := [none, some (.tool .driver "refused")] })
        [.bindAll [.int 7, .text "x", .null], .bindNull (.text "a") 4] j u :=
    ⟨_, _, by exact rfl, .step (.step .start rfl) rfl⟩
  obtain ⟨j, u, hattempts, hlife⟩ := hlife
  obtain ⟨htold, -⟩ := observer_told_of_accepted (by simp [Operation.binds?]) hlife
  rw [hattempts] at htold
  exact ⟨j, u, hlife, hattempts, htold⟩

end Invoker

end ProcedureCall
