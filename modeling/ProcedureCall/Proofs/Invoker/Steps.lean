import ProcedureCall.Invoker
import ProcedureCall.Proofs.Plan.Steps
import ProcedureCall.Proofs.Projection.Columns

/-!
# The operations of an invoker

Two of the operations of an invoker decide about its life: `execute` and `close`. All others keep
the stage that the invoker has reached, and outside they do what a few requests to the driver do
(`RequestsDo.stays_perform`).

Of what is left in the journal only the milestones count for the life of a call, the executions and
the closings that were asked of the driver. The other operations are idle: they leave no milestone
(`idles_perform`). What an execution does is one of the constructors of `Executes`, and what a close
does one of those of `Closes`.
-/

namespace ProcedureCall

open ProcedureCall.Action

/-! ### Milestones -/

/-- What is asked of the driver once at most, if it goes well. -/
inductive Milestone where
  /-- An execution, and whether it gave a value. -/
  | executed (accepted : Bool)
  /-- The end of the call. -/
  | closed
  deriving DecidableEq

namespace Event

variable {ν π : Type}

/-- The milestones of a journal, in order. -/
def milestones (journal : List (Event ν π)) : List Milestone :=
  journal.filterMap fun
    | executed accepted => some (.executed accepted)
    | closed => some .closed
    | _ => none

@[simp] theorem milestones_append (j₁ j₂ : List (Event ν π)) :
    milestones (j₁ ++ j₂) = milestones j₁ ++ milestones j₂ := List.filterMap_append

@[simp] theorem milestones_notes (notes : List Note) :
    milestones (notes.map (.note : Note → Event ν π)) = [] := by
  simp [milestones]

theorem executed_mem_milestones {accepted : Bool} {journal : List (Event ν π)} :
    .executed accepted ∈ milestones journal ↔ executed accepted ∈ journal := by
  unfold milestones
  rw [List.mem_filterMap]
  constructor
  · rintro ⟨e, he, h⟩
    cases e <;> simp_all
  · exact fun he => ⟨_, he, rfl⟩

theorem closed_mem_milestones {journal : List (Event ν π)} :
    .closed ∈ milestones journal ↔ closed ∈ journal := by
  unfold milestones
  rw [List.mem_filterMap]
  constructor
  · rintro ⟨e, he, h⟩
    cases e <;> simp_all
  · exact fun he => ⟨_, he, rfl⟩

end Event

variable {σ ν π : Type}

theorem chains_milestones :
    Chains fun (_ : σ) (j : List (Event ν π)) (_ : σ) => Event.milestones j = [] :=
  chains_eq_nil.comap rfl Event.milestones_append

theorem quiet_milestones :
    Quiet fun (_ : σ) (j : List (Event ν π)) (_ : σ) => Event.milestones j = [] where
  toChains := chains_milestones
  remark _ _ _ := rfl

theorem milestones_entering {α : Type} (a : Action σ Note α) :
    Does (fun _ (j : List (Event ν π)) _ => Event.milestones j = []) (a.entering .note) := by
  intro w r w' j h
  obtain ⟨notes, -, rfl⟩ := ends_entering.mp h
  exact Event.milestones_notes notes

/-- A request is a milestone if its entry is. -/
theorem milestones_asked {α : Type} (a : Action σ Note α) {entry : Bool → Event ν π}
    (h : ∀ accepted, Event.milestones [entry accepted] = []) :
    Does (fun _ j _ => Event.milestones j = []) ((a.entering .note).noting entry) :=
  (milestones_entering a).noting chains_milestones fun _ => h

/-! ### Stages -/

namespace Progress

/-- The two are at the same stage: they differ at most in the values that were fetched into the row
and in whether it was handed out. -/
structure SameStage (p q : Progress) : Prop where
  /-- Executed or not. -/
  isExecuted : q.isExecuted = p.isExecuted
  /-- Closed or not. -/
  isClosed : q.isClosed = p.isClosed
  /-- The columns. -/
  columns : q.projector.columns = p.projector.columns
  /-- Committed or not. -/
  isCommitted : q.projector.isCommitted = p.projector.isCommitted
  /-- The row closed or not. -/
  rowClosed : q.projector.isClosed = p.projector.isClosed

theorem SameStage.refl (p : Progress) : p.SameStage p := ⟨rfl, rfl, rfl, rfl, rfl⟩

theorem SameStage.trans {p q r : Progress} (h₁ : p.SameStage q) (h₂ : q.SameStage r) :
    p.SameStage r :=
  ⟨h₂.isExecuted.trans h₁.isExecuted, h₂.isClosed.trans h₁.isClosed, h₂.columns.trans h₁.columns,
    h₂.isCommitted.trans h₁.isCommitted, h₂.rowClosed.trans h₁.rowClosed⟩

/-- The row goes with the invoker: it is closed with it, and it is committed from the execution to
the close. -/
structure InStep (p : Progress) : Prop where
  /-- The row is closed with the invoker. -/
  rowClosed : p.projector.isClosed = p.isClosed
  /-- The row is committed while there was an execution and no close. -/
  isCommitted : p.projector.isCommitted = (p.isExecuted && !p.isClosed)

theorem InStep.of_sameStage {p q : Progress} (hp : p.InStep) (h : p.SameStage q) : q.InStep :=
  ⟨by rw [h.rowClosed, h.isClosed, hp.rowClosed],
    by rw [h.isCommitted, h.isExecuted, h.isClosed, hp.isCommitted]⟩

/-- The progress after a successful execution. -/
def executed (p : Progress) : Progress :=
  { p with
    isExecuted := true
    projector := { p.projector with
      cells := some (p.projector.columns.map fun column => ⟨column, none⟩) } }

/-- The progress after a close. -/
def closed (p : Progress) : Progress := { p with isClosed := true, projector := p.projector.close }

theorem InStep.executed {p : Progress} (hp : p.InStep) (h : p.isClosed = false) :
    p.executed.InStep :=
  ⟨hp.rowClosed, by simp [Progress.executed, Projector.isCommitted, h]⟩

@[simp] theorem isExecuted_closed (p : Progress) : p.closed.isExecuted = p.isExecuted := rfl

@[simp] theorem isClosed_closed (p : Progress) : p.closed.isClosed = true := rfl

theorem inStep_closed (p : Progress) : p.closed.InStep :=
  ⟨rfl, by simp [closed, Projector.close, Projector.isCommitted]⟩

end Progress

/-! ### Operations -/

/-- What can be done with an invoker. -/
inductive Operation where
  /-- A value is bound. -/
  | bind (key : Key) (value : Value)
  /-- The absence of a value is bound. -/
  | bindNull (key : Key) (code : Int)
  /-- Values are bound to the places from 1 on. -/
  | bindAll (values : List Value)
  /-- An output parameter is registered. -/
  | register (slot code : Int)
  /-- A value that came out is read. -/
  | read (key : Key)
  /-- It is asked whether the value read last was absent. -/
  | wasNull
  /-- A value of the row is read. -/
  | readAt (index : Int)
  /-- The row is handed out. -/
  | fetchOne
  /-- The row is reported as a result. -/
  | projected
  /-- The call is executed. -/
  | execute
  /-- The result is asked for. -/
  | resultSet
  /-- It is asked whether there is a further result. -/
  | nextResults
  /-- The call is ended. -/
  | close
  /-- The context of the call is left, which ends it. -/
  | leave
  deriving Repr

/-- Does the operation end the call? -/
def Operation.isClosing : Operation → Bool
  | close | leave => true
  | _ => false

namespace Invoker

variable (i : Invoker σ ν π)

/-- Does what an operation says, whatever it gives. -/
def perform : Operation → Action (Progress × σ) (Event ν π) Unit
  | .bind key value => i.bind key value
  | .bindNull key code => i.bindNull key code
  | .bindAll values => i.bindAll values
  | .register slot code => i.register slot code
  | .read key => discard (i.read key)
  | .wasNull => discard i.wasNull
  | .readAt index => discard (onProjector (ProcedureCall.readAt i.fetch index))
  | .fetchOne => discard (onProjector (ProcedureCall.fetchOne i.fetch))
  | .projected => discard (onProjector (projectedResult i.fetch))
  | .execute => discard i.execute
  | .resultSet => discard i.resultSet
  | .nextResults => discard i.nextResults
  | .close | .leave => i.close

/-! ### Operations that leave the stage as it is -/

/-- What the requests do of which every operation but an execution and an end of the call is
made. -/
structure RequestsDo (P : σ → List (Event ν π) → σ → Prop) : Prop extends Chains P where
  /-- Binding a value. -/
  bind : ∀ key value, Does P (i.call.askBind key value)
  /-- Binding the absence of a value. -/
  bindNull : ∀ key code, Does P (i.call.askBindNull key code)
  /-- Telling the observer. -/
  tell : ∀ key value, Does P (i.tell key value)
  /-- Registering an output. -/
  register : ∀ slot code, Does P (i.call.askRegister slot code)
  /-- Reading a value. -/
  read : ∀ key, Does P (i.call.askRead key)
  /-- Asking whether the value read last was absent. -/
  wasNull : Does P (i.call.wasNull.entering .note)
  /-- Asking for the result set. -/
  resultSet : Does P (i.call.resultSet.entering .note)
  /-- Asking for a further result set. -/
  moreResults : Does P (i.call.moreResults.entering .note)

/-- The requests have done something outside, and the stage stays. -/
def Stays (P : σ → List (Event ν π) → σ → Prop) (u : Progress × σ) (j : List (Event ν π))
    (v : Progress × σ) : Prop :=
  P u.2 j v.2 ∧ u.1.SameStage v.1

/-- The requests have done something outside, and the row keeps its shape. -/
def RowStays (P : σ → List (Event ν π) → σ → Prop) (u : Projector × σ) (j : List (Event ν π))
    (v : Projector × σ) : Prop :=
  P u.2 j v.2 ∧ u.1.SameShape v.1

section

variable {P : σ → List (Event ν π) → σ → Prop}

theorem chains_stays (hP : Chains P) : Chains (Stays P) where
  nil u := ⟨hP.nil u.2, .refl u.1⟩
  append h₁ h₂ := ⟨hP.append h₁.1 h₂.1, h₁.2.trans h₂.2⟩

theorem chains_rowStays (hP : Chains P) : Chains (RowStays P) where
  nil u := ⟨hP.nil u.2, .refl u.1⟩
  append h₁ h₂ := ⟨hP.append h₁.1 h₂.1, h₁.2.trans h₂.2⟩

/-- What runs beside the progress keeps it. -/
theorem stays_outside {α : Type} {a : Action σ (Event ν π) α} (ha : Does P a) :
    Does (Stays P) (outside a) :=
  ha.within fun _ _ _ h => ⟨h, .refl _⟩

theorem stays_onProjector {α : Type} {a : Action (Projector × σ) (Event ν π) α}
    (ha : Does (RowStays P) a) : Does (Stays P) (onProjector a) :=
  ha.within fun _ _ _ ⟨h, hsame⟩ =>
    ⟨h, ⟨rfl, rfl, hsame.columns, hsame.isCommitted, hsame.isClosed⟩⟩

theorem rowStays_remember (hP : Chains P) (w : Projector × σ) (place : Nat) (value : Value) :
    RowStays P w [] (w.1.remember place value, w.2) :=
  ⟨hP.nil w.2, w.1.sameShape_remember place value⟩

variable {i}

theorem RequestsDo.rowStays_fetch (hP : i.RequestsDo P) (ordinal : Int) :
    Does (RowStays P) ((i.fetch ordinal).within (τ := Projector × σ) (·.2)
      fun outside w => (w.1, outside)) :=
  (hP.read (.int ordinal)).within fun w _ _ h => ⟨h, .refl w.1⟩

/-- Reading the row reads values and does nothing else. -/
theorem RequestsDo.rowStays_reading (hP : i.RequestsDo P) {op : Projector.Operation}
    (hop : op.isReading = true) : Does (RowStays P) (op.perform i.fetch) :=
  Projector.does_reading (chains_rowStays hP.toChains) hP.rowStays_fetch
    (rowStays_remember hP.toChains) (fun w => ⟨hP.nil w.2, ⟨rfl, rfl, rfl⟩⟩) hop

theorem RequestsDo.stays_bind (hP : i.RequestsDo P) (key : Key) (value : Value) :
    Does (Stays P) (i.bind key value) :=
  stays_outside ((hP.bind key value).bind hP.toChains fun _ => hP.tell key value)

variable (i)

theorem does_bindFrom {P : Progress × σ → List (Event ν π) → Progress × σ → Prop} (hP : Chains P)
    (hbind : ∀ key value, Does P (i.bind key value)) (slot : Nat) (values : List Value) :
    Does P (i.bindFrom slot values) := by
  induction values generalizing slot with
  | nil => exact does_pure hP ()
  | cons value values ih => exact (hbind _ _).bind hP fun _ => ih _

theorem does_resultSet {P : Progress × σ → List (Event ν π) → Progress × σ → Prop} (hP : Chains P)
    (hdriver : Does P (outside (i.call.resultSet.entering .note))) : Does P i.resultSet := by
  refine hdriver.bind hP fun native => ?_
  cases native with
  | some result => exact does_pure hP _
  | none => exact (does_world hP).bind hP fun _ => does_pure hP _

variable {i}

/-- All but an execution and an end of the call leaves the stage as it is. -/
theorem RequestsDo.stays_perform (hP : i.RequestsDo P) {op : Operation} (hexecute : op ≠ .execute)
    (hclosing : op.isClosing = false) : Does (Stays P) (i.perform op) := by
  have hC := chains_stays hP.toChains
  have hrow := chains_rowStays hP.toChains
  cases op with
  | bind key value => exact hP.stays_bind key value
  | bindNull key code =>
    exact stays_outside ((hP.bindNull key code).bind hP.toChains fun _ => hP.tell key .null)
  | bindAll values => exact i.does_bindFrom hC hP.stays_bind 1 values
  | register slot code => exact stays_outside (hP.register slot code)
  | read key => exact (stays_outside (hP.read key)).discard
  | wasNull => exact (stays_outside hP.wasNull).discard
  | readAt index =>
    exact (stays_onProjector (does_readAt hrow hP.rowStays_fetch (rowStays_remember hP.toChains)
      index)).discard
  | fetchOne =>
    exact (stays_onProjector (does_fetchOne hrow hP.rowStays_fetch (rowStays_remember hP.toChains)
      fun w => ⟨hP.nil w.2, ⟨rfl, rfl, rfl⟩⟩)).discard
  | projected =>
    exact (stays_onProjector (does_projectedResult hrow hP.rowStays_fetch
      (rowStays_remember hP.toChains))).discard
  | resultSet => exact (i.does_resultSet hC (stays_outside hP.resultSet)).discard
  | nextResults =>
    refine Does.discard ((stays_outside hP.moreResults).bind hC fun more => ?_)
    cases more with
    | true => exact does_pure hC _
    | false => exact (does_world hC).bind hC fun _ => does_pure hC _
  | execute => exact absurd rfl hexecute
  | close => cases hclosing
  | leave => cases hclosing

end

/-! ### Idle operations -/

/-- Nothing is asked that is a milestone, and the stage stays. -/
def Idles (u : Progress × σ) (j : List (Event ν π)) (v : Progress × σ) : Prop :=
  Event.milestones j = [] ∧ u.1.SameStage v.1

theorem milestones_requests : i.RequestsDo fun _ j _ => Event.milestones j = [] where
  toChains := chains_milestones
  bind _ _ := milestones_asked _ fun _ => rfl
  bindNull _ _ := milestones_asked _ fun _ => rfl
  tell _ _ := milestones_asked _ fun _ => rfl
  register _ _ := milestones_asked _ fun _ => rfl
  read _ := milestones_asked _ fun _ => rfl
  wasNull := milestones_entering _
  resultSet := milestones_entering _
  moreResults := milestones_entering _

/-- All but an execution and an end of the call is idle. -/
theorem idles_perform {op : Operation} (hexecute : op ≠ .execute)
    (hclosing : op.isClosing = false) : Does Idles (i.perform op) :=
  i.milestones_requests.stays_perform hexecute hclosing

/-! ### Executions -/

/-- The entries of an execution by the driver that leaves these notes. -/
def executionEntries (r : Except Fault Bool) (notes : List Note) : List (Event ν π) :=
  [.note (.spanOpened "db.call" (briefly (i.plan.text.getD "")))] ++
    ((notes.map .note ++ [.executed r.toBool] ++
      r.toOption.toList.map fun native => .note (.spanData "native_result" (.bool native))) ++
    [.note .spanClosed])

theorem milestones_executionEntries (r : Except Fault Bool) (notes : List Note) :
    Event.milestones (i.executionEntries r notes) = [.executed r.toBool] := by
  simp only [executionEntries, Event.milestones_append, Event.milestones_notes]
  cases r <;> rfl

/-- The driver executes the call as it does without being watched. -/
theorem executeDriver_ends {w w' : σ} {r : Except Fault Bool} {k : List (Event ν π)} :
    i.executeDriver.Ends w r w' k ↔
      ∃ notes, i.call.execute.Ends w r w' notes ∧ k = i.executionEntries r notes := by
  rw [executeDriver, ends_spanning]
  constructor
  · rintro ⟨j, h, rfl⟩
    rcases ends_bind.mp h with ⟨fault, rfl, hfails⟩ | ⟨native, w₁, j₁, j₂, hgives, hrest, rfl⟩
    · obtain ⟨notes, hends, rfl⟩ := ends_asked.mp hfails
      exact ⟨notes, hends, by simp [executionEntries, Except.toOption]⟩
    · obtain ⟨notes, hends, rfl⟩ := ends_asked.mp hgives
      obtain ⟨rfl, rfl, rfl⟩ := Ends.unique hrest ((record_gives _ w₁).bind (pure_gives native w₁))
      exact ⟨notes, hends, by simp [executionEntries, Except.toOption]⟩
  · rintro ⟨notes, hends, rfl⟩
    refine ⟨_, ?_, rfl⟩
    cases r with
    | error fault =>
      exact ends_bind.mpr (Or.inl ⟨fault, rfl,
        ends_asked.mpr ⟨notes, hends, List.append_nil _⟩⟩)
    | ok native =>
      exact Gives.bind (ends_asked.mpr ⟨notes, hends, rfl⟩)
        ((record_gives _ w').bind (pure_gives native w'))

/-- After an execution the row is committed, with nothing in it. -/
theorem commit_gives {p : Progress} (hopen : p.projector.isClosed = false)
    (huncommitted : p.projector.isCommitted = false) (native : Bool) (w : σ) :
    (commit native : Action (Progress × σ) (Event ν π) Bool).Gives (p, w)
      (native || !p.projector.columns.isEmpty) (p.executed, w) [] := by
  have hrow : p.projector.addRow = .ok p.executed.projector := by
    simp [Projector.addRow, hopen, huncommitted, Progress.executed]
  exact (change_gives _ _).bind ((world_gives _).bind
    (Gives.bind (ends_ofExcept.mpr ⟨hrow.symm, rfl, rfl⟩)
      ((change_gives _ _).bind (pure_gives _ _))))

/-- An execution by the driver is followed by the commit of the row. -/
theorem execute_gives {p : Progress} (hp : p.InStep) (hopen : p.isClosed = false)
    (hfresh : p.isExecuted = false) {native : Bool} {w w' : σ} {notes : List Note}
    (h : i.call.execute.Gives w native w' notes) :
    i.execute.Gives (p, w) (native || !p.projector.columns.isEmpty) (p.executed, w')
      (i.executionEntries (.ok native) notes) := by
  have hdriver : (outside i.executeDriver).Gives (p, w) native (p, w')
      (i.executionEntries (.ok native) notes) :=
    ends_within.mpr ⟨w', i.executeDriver_ends.mpr ⟨notes, h, rfl⟩, rfl⟩
  have hcommit := hdriver.bind (commit_gives (hp.rowClosed.trans hopen)
    (by simp [hp.isCommitted, hfresh]) native w')
  rw [List.append_nil] at hcommit
  refine (world_gives (p, w)).bind ?_
  rw [if_neg (by simp [hopen]), if_neg (by simp [hfresh])]
  exact hcommit

/-- An execution of a call that is in step is refused, or the driver is asked for it, and the row is
committed if the driver executed the call. -/
theorem execute_cases {p : Progress} {v : Progress × σ} {w : σ} {r : Except Fault Bool}
    {k : List (Event ν π)} (hp : p.InStep) (h : i.execute.Ends (p, w) r v k) :
    ((p.isClosed = true ∨ p.isExecuted = true) ∧ (∃ message, r = .error (.tool .driver message)) ∧
      v = (p, w) ∧ k = []) ∨
    (p.isClosed = false ∧ p.isExecuted = false ∧ ∃ result w' notes,
      i.call.execute.Ends w result w' notes ∧ k = i.executionEntries result notes ∧
      r = result.map (· || !p.projector.columns.isEmpty) ∧
      v = (if result.toBool then p.executed else p, w')) := by
  obtain ⟨j, hrest, rfl⟩ := (Gives.ends_bind (world_gives (p, w))).mp h
  dsimp only at hrest
  split at hrest
  case isTrue hclosed =>
    obtain ⟨rfl, rfl, rfl⟩ := Ends.unique hrest (fails_fail.mpr ⟨rfl, rfl, rfl⟩)
    exact Or.inl ⟨Or.inl hclosed, ⟨_, rfl⟩, rfl, rfl⟩
  case isFalse hopen =>
    rw [Bool.not_eq_true] at hopen
    split at hrest
    case isTrue hexecuted =>
      obtain ⟨rfl, rfl, rfl⟩ := Ends.unique hrest (fails_fail.mpr ⟨rfl, rfl, rfl⟩)
      exact Or.inl ⟨Or.inr hexecuted, ⟨_, rfl⟩, rfl, rfl⟩
    case isFalse hfresh =>
      rw [Bool.not_eq_true] at hfresh
      refine Or.inr ⟨hopen, hfresh, ?_⟩
      have hcommit : ∀ native v, (commit native : Action (Progress × σ) (Event ν π) Bool).Gives
          (p, v) (native || !p.projector.columns.isEmpty) (p.executed, v) [] :=
        commit_gives (hp.rowClosed.trans hopen) (by simp [hp.isCommitted, hfresh])
      rcases ends_bind.mp hrest with ⟨fault, rfl, hfails⟩ | ⟨native, u, j₁, j₂, hgives, hdone, rfl⟩
      · obtain ⟨w', hdriver, rfl⟩ := ends_within.mp hfails
        obtain ⟨notes, hexecute, rfl⟩ := i.executeDriver_ends.mp hdriver
        exact ⟨.error fault, w', notes, hexecute, rfl, rfl, rfl⟩
      · obtain ⟨w', hdriver, rfl⟩ := ends_within.mp hgives
        obtain ⟨notes, hexecute, rfl⟩ := i.executeDriver_ends.mp hdriver
        obtain ⟨rfl, rfl, rfl⟩ := Ends.unique hdone (hcommit native w')
        exact ⟨.ok native, w', notes, hexecute, List.append_nil _, rfl, rfl⟩

/-- The ways in which an execution of a call that is in step ends, with the milestones that it
leaves. -/
inductive Executes (p : Progress) : Except Fault Bool → List Milestone → Progress → Prop where
  /-- The call is closed or was executed, and the driver is not asked. -/
  | refused {message : String} : p.isClosed = true ∨ p.isExecuted = true →
      Executes p (.error (.tool .driver message)) [] p
  /-- The driver failed. -/
  | failed {fault : Fault} : p.isClosed = false → p.isExecuted = false →
      Executes p (.error fault) [.executed false] p
  /-- The driver executed the call. -/
  | succeeded {native : Bool} : p.isClosed = false → p.isExecuted = false →
      Executes p (.ok (native || !p.projector.columns.isEmpty)) [.executed true] p.executed

theorem execute_ends {p p' : Progress} {w w' : σ} {r : Except Fault Bool} {k : List (Event ν π)}
    (hp : p.InStep) (h : i.execute.Ends (p, w) r (p', w') k) :
    Executes p r (Event.milestones k) p' := by
  rcases i.execute_cases hp h with
    ⟨hrefused, ⟨message, rfl⟩, hv, rfl⟩ | ⟨hopen, hfresh, result, w₁, notes, -, rfl, rfl, hv⟩
  · cases hv
    exact .refused hrefused
  · rw [milestones_executionEntries]
    cases result with
    | error fault =>
      cases hv
      exact .failed hopen hfresh
    | ok native =>
      cases hv
      exact .succeeded hopen hfresh

/-! ### Closes -/

/-- The ways in which a call is ended, with the milestones that this leaves. -/
inductive Closes (p : Progress) : List Milestone → Progress → Prop where
  /-- It was ended before. -/
  | again : p.isClosed = true → Closes p [] p
  /-- The driver is asked, whatever comes of it. -/
  | first : p.isClosed = false → Closes p [.closed] p.closed

theorem close_ends {p p' : Progress} {w w' : σ} {r : Except Fault Unit} {k : List (Event ν π)}
    (h : i.close.Ends (p, w) r (p', w') k) : Closes p (Event.milestones k) p' := by
  obtain ⟨j, hrest, rfl⟩ := (Gives.ends_bind (world_gives (p, w))).mp h
  split at hrest
  case isTrue hclosed =>
    obtain ⟨rfl, hw, rfl⟩ := Ends.unique hrest (pure_gives _ _)
    cases hw
    exact .again hclosed
  case isFalse hopen =>
    rw [Bool.not_eq_true] at hopen
    obtain ⟨j₂, hdriver, rfl⟩ := (Gives.ends_bind (change_gives _ _)).mp hrest
    obtain ⟨v, hasked, hw⟩ := ends_within.mp hdriver
    cases hw
    obtain ⟨notes, -, rfl⟩ := ends_asked.mp hasked
    simp only [List.nil_append, Event.milestones_append, Event.milestones_notes]
    exact .first hopen

end Invoker

end ProcedureCall
