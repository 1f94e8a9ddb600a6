import ProcedureCall.Proofs.Plan.Steps

/-!
# The places that columns are read from

The registration and the reconciliation decide on their own, so a column may be read from a place
that was never registered. `columns_registered_iff` says exactly when that does not happen: the
columns follow the side that the registration followed, or the places of the one side happen to be
among those of the other.
-/

namespace ProcedureCall

open ProcedureCall.Action

variable {σ ν π : Type} {s : Session σ ν π} {call : DriverCall σ} {text : Option String}

/-! ### What a plan registers -/

namespace PlanSteps

variable {w : σ} {plan : Plan π}

/-- Looking up the procedure registers nothing and asks no procedure for its parameters. -/
theorem forall_mem_findEntries (steps : PlanSteps s call text w plan) :
    ∀ e ∈ steps.findEntries, e.isRegistration = false ∧ e.asksParameters = false :=
  Session.does_find (quiet_forall fun _ => ⟨rfl, rfl⟩)
    (leaves_asked (fun _ => ⟨rfl, rfl⟩) fun _ => ⟨rfl, rfl⟩)
    (fun _ _ => leaves_asked (fun _ => ⟨rfl, rfl⟩) fun _ => ⟨rfl, rfl⟩)
    (fun _ _ => leaves_asked (fun _ => ⟨rfl, rfl⟩) fun _ => ⟨rfl, rfl⟩) text _ _ _ _ steps.find

/-- No more does asking the driver. -/
theorem forall_mem_reportEntries (steps : PlanSteps s call text w plan) :
    ∀ e ∈ steps.reportEntries, e.isRegistration = false ∧ e.asksParameters = false :=
  does_reportSource (quiet_forall fun _ => ⟨rfl, rfl⟩)
    (leaves_asked (fun _ => ⟨rfl, rfl⟩) fun _ => ⟨rfl, rfl⟩) _ _ _ _ steps.report

/-- Only the registration registers. -/
theorem acceptedSlots_journal (steps : PlanSteps s call text w plan) :
    Event.acceptedSlots steps.journal = Event.acceptedSlots steps.registrationEntries := by
  have hcatalog : ∀ e ∈ steps.catalogEntries, e.isRegistration = false :=
    does_catalogSource (quiet_forall fun _ => rfl)
      (fun _ => leaves_asked (fun _ => rfl) fun _ => rfl) _ _ _ _ _ steps.catalog
  have hreconciliation : ∀ e ∈ steps.reconciliationEntries, e.isRegistration = false :=
    does_reconcile (quiet_forall fun _ => rfl)
      (fun _ => leaves_asked (fun _ => rfl) fun _ => rfl) _ _ _ _ _ _ steps.reconciliation
  have hclosing : Event.acceptedSlots (plan.closing : List (Event ν π)) = [] := rfl
  rw [journal]
  simp only [Event.acceptedSlots_append, Event.acceptedSlots_note, hclosing, List.nil_append,
    Event.acceptedSlots_eq_nil fun e he => (steps.forall_mem_findEntries e he).1,
    Event.acceptedSlots_eq_nil fun e he => (steps.forall_mem_reportEntries e he).1,
    Event.acceptedSlots_eq_nil hcatalog, Event.acceptedSlots_eq_nil hreconciliation,
    List.append_nil]

/-- Nobody asks for parameters before the registration. -/
theorem acceptedFirst_journal (steps : PlanSteps s call text w plan) :
    ∃ k, Event.acceptedFirst steps.journal =
      Event.acceptedFirst (steps.registrationEntries ++ k) := by
  refine ⟨steps.catalogEntries ++ (steps.reconciliationEntries ++ plan.closing), ?_⟩
  rw [journal, Event.acceptedFirst_append (by simp [Event.asksParameters]),
    Event.acceptedFirst_append fun e he => (steps.forall_mem_findEntries e he).2,
    Event.acceptedFirst_append fun e he => (steps.forall_mem_reportEntries e he).2,
    Event.acceptedSlots_eq_nil fun e he => (steps.forall_mem_findEntries e he).1,
    Event.acceptedSlots_eq_nil fun e he => (steps.forall_mem_reportEntries e he).1,
    Event.acceptedSlots_note, List.nil_append, List.nil_append, List.nil_append]

/-- If the registration follows the driver, exactly the places of its outputs were accepted. -/
theorem acceptedSlots_of_driver (steps : PlanSteps s call text w plan)
    (h : plan.registration.source = .driver) :
    plan.report.isAvailable = true ∧
      Event.acceptedSlots steps.journal = plan.report.outputs.map (·.ordinal) := by
  rw [steps.acceptedSlots_journal]
  exact steps.registers.acceptedSlots_of_driver h

/-- If it follows the catalog, places were accepted from 1 on, after those that the driver accepted
of its own report. -/
theorem acceptedSlots_of_catalog (steps : PlanSteps s call text w plan)
    (h : plan.registration.source = .catalog) :
    Event.acceptedSlots steps.journal =
      Event.acceptedFirst steps.journal ++ numbered plan.registration.registered := by
  obtain ⟨k, hfirst⟩ := steps.acceptedFirst_journal
  rw [steps.acceptedSlots_journal, hfirst]
  exact steps.registers.acceptedSlots_of_catalog h k

/-! ### Columns and registrations -/

/-- The columns are read from registered places if all places of the outcome were accepted. -/
theorem forall_columns_iff (steps : PlanSteps s call text w plan) :
    (∀ column ∈ plan.columns, ∃ code,
        Event.registered column.sourceOrdinal code true ∈ steps.journal) ↔
      ∀ slot ∈ addressed s.dialect plan.catalog plan.report plan.reconciliation.outcome,
        slot ∈ Event.acceptedSlots steps.journal := by
  rw [← steps.reconciles.map_sourceOrdinal, List.forall_mem_map]
  simp only [Event.mem_acceptedSlots]
  rfl

/-- With the driver's places registered, only a disagreement on the number of outputs can lead a
column elsewhere: the columns are then read from 1, 2, 3, …, wherever the driver's outputs are. -/
theorem forall_addressed_iff_of_driver (steps : PlanSteps s call text w plan)
    (h : plan.registration.source = .driver) :
    (∀ slot ∈ addressed s.dialect plan.catalog plan.report plan.reconciliation.outcome,
        slot ∈ Event.acceptedSlots steps.journal) ↔
      (plan.reconciliation.outcome = .countMismatch → ∀ slot : Int, 1 ≤ slot →
        slot ≤ plan.catalog.items.length → ∃ p ∈ plan.report.outputs, p.ordinal = slot) := by
  obtain ⟨havailable, haccepted⟩ := steps.acceptedSlots_of_driver h
  rw [haccepted]
  have hplain : ∀ slot ∈ (plainOutputs s.dialect plan.report).map (·.ordinal),
      slot ∈ plan.report.outputs.map (·.ordinal) := fun slot hslot =>
    (List.filter_sublist.map _).subset hslot
  cases houtcome : plan.reconciliation.outcome with
  | unavailable => simp [addressed]
  | matched => exact ⟨fun _ hmismatch => (by cases hmismatch), fun _ => hplain⟩
  | driverOnly => exact ⟨fun _ hmismatch => (by cases hmismatch), fun _ => hplain⟩
  | catalogOnly =>
    -- the driver's outputs were registered, so the catalog is not alone
    have hunavailable := steps.reconciles.isAvailable_report_of_catalogOnly houtcome
    rw [havailable] at hunavailable
    cases hunavailable
  | countMismatch => simp only [addressed, mem_numbered, List.mem_map, forall_const, and_imp]

/-- With the catalog's places registered, the columns that the catalog counts may be more than were
registered, as it is read again for them; and the columns of the driver's report are read from its
own places, whatever was registered instead of them. -/
theorem forall_addressed_iff_of_catalog (steps : PlanSteps s call text w plan)
    (h : plan.registration.source = .catalog) :
    (∀ slot ∈ addressed s.dialect plan.catalog plan.report plan.reconciliation.outcome,
        slot ∈ Event.acceptedSlots steps.journal) ↔
      (plan.reconciliation.outcome = .catalogOnly ∨ plan.reconciliation.outcome = .countMismatch →
        ∀ slot : Int, plan.registration.registered < slot → slot ≤ plan.catalog.items.length →
          slot ∈ Event.acceptedFirst steps.journal) ∧
      (plan.reconciliation.outcome = .matched ∨ plan.reconciliation.outcome = .driverOnly →
        ∀ p ∈ plan.report.outputs, isCursor s.dialect p = false →
          (1 ≤ p.ordinal ∧ p.ordinal ≤ plan.registration.registered) ∨
            p.ordinal ∈ Event.acceptedFirst steps.journal) := by
  rw [steps.acceptedSlots_of_catalog h]
  have hcounted : (∀ slot ∈ numbered plan.catalog.items.length,
        slot ∈ Event.acceptedFirst steps.journal ++ numbered plan.registration.registered) ↔
      ∀ slot : Int, plan.registration.registered < slot → slot ≤ plan.catalog.items.length →
        slot ∈ Event.acceptedFirst steps.journal := by
    simp only [mem_numbered, List.mem_append]
    constructor
    · intro hall slot hbeyond hslot
      rcases hall slot ⟨by omega, hslot⟩ with hfirst | ⟨-, hregistered⟩
      · exact hfirst
      · omega
    · rintro hall slot ⟨hpos, hslot⟩
      by_cases hregistered : slot ≤ plan.registration.registered
      · exact Or.inr ⟨hpos, hregistered⟩
      · exact Or.inl (hall slot (by omega) hslot)
  have hplain : (∀ slot ∈ (plainOutputs s.dialect plan.report).map (·.ordinal),
        slot ∈ Event.acceptedFirst steps.journal ++ numbered plan.registration.registered) ↔
      ∀ p ∈ plan.report.outputs, isCursor s.dialect p = false →
        (1 ≤ p.ordinal ∧ p.ordinal ≤ plan.registration.registered) ∨
          p.ordinal ∈ Event.acceptedFirst steps.journal := by
    simp only [plainOutputs, List.forall_mem_map, List.mem_filter, and_imp, Bool.not_eq_true',
      List.mem_append, mem_numbered]
    exact forall₃_congr fun p _ _ => or_comm
  cases houtcome : plan.reconciliation.outcome with
  | unavailable => simp [addressed]
  | matched => simpa [addressed] using hplain
  | driverOnly => simpa [addressed] using hplain
  | catalogOnly => simpa [addressed] using hcounted
  | countMismatch => simpa [addressed] using hcounted

end PlanSteps

/-- **When every column is read from a registered place.** If outputs were registered, then every
column addresses a place that the driver accepted exactly when three things hold. The driver's
places were registered and the numbers of outputs disagree: then the driver's outputs take up all
the places that the catalog counts. The catalog's places were registered and its count decides the
columns: then what it declared later beyond those places the driver had accepted before. The
catalog's places were registered and the driver's report decides the columns: then each of its
places is one of those, or the driver had accepted it before it refused another. -/
theorem columns_registered_iff {w w' : σ} {plan : Plan π} {j : List (Event ν π)}
    (h : (planCall s call text).Gives w plan w' j)
    (hsource : plan.registration.source = .driver ∨ plan.registration.source = .catalog) :
    (∀ column ∈ plan.columns, ∃ code, Event.registered column.sourceOrdinal code true ∈ j) ↔
      (plan.registration.source = .driver → plan.reconciliation.outcome = .countMismatch →
        ∀ slot : Int, 1 ≤ slot → slot ≤ plan.catalog.items.length →
          ∃ p ∈ plan.report.outputs, p.ordinal = slot) ∧
      (plan.registration.source = .catalog →
        plan.reconciliation.outcome = .catalogOnly ∨
          plan.reconciliation.outcome = .countMismatch →
        ∀ slot : Int, plan.registration.registered < slot → slot ≤ plan.catalog.items.length →
          slot ∈ Event.acceptedFirst j) ∧
      (plan.registration.source = .catalog →
        plan.reconciliation.outcome = .matched ∨ plan.reconciliation.outcome = .driverOnly →
        ∀ p ∈ plan.report.outputs, isCursor s.dialect p = false →
          (1 ≤ p.ordinal ∧ p.ordinal ≤ plan.registration.registered) ∨
            p.ordinal ∈ Event.acceptedFirst j) := by
  obtain ⟨steps, rfl, rfl⟩ := planCall_gives_iff.mp h
  rw [steps.forall_columns_iff]
  rcases hsource with hdriver | hcatalog
  · rw [steps.forall_addressed_iff_of_driver hdriver]
    simp [hdriver]
  · rw [steps.forall_addressed_iff_of_catalog hcatalog]
    simp [hcatalog]

/-- A driver that reports one output, at place 1. -/
def Rehearsal.CallScript.reportingOne : CallScript :=
  { report := .ok (some [⟨1, .output, 4, none⟩]) }

/-- With one output declared, it is read from the place that was registered. -/
theorem column_registered :
    ∃ (plan : Plan Rehearsal.Located) (w' : Rehearsal.World)
      (j : List (Event Rehearsal.Located Rehearsal.Located)),
      (planCall (Rehearsal.Catalog.ofProcedure [.numeric "a" 0] []).session
        Rehearsal.CallScript.reportingOne.call (some "CALL p(?)")).Gives {} plan w' j ∧
      plan.columns.map (·.sourceOrdinal) = [1] ∧
      ∀ column ∈ plan.columns, ∃ code, Event.registered column.sourceOrdinal code true ∈ j := by
  have hrun : ((planCall (Rehearsal.Catalog.ofProcedure [.numeric "a" 0] []).session
      Rehearsal.CallScript.reportingOne.call (some "CALL p(?)")).run {}).result.toOption.map
        (fun plan => (plan.registration.source, plan.reconciliation.outcome,
          plan.columns.map (·.sourceOrdinal))) = some (.driver, .matched, [1]) := by
    decide +kernel
  obtain ⟨plan, w', hplan, hvalue⟩ := exists_gives_of_map_eq_some hrun
  obtain ⟨hsource, houtcome, hcolumns⟩ : plan.registration.source = .driver ∧
      plan.reconciliation.outcome = .matched ∧ plan.columns.map (·.sourceOrdinal) = [1] := by
    simpa using hvalue
  refine ⟨plan, w', _, hplan, hcolumns, ?_⟩
  refine (columns_registered_iff hplan (Or.inl hsource)).mpr ⟨?_, ?_, ?_⟩
  · intro _ hmismatch
    rw [houtcome] at hmismatch
    cases hmismatch
  · intro hcatalog
    rw [hsource] at hcatalog
    cases hcatalog
  · intro hcatalog
    rw [hsource] at hcatalog
    cases hcatalog

/-- With two outputs declared, the second is read from a place that was not. -/
theorem column_not_registered :
    ∃ (plan : Plan Rehearsal.Located) (w' : Rehearsal.World)
      (j : List (Event Rehearsal.Located Rehearsal.Located)),
      (planCall (Rehearsal.Catalog.ofProcedure [.numeric "a" 0, .numeric "b" 1] []).session
        Rehearsal.CallScript.reportingOne.call (some "CALL p(?)")).Gives {} plan w' j ∧
      plan.registration.source = .driver ∧
      ¬ ∀ column ∈ plan.columns, ∃ code, Event.registered column.sourceOrdinal code true ∈ j := by
  have hrun : ((planCall
      (Rehearsal.Catalog.ofProcedure [.numeric "a" 0, .numeric "b" 1] []).session
      Rehearsal.CallScript.reportingOne.call (some "CALL p(?)")).run {}).result.toOption.map
        (fun plan => (plan.registration.source, plan.columns.map (·.sourceOrdinal))) =
      some (.driver, [1, 2]) := by
    decide +kernel
  have haccepted : Event.acceptedSlots ((planCall
      (Rehearsal.Catalog.ofProcedure [.numeric "a" 0, .numeric "b" 1] []).session
      Rehearsal.CallScript.reportingOne.call (some "CALL p(?)")).run {}).journal = [1] := by
    decide +kernel
  obtain ⟨plan, w', hplan, hvalue⟩ := exists_gives_of_map_eq_some hrun
  obtain ⟨hsource, hcolumns⟩ : plan.registration.source = .driver ∧
      plan.columns.map (·.sourceOrdinal) = [1, 2] := by simpa using hvalue
  refine ⟨plan, w', _, hplan, hsource, fun hall => ?_⟩
  obtain ⟨column, hcolumn, htwo⟩ : ∃ column ∈ plan.columns, column.sourceOrdinal = 2 := by
    rw [← List.mem_map, hcolumns]
    decide
  have hregistered := Event.mem_acceptedSlots.mpr (hall column hcolumn)
  rw [haccepted, htwo] at hregistered
  cases hregistered with
  | tail _ h => cases h

end ProcedureCall
