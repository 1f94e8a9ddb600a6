import ProcedureCall.Plan.Basic
import ProcedureCall.Proofs.Plan.Reconciliation
import ProcedureCall.Proofs.Plan.Registration
import ProcedureCall.Rehearsal.Catalog
import ProcedureCall.Rehearsal.Driver

/-!
# A plan, step by step

Planning a call is five steps: finding the procedure, asking the driver, registering, asking the
catalog, reconciling. `PlanSteps` is a run of them with the worlds between the steps and what each
step left in the journal, and `planCall_gives_iff` says that a plan is given exactly by such a run.
No step lets a failure through, so there is always a plan; `planCall_total` says so and which
failures the plan tells of.
-/

namespace ProcedureCall

open ProcedureCall.Action

variable {σ ν π : Type} {s : Session σ ν π} {call : DriverCall σ} {text : Option String}

variable (s call text) in
/-- A run of the steps of a plan, begun in the world `start`. -/
structure PlanSteps (start : σ) (plan : Plan π) where
  /-- The world after the procedure was looked up. -/
  resolved : σ
  /-- The world after the driver told what it knows. -/
  reported : σ
  /-- The world after the outputs were registered. -/
  registered : σ
  /-- The world after the catalog told what it knows. -/
  snapped : σ
  /-- The world at the end. -/
  last : σ
  /-- What the look-up left. -/
  findEntries : List (Event ν π)
  /-- What asking the driver left. -/
  reportEntries : List (Event ν π)
  /-- What the registration left. -/
  registrationEntries : List (Event ν π)
  /-- What asking the catalog left. -/
  catalogEntries : List (Event ν π)
  /-- What the reconciliation left. -/
  reconciliationEntries : List (Event ν π)
  -- the five steps, each from the world that the one before it left
  text_eq : plan.text = text
  target_eq : plan.target = s.dialect.target? text
  find : (s.find text).Gives start plan.procedure resolved findEntries
  report : (reportSource call).Gives resolved plan.report reported reportEntries
  registration : (registerOutputs s call plan.report plan.procedure).Gives reported
    plan.registration registered registrationEntries
  catalog : (catalogSource s plan.procedure).Gives registered plan.catalog snapped catalogEntries
  reconciliation : (reconcile s plan.catalog plan.report).Gives snapped plan.reconciliation last
    reconciliationEntries

/-- What a plan tells of itself at its end. -/
def Plan.closing (plan : Plan π) : List (Event ν π) :=
  [.note (.spanData "outcome" (.text plan.reconciliation.outcome.text)),
    .note (.spanData "column_count" (.int plan.columns.length)),
    .note (.ofLog .debug "call planned"
      [("target", plan.target.elim .null .text), ("resolved", .bool plan.procedure.isSome),
        ("registration", .text plan.registration.source.text),
        ("outcome", .text plan.reconciliation.outcome.text),
        ("columns", .int plan.columns.length)]),
    .note .spanClosed]

/-- What the whole plan leaves. -/
def PlanSteps.journal {start : σ} {plan : Plan π} (steps : PlanSteps s call text start plan) :
    List (Event ν π) :=
  [.note (.spanOpened "db.call.plan" (briefly (text.getD "")))] ++ (steps.findEntries ++
    (steps.reportEntries ++ (steps.registrationEntries ++ (steps.catalogEntries ++
      (steps.reconciliationEntries ++ plan.closing)))))

/-- A span ends as what happens in it does. -/
theorem ends_spanning {ε α : Type} {enter : Note → ε} {operation description : String}
    {a : Action σ ε α} {w w' : σ} {r : Except Fault α} {j : List ε} :
    (spanning enter operation description a).Ends w r w' j ↔
      ∃ k, a.Ends w r w' k ∧
        j = [enter (.spanOpened operation description)] ++ (k ++ [enter .spanClosed]) := by
  constructor
  · intro h
    obtain ⟨j₂, hrest, rfl⟩ := (Gives.ends_bind (record_gives _ w)).mp h
    obtain ⟨first, w₁, k, later, j₃, ha, hclosed, rfl, rfl⟩ := ends_ensuring.mp hrest
    obtain ⟨rfl, rfl, rfl⟩ := Ends.unique hclosed (record_gives _ w₁)
    exact ⟨k, ha, rfl⟩
  · rintro ⟨k, ha, rfl⟩
    refine (Gives.ends_bind (record_gives _ w)).mpr ⟨_, ?_, rfl⟩
    exact ends_ensuring.mpr ⟨r, w', k, _, _, ha, record_gives _ w', rfl, rfl⟩

theorem gives_spanning {ε α : Type} {enter : Note → ε} {operation description : String}
    {a : Action σ ε α} {w w' : σ} {value : α} {j : List ε} :
    (spanning enter operation description a).Gives w value w' j ↔
      ∃ k, a.Gives w value w' k ∧
        j = [enter (.spanOpened operation description)] ++ (k ++ [enter .spanClosed]) :=
  ends_spanning

/-- Spans run alike if what happens in them does. -/
theorem run_spanning_congr {ε α : Type} {enter : Note → ε} {operation description : String}
    {a a' : Action σ ε α} {w : σ} (h : a.run w = a'.run w) :
    (spanning enter operation description a).run w =
      (spanning enter operation description a').run w := by
  refine run_eq_of_ends fun r w' j hends => ?_
  obtain ⟨k, ha, rfl⟩ := ends_spanning.mp hends
  exact ends_spanning.mpr ⟨k, h.symm.trans ha, rfl⟩

/-- A span does what happens in it, between its two entries. -/
theorem does_spanning {ε α : Type} {P : σ → List ε → σ → Prop} {enter : Note → ε}
    {operation description : String} {a : Action σ ε α} (hP : Chains P)
    (hopened : ∀ w, P w [enter (.spanOpened operation description)] w)
    (hclosed : ∀ w, P w [enter .spanClosed] w) (ha : Does P a) :
    Does P (spanning enter operation description a) :=
  (does_record hopened).bind hP fun _ => ha.ensuring hP (does_record hclosed)

/-- Three entries and then a value. -/
theorem gives_recorded {ε α : Type} {a b c : ε} {value v : α} {w w' : σ} {j : List ε} :
    (Action.record a >>= fun _ => Action.record b >>= fun _ => Action.record c >>= fun _ =>
        (pure value : Action σ ε α)).Gives w v w' j ↔ v = value ∧ w' = w ∧ j = [a, b, c] := by
  constructor
  · intro h
    obtain ⟨_, w₁, j₁, k₁, ha, h₁, rfl⟩ := gives_bind.mp h
    obtain ⟨_, w₂, j₂, k₂, hb, h₂, rfl⟩ := gives_bind.mp h₁
    obtain ⟨_, w₃, j₃, k₃, hc, hpure, rfl⟩ := gives_bind.mp h₂
    obtain ⟨rfl, rfl⟩ := gives_record.mp ha
    obtain ⟨rfl, rfl⟩ := gives_record.mp hb
    obtain ⟨rfl, rfl⟩ := gives_record.mp hc
    obtain ⟨rfl, rfl, rfl⟩ := gives_pure.mp hpure
    exact ⟨rfl, rfl, rfl⟩
  · rintro ⟨rfl, rfl, rfl⟩
    refine gives_bind.mpr ⟨(), _, _, [b, c], gives_record.mpr ⟨rfl, rfl⟩, ?_, rfl⟩
    refine gives_bind.mpr ⟨(), _, _, [c], gives_record.mpr ⟨rfl, rfl⟩, ?_, rfl⟩
    exact gives_bind.mpr ⟨(), _, _, [], gives_record.mpr ⟨rfl, rfl⟩,
      gives_pure.mpr ⟨rfl, rfl, rfl⟩, rfl⟩

variable (s call text) in
/-- Plans a call after the procedure was looked up. -/
def planWith (procedure : Option π) : Action σ (Event ν π) (Plan π) := do
  let report ← reportSource call
  let registration ← registerOutputs s call report procedure
  let catalog ← catalogSource s procedure
  let reconciliation ← reconcile s catalog report
  let columns : Value := .int reconciliation.columns.length
  let outcome : Value := .text reconciliation.outcome.text
  Action.record (.note (.spanData "outcome" outcome))
  Action.record (.note (.spanData "column_count" columns))
  Session.debug "call planned"
    [("target", (s.dialect.target? text).elim .null .text),
      ("resolved", .bool procedure.isSome), ("registration", .text registration.source.text),
      ("outcome", outcome), ("columns", columns)]
  pure { text, target := s.dialect.target? text, procedure, catalog, report, registration,
         reconciliation }

/-- A plan finds the procedure and goes on with what it found. -/
theorem planCall_eq : planCall s call text =
    spanning .note "db.call.plan" (briefly (text.getD ""))
      (s.find text >>= planWith s call text) := by
  unfold planCall Session.find planWith
  cases s.dialect.target? text <;> rfl

/-- A plan is given by a run of its steps, and by nothing else. -/
theorem planCall_gives_iff {w w' : σ} {plan : Plan π} {j : List (Event ν π)} :
    (planCall s call text).Gives w plan w' j ↔
      ∃ steps : PlanSteps s call text w plan, w' = steps.last ∧ j = steps.journal := by
  rw [planCall_eq, gives_spanning]
  constructor
  · rintro ⟨k, h, rfl⟩
    obtain ⟨procedure, w₁, j₁, k₁, hfind, h₁, rfl⟩ := gives_bind.mp h
    obtain ⟨report, w₂, j₂, k₂, hreport, h₂, rfl⟩ := gives_bind.mp h₁
    obtain ⟨registration, w₃, j₃, k₃, hregistration, h₃, rfl⟩ := gives_bind.mp h₂
    obtain ⟨catalog, w₄, j₄, k₄, hcatalog, h₄, rfl⟩ := gives_bind.mp h₃
    obtain ⟨reconciliation, w₅, j₅, k₅, hreconciliation, h₅, rfl⟩ := gives_bind.mp h₄
    obtain ⟨rfl, rfl, rfl⟩ := gives_recorded.mp h₅
    refine ⟨⟨_, _, _, _, _, _, _, _, _, _, rfl, rfl, hfind, hreport, hregistration, hcatalog,
      hreconciliation⟩, rfl, ?_⟩
    simp [PlanSteps.journal, Plan.closing, Plan.columns]
  · rintro ⟨steps, rfl, rfl⟩
    refine ⟨steps.findEntries ++ (steps.reportEntries ++ (steps.registrationEntries ++
      (steps.catalogEntries ++ (steps.reconciliationEntries ++ plan.closing.dropLast)))), ?_, ?_⟩
    · refine gives_bind.mpr ⟨_, _, _, _, steps.find, ?_, rfl⟩
      refine gives_bind.mpr ⟨_, _, _, _, steps.report, ?_, rfl⟩
      refine gives_bind.mpr ⟨_, _, _, _, steps.registration, ?_, rfl⟩
      refine gives_bind.mpr ⟨_, _, _, _, steps.catalog, ?_, rfl⟩
      refine gives_bind.mpr ⟨_, _, _, _, steps.reconciliation, ?_, rfl⟩
      refine gives_recorded.mpr ⟨?_, rfl, ?_⟩
      · rw [← steps.target_eq, ← steps.text_eq]
      · rw [← steps.target_eq]
        rfl
    · simp [PlanSteps.journal, Plan.closing]

/-! ### What a plan tells of failures -/

namespace PlanSteps

variable {w : σ} {plan : Plan π}

theorem procedure_eq_none_of_no_target (steps : PlanSteps s call text w plan)
    (h : s.dialect.target? text = none) : plan.procedure = none := by
  refine Option.eq_none_iff_forall_ne_some.mpr fun procedure hfound => ?_
  obtain ⟨name, htarget, -⟩ := (Session.find_eq_some_iff steps.find).mp hfound
  rw [h] at htarget
  cases htarget

theorem procedure_eq_none_of_lookUpFails (steps : PlanSteps s call text w plan) {name : String}
    {fault : Fault} (hname : s.dialect.target? text = some name)
    (h : s.LookUpFails (s.dialect.segments name) w fault) : plan.procedure = none := by
  refine Option.eq_none_iff_forall_ne_some.mpr fun procedure hfound => ?_
  obtain ⟨other, htarget, hok⟩ := (Session.find_eq_some_iff steps.find).mp hfound
  obtain rfl : name = other := Option.some.inj (hname.symm.trans htarget)
  obtain ⟨w', j, hfails⟩ := Session.lookUp_fails_iff.mpr h
  cases hok.symm.trans hfails.result

/-- The catalog told nothing exactly when there was no procedure or the read of its parameters
after the registration failed. -/
theorem isAvailable_catalog (steps : PlanSteps s call text w plan) :
    plan.catalog.isAvailable = false ↔ plan.procedure = none ∨
      ∃ procedure fault, plan.procedure = some procedure ∧
        ((s.parameters procedure).run steps.registered).result = .error fault :=
  isAvailable_catalogSource steps.catalog

/-- The driver told nothing exactly when asking it failed or it knows nothing. -/
theorem isAvailable_report (steps : PlanSteps s call text w plan) :
    plan.report.isAvailable = false ↔
      (∃ fault, (call.report.run steps.resolved).result = .error fault) ∨
        (call.report.run steps.resolved).result = .ok none := by
  rw [reportSource_gives steps.report]
  exact ReportSource.isAvailable_ofResult _

theorem reconciles (steps : PlanSteps s call text w plan) :
    Reconciles s plan.catalog plan.report steps.snapped plan.reconciliation :=
  reconcile_gives steps.reconciliation

theorem registers (steps : PlanSteps s call text w plan) :
    Registers s call plan.report plan.procedure steps.reported plan.registration steps.registered
      steps.registrationEntries :=
  registerOutputs_gives steps.registration

end PlanSteps

/-! ### There is always a plan -/

theorem completes_planCall (hs : s.Uninterrupted) (hreport : call.report.Uninterrupted)
    (hregister : ∀ slot code, (call.register slot code).Uninterrupted) (text : Option String) :
    (planCall s call text).Completes := by
  rw [planCall_eq, spanning]
  refine (completes_record _).bind fun _ => Completes.ensuring ?_ (completes_record _)
  refine (hs.completes_find text).bind fun procedure => ?_
  refine (completes_reportSource hreport).bind fun report => ?_
  refine (completes_registerOutputs hs.parameters hregister report procedure).bind
    fun registration => ?_
  refine (completes_catalogSource hs procedure).bind fun catalog => ?_
  refine (completes_reconcile hs.localType catalog report).bind fun reconciliation => ?_
  exact (completes_record _).bind fun _ => (completes_record _).bind fun _ =>
    (completes_record _).bind fun _ => completes_pure _

/-- **Planning never fails.** Whatever request fails, and at whichever of its uses, there is a plan,
and the plan tells of the failures: without a name, or after a failed look-up, there is no
procedure; the catalog told nothing exactly when there is no procedure or its parameters could not
be read after the registration; the driver told nothing exactly when asking it failed or it knows
nothing; and the outcome is that neither told anything exactly when it is so, without columns. -/
theorem planCall_total (hs : s.Uninterrupted) (hreport : call.report.Uninterrupted)
    (hregister : ∀ slot code, (call.register slot code).Uninterrupted) (text : Option String)
    (w : σ) :
    ∃ (plan : Plan π) (steps : PlanSteps s call text w plan),
      (planCall s call text).Gives w plan steps.last steps.journal ∧
      (s.dialect.target? text = none → plan.procedure = none) ∧
      (∀ name fault, s.dialect.target? text = some name →
        s.LookUpFails (s.dialect.segments name) w fault → plan.procedure = none) ∧
      (∀ procedure, plan.procedure = some procedure ↔
        ∃ name, s.dialect.target? text = some name ∧
          ((s.lookUp (s.dialect.segments name)).run w).result = .ok (some procedure)) ∧
      (plan.catalog.isAvailable = false ↔ plan.procedure = none ∨
        ∃ procedure fault, plan.procedure = some procedure ∧
          ((s.parameters procedure).run steps.registered).result = .error fault) ∧
      (plan.report.isAvailable = false ↔
        (∃ fault, (call.report.run steps.resolved).result = .error fault) ∨
          (call.report.run steps.resolved).result = .ok none) ∧
      (plan.reconciliation.outcome = .unavailable ↔
        plan.catalog.isAvailable = false ∧ plan.report.isAvailable = false) ∧
      (plan.reconciliation.outcome = .unavailable → plan.columns = []) := by
  obtain ⟨plan, w', j, hplan⟩ := completes_planCall hs hreport hregister text w
  obtain ⟨steps, rfl, rfl⟩ := planCall_gives_iff.mp hplan
  refine ⟨plan, steps, hplan, ?_, ?_, ?_, ?_, ?_, ?_, ?_⟩
  · exact steps.procedure_eq_none_of_no_target
  · exact fun name fault => steps.procedure_eq_none_of_lookUpFails
  · exact fun procedure => Session.find_eq_some_iff steps.find
  · exact steps.isAvailable_catalog
  · exact steps.isAvailable_report
  · exact steps.reconciles.outcome_eq_unavailable_iff
  · exact steps.reconciles.columns_eq_nil

/-- A call in which every request fails with one fault. -/
def DriverCall.refusing (fault : Fault) : DriverCall σ where
  report := Action.fail fault
  register _ _ := Action.fail fault
  bind _ _ := Action.fail fault
  bindNull _ _ := Action.fail fault
  read _ := Action.fail fault
  wasNull := Action.fail fault
  execute := Action.fail fault
  resultSet := Action.fail fault
  moreResults := Action.fail fault
  close := Action.fail fault

/-- There is a plan even if every request fails, and it is an empty one. -/
theorem planCall_refusing :
    ∃ (plan : Plan Unit) (w' : Unit) (j : List (Event Unit Unit)),
      (planCall (Session.refusing ⟨".", "\"", .upper, false⟩ (.tool .catalog "refused"))
        (DriverCall.refusing (.tool .driver "refused")) (some "CALL p(?)")).Gives () plan w' j ∧
      plan.procedure = none ∧ plan.reconciliation.outcome = .unavailable ∧ plan.columns = [] := by
  obtain ⟨plan, steps, hplan, -, hlookUp, -, hcatalog, hreport, houtcome, hcolumns⟩ :=
    @planCall_total Unit Unit Unit
      (Session.refusing ⟨".", "\"", .upper, false⟩ (.tool .catalog "refused"))
      (DriverCall.refusing (.tool .driver "refused"))
      (Session.uninterrupted_refusing rfl) (uninterrupted_fail rfl)
      (fun _ _ => uninterrupted_fail rfl) (some "CALL p(?)") ()
  have htarget : Dialect.target? ⟨".", "\"", .upper, false⟩ (some "CALL p(?)") = some "p" := by
    decide +kernel
  have hprocedure : plan.procedure = none :=
    hlookUp "p" (.tool .catalog "refused") htarget (.selection rfl (by decide +kernel) rfl)
  have hunavailable : plan.reconciliation.outcome = .unavailable :=
    houtcome.mpr ⟨hcatalog.mpr (Or.inl hprocedure), hreport.mpr (Or.inl ⟨_, rfl⟩)⟩
  exact ⟨plan, _, _, hplan, hprocedure, hunavailable, hcolumns hunavailable⟩

/-! ### What planning does -/

variable (s call) in
/-- What the requests of planning do. -/
structure PlanningDoes (P : σ → List (Event ν π) → σ → Prop) : Prop where
  /-- Asking for the selection. -/
  selected : Does P s.askSelected
  /-- Asking for a child. -/
  child : ∀ container name, Does P (s.askChild container name)
  /-- Asking for a procedure. -/
  procedure : ∀ container name, Does P (s.askProcedure container name)
  /-- Asking for parameters. -/
  parameters : ∀ procedure, Does P (s.askParameters procedure)
  /-- Asking for a type. -/
  localType : ∀ name, Does P (s.askLocalType name)
  /-- Asking the driver. -/
  report : Does P call.askReport
  /-- Registering an output. -/
  register : ∀ slot code, Does P (call.askRegister slot code)

/-- What its requests do, planning does. -/
theorem does_planCall {P : σ → List (Event ν π) → σ → Prop} (hP : Quiet P)
    (h : PlanningDoes s call P) (text : Option String) : Does P (planCall s call text) := by
  have hC := hP.toChains
  rw [planCall_eq]
  refine does_spanning hC (fun w => hP.remark w _ rfl) (fun w => hP.remark w _ rfl) ?_
  refine (Session.does_find hP h.selected h.child h.procedure text).bind hC fun procedure => ?_
  refine (does_reportSource hP h.report).bind hC fun report => ?_
  refine (does_registerOutputs hP h.parameters h.register report procedure).bind hC
    fun registration => ?_
  refine (does_catalogSource hP h.parameters procedure).bind hC fun catalog => ?_
  refine (does_reconcile hP h.localType catalog report).bind hC fun reconciliation => ?_
  exact (hP.does_remark rfl).bind hC fun _ => (hP.does_remark rfl).bind hC fun _ =>
    (hP.does_remark rfl).bind hC fun _ => does_pure hC _

/-! ### A catalog with one procedure -/

/-- The catalog of a rehearsal that holds the procedure `P` and nothing else. -/
def Rehearsal.Catalog.ofProcedure (parameters : List Parameter) (faults : FaultScript) :
    Catalog where
  dialect := ⟨".", "\"", .upper, false⟩
  root := some (.container "" true [.procedure "P" parameters faults] none none)
  types := {}
  typeFaults := []
  selected := []
  selectionFault := none

/-- An output parameter that holds a number. -/
def Parameter.numeric (name : String) (position : Int) : Parameter :=
  ⟨name, ⟨"INTEGER", 4, .numeric⟩, .output, position⟩

end ProcedureCall
