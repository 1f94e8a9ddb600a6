import ProcedureCall.Proofs.Plan.Steps

/-!
# Two reads of one catalog

A plan reads the parameters of its procedure for the registration and again for the columns. The two
reads may end differently, and the second may fail after the first did not. `snapshot_agrees_iff`
says exactly when the plan looks as if there had been one read.
-/

namespace ProcedureCall

open ProcedureCall.Action

variable {σ ν π : Type} {s : Session σ ν π} {call : DriverCall σ} {text : Option String}

/-- If a registration follows the catalog, the parameters were read in the world in which it turned
there, and as many places were registered as they had outputs. -/
theorem Registers.exists_read {report : ReportSource} {procedure : Option π} {w w' : σ}
    {registration : Registration} {j : List (Event ν π)}
    (h : Registers s call report procedure w registration w' j)
    (hsource : registration.source = .catalog) :
    ∃ found error before k declared, procedure = some found ∧
      FallsBack s call report procedure w error before k ∧
      ((s.parameters found).run before).result = .ok declared ∧
      registration.registered = (declaredOutputs declared).length := by
  cases h with
  | @declared found registered error before w' j₁ j₂ n hfound hback hdeclared =>
    obtain ⟨parameters, w₁, notes, j₃, hread, -, hregistered, -⟩ :=
      registerDeclared_gives hdeclared
    exact ⟨found, error, before, j₁, parameters, hfound, hback, hread.result, hregistered⟩
  | _ => cases hsource

/-- What the catalog told is as long as one asks for exactly when the read of the parameters gives
that many outputs. -/
theorem CatalogSource.isAvailable_ofRead_and_length_iff {r : Except Fault (List Parameter)}
    {n : Nat} :
    ((CatalogSource.ofRead r).isAvailable = true ∧ (CatalogSource.ofRead r).items.length = n) ↔
      ∃ parameters, r = .ok parameters ∧ (declaredOutputs parameters).length = n := by
  cases r with
  | error fault => simp [CatalogSource.ofRead, Source.isAvailable]
  | ok parameters => simp [CatalogSource.ofRead, Source.isAvailable, Source.items]

/-- **When the two reads agree.** If the outputs of the catalog were registered, there was a read of
the parameters when the registration turned to the catalog, with as many outputs as were
registered. The plan tells of the same number on the catalog's side exactly when the read after the
registration gives parameters too, and as many of them are outputs. -/
theorem snapshot_agrees_iff {w w' : σ} {plan : Plan π} {j : List (Event ν π)}
    (h : (planCall s call text).Gives w plan w' j)
    (hsource : plan.registration.source = .catalog) :
    ∃ (steps : PlanSteps s call text w plan) (procedure : π) (error : Option String) (before : σ)
      (k : List (Event ν π)) (declared : List Parameter),
      plan.procedure = some procedure ∧
      FallsBack s call plan.report plan.procedure steps.reported error before k ∧
      ((s.parameters procedure).run before).result = .ok declared ∧
      plan.registration.registered = (declaredOutputs declared).length ∧
      ((plan.catalog.isAvailable = true ∧
          plan.catalog.items.length = plan.registration.registered) ↔
        ∃ parameters, ((s.parameters procedure).run steps.registered).result = .ok parameters ∧
          (declaredOutputs parameters).length = (declaredOutputs declared).length) := by
  obtain ⟨steps, -, -⟩ := planCall_gives_iff.mp h
  obtain ⟨procedure, error, before, k, declared, hprocedure, hback, hread, hregistered⟩ :=
    steps.registers.exists_read hsource
  refine ⟨steps, procedure, error, before, k, declared, hprocedure, hback, hread, hregistered, ?_⟩
  have hcatalog := steps.catalog
  rw [hprocedure] at hcatalog
  rw [catalogSource_some hcatalog, hregistered]
  exact CatalogSource.isAvailable_ofRead_and_length_iff

/-- A session with one procedure, whose parameters always read the same. -/
def Session.steady (parameters : List Parameter) : Session Unit Unit Unit :=
  { Session.refusing ⟨".", "\"", .upper, false⟩ (.tool .catalog "refused") with
    selected := pure []
    procedure := fun _ _ => pure (some ())
    parameters := fun _ => pure parameters }

/-- If the parameters always read the same, the reads agree. -/
theorem snapshot_agrees_of_steady :
    ∃ (plan : Plan Unit) (w' : Unit) (j : List (Event Unit Unit)),
      (planCall (Session.steady [.numeric "a" 0])
        { DriverCall.refusing (.tool .driver "refused") with register := fun _ _ => pure () }
        (some "CALL p(?)")).Gives () plan w' j ∧
      plan.registration.source = .catalog ∧ plan.catalog.isAvailable = true ∧
      plan.catalog.items.length = plan.registration.registered := by
  have hrun : ((planCall (Session.steady [.numeric "a" 0])
      { DriverCall.refusing (.tool .driver "refused") with register := fun _ _ => pure () }
      (some "CALL p(?)")).run ()).result.toOption.map (fun plan => plan.registration.source) =
        some .catalog := by
    decide +kernel
  obtain ⟨plan, w', hplan, hsource⟩ := exists_gives_of_map_eq_some hrun
  obtain ⟨steps, procedure, error, before, k, declared, -, -, hread, -, hagrees⟩ :=
    snapshot_agrees_iff hplan hsource
  obtain rfl : [.numeric "a" 0] = declared := Except.ok.inj hread
  exact ⟨plan, w', _, hplan, hsource, hagrees.mpr ⟨_, rfl, rfl⟩⟩

/-- If the second read fails, the catalog's output is registered and the catalog told nothing. -/
theorem snapshot_lost :
    ∃ (plan : Plan Rehearsal.Located) (w' : Rehearsal.World)
      (j : List (Event Rehearsal.Located Rehearsal.Located)),
      (planCall (Rehearsal.Catalog.ofProcedure [.numeric "a" 0]
          [none, some (.tool .catalog "gone")]).session
        (Rehearsal.CallScript.call { report := .error (.tool .driver "no metadata") })
        (some "CALL p(?)")).Gives {} plan w' j ∧
      plan.registration.source = .catalog ∧ plan.registration.registered = 1 ∧
      plan.catalog.isAvailable = false := by
  have hrun : ((planCall (Rehearsal.Catalog.ofProcedure [.numeric "a" 0]
        [none, some (.tool .catalog "gone")]).session
      (Rehearsal.CallScript.call { report := .error (.tool .driver "no metadata") })
      (some "CALL p(?)")).run {}).result.toOption.map (fun plan =>
        (plan.registration.source, plan.registration.registered, plan.catalog.isAvailable)) =
          some (.catalog, 1, false) := by
    decide +kernel
  obtain ⟨plan, w', hplan, hvalue⟩ := exists_gives_of_map_eq_some hrun
  exact ⟨plan, w', _, hplan, by simpa using hvalue⟩

end ProcedureCall
