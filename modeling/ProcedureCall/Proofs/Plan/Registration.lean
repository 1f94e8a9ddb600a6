import ProcedureCall.Plan.Registration
import ProcedureCall.Proofs.Plan.Source

/-!
# How a registration comes about

The ways in which `registerOutputs` ends are the constructors of `Registers`, with everything that
each of them asked on the way: the driver's report was registered, or it was empty and the catalog
declares nothing, or the registration falls back to the catalog (`FallsBack`), where the procedure
may be missing, a request may fail, or all goes well.

## What is proved

* `registerAll_gives`, `registerAll_fails` — places are registered in order up to the first that the
  driver refuses.
* `registerOutputs_gives` — every run of a registration is one of `Registers`.
* `completes_registerOutputs` — a registration always comes to an end.
-/

namespace ProcedureCall

open ProcedureCall.Action

variable {σ ν π : Type} {s : Session σ ν π} {call : DriverCall σ}

/-! ### Places one after another -/

/-- Places with their codes as accepted registrations. -/
def acceptedAll (slots : List (Int × Int)) : List (Int × Int × Bool) :=
  slots.map fun (slot, code) => (slot, code, true)

theorem accepted_acceptedAll (slots : List (Int × Int)) :
    ((acceptedAll slots).filter (·.2.2)).map (·.1) = slots.map (·.1) := by
  rw [List.filter_eq_self.mpr (by simp [acceptedAll])]
  simp [acceptedAll]

theorem registrations_asked (notes : List Note) (slot code : Int) (accepted : Bool) :
    Event.registrations (notes.map (.note : Note → Event ν π) ++ [.registered slot code accepted]) =
      [(slot, code, accepted)] := by
  rw [Event.registrations_append, Event.registrations_eq_nil (by simp [Event.isRegistration])]
  rfl

/-- If all places are accepted, each was attempted once and in order. -/
theorem registerAll_gives {slots : List (Int × Int)} {w w' : σ} {v : Unit} {j : List (Event ν π)}
    (h : (registerAll call slots).Gives w v w' j) : Event.registrations j = acceptedAll slots := by
  induction slots generalizing w j with
  | nil =>
    obtain ⟨-, -, rfl⟩ := gives_pure.mp h
    rfl
  | cons place slots ih =>
    obtain ⟨slot, code⟩ := place
    obtain ⟨_, w₁, j₁, j₂, hfirst, hrest, rfl⟩ := gives_bind.mp h
    obtain ⟨notes, -, rfl⟩ := ends_asked.mp hfirst
    rw [Event.registrations_append, registrations_asked, ih hrest]
    rfl

/-- If a place is refused, those before it were accepted and those after it were not attempted. -/
theorem registerAll_fails {slots : List (Int × Int)} {w w' : σ} {fault : Fault}
    {j : List (Event ν π)} (h : (registerAll call slots).Fails w fault w' j) :
    ∃ before slot code after, slots = before ++ (slot, code) :: after ∧
      Event.registrations j = acceptedAll before ++ [(slot, code, false)] := by
  induction slots generalizing w j with
  | nil => exact absurd h not_fails_pure
  | cons place slots ih =>
    obtain ⟨slot, code⟩ := place
    rcases fails_bind.mp h with hfirst | ⟨_, w₁, j₁, j₂, hfirst, hrest, rfl⟩
    · obtain ⟨notes, -, rfl⟩ := ends_asked.mp hfirst
      exact ⟨[], slot, code, slots, rfl, registrations_asked notes slot code false⟩
    · obtain ⟨notes, -, rfl⟩ := ends_asked.mp hfirst
      obtain ⟨before, slot', code', after, rfl, hj⟩ := ih hrest
      refine ⟨(slot, code) :: before, slot', code', after, rfl, ?_⟩
      rw [Event.registrations_append, registrations_asked, hj]
      rfl

theorem acceptedSlots_of_gives {slots : List (Int × Int)} {w w' : σ} {v : Unit}
    {j : List (Event ν π)} (h : (registerAll call slots).Gives w v w' j) :
    Event.acceptedSlots j = slots.map (·.1) := by
  unfold Event.acceptedSlots
  rw [registerAll_gives h, accepted_acceptedAll]

theorem uninterrupted_registerAll (hregister : ∀ slot code, (call.register slot code).Uninterrupted)
    (slots : List (Int × Int)) :
    (registerAll call slots : Action σ (Event ν π) Unit).Uninterrupted := by
  induction slots with
  | nil => exact (completes_pure ()).uninterrupted
  | cons place slots ih => exact (uninterrupted_asked _ (hregister _ _)).bind fun _ => ih

theorem does_registerAll {P : σ → List (Event ν π) → σ → Prop} (hP : Chains P)
    (hregister : ∀ slot code, Does P (call.askRegister slot code)) (slots : List (Int × Int)) :
    Does P (registerAll call slots) := by
  induction slots with
  | nil => exact does_pure hP ()
  | cons place slots ih => exact (hregister _ _).bind hP fun _ => ih

/-! ### The driver's report -/

theorem map_fst_reportedSlots (report : ReportSource) :
    (reportedSlots report).map (·.1) = report.outputs.map (·.ordinal) := by
  simp [reportedSlots]

theorem length_reportedSlots (report : ReportSource) :
    (reportedSlots report).length = report.outputs.length := by
  simp [reportedSlots]

theorem registerReported_gives {report : ReportSource} {w w' : σ} {registered : Nat}
    {j : List (Event ν π)} (h : (registerReported call report).Gives w registered w' j) :
    report.isAvailable = true ∧ registered = report.outputs.length ∧
      (registerAll call (reportedSlots report)).Gives w () w' j := by
  cases report with
  | unavailable reason => exact absurd h not_gives_fail
  | available items =>
    obtain ⟨_, w₁, j₁, j₂, hall, hlength, rfl⟩ := gives_bind.mp h
    obtain ⟨rfl, rfl, rfl⟩ := gives_pure.mp hlength
    rw [List.append_nil]
    exact ⟨rfl, length_reportedSlots _, hall⟩

theorem registerReported_fails {report : ReportSource} {w w' : σ} {fault : Fault}
    {j : List (Event ν π)} (h : (registerReported call report).Fails w fault w' j) :
    (report.isAvailable = false ∧ w' = w ∧ j = []) ∨
      (report.isAvailable = true ∧
        (registerAll call (reportedSlots report)).Fails w fault w' j) := by
  cases report with
  | unavailable reason => exact Or.inl ⟨rfl, (fails_fail.mp h).2⟩
  | available items =>
    rcases fails_bind.mp h with hall | ⟨_, _, _, _, -, hlength, -⟩
    · exact Or.inr ⟨rfl, hall⟩
    · exact absurd hlength not_fails_pure

theorem uninterrupted_registerReported
    (hregister : ∀ slot code, (call.register slot code).Uninterrupted) (report : ReportSource) :
    (registerReported call report : Action σ (Event ν π) Nat).Uninterrupted := by
  cases report with
  | unavailable reason => exact uninterrupted_fail rfl
  | available items =>
    exact (uninterrupted_registerAll hregister _).bind fun _ => (completes_pure _).uninterrupted

/-! ### The catalog's declaration -/

theorem length_declaredSlots (parameters : List Parameter) :
    (declaredSlots parameters).length = (declaredOutputs parameters).length := by
  simp [declaredSlots, declaredOutputs]

theorem map_fst_declaredSlots (parameters : List Parameter) :
    (declaredSlots parameters).map (·.1) = numbered (declaredOutputs parameters).length := by
  rw [← map_zipIdx_one]
  simp [declaredSlots, declaredOutputs, Function.comp_def]

/-- What the catalog declares is registered from one read of the parameters. -/
theorem registerDeclared_gives {procedure : π} {w w' : σ} {registered : Nat}
    {j : List (Event ν π)} (h : (registerDeclared s call procedure).Gives w registered w' j) :
    ∃ parameters w₁ notes j₂, (s.parameters procedure).Gives w parameters w₁ notes ∧
      (registerAll call (declaredSlots parameters)).Gives w₁ () w' j₂ ∧
      registered = (declaredOutputs parameters).length ∧
      j = (notes.map .note ++ [.parametersAsked procedure]) ++ j₂ := by
  obtain ⟨parameters, w₁, j₁, j₂, hread, hrest, rfl⟩ := gives_bind.mp h
  obtain ⟨notes, hparameters, rfl⟩ := ends_asked.mp hread
  obtain ⟨_, w₂, j₃, j₄, hall, hlength, rfl⟩ := gives_bind.mp hrest
  obtain ⟨rfl, rfl, rfl⟩ := gives_pure.mp hlength
  rw [List.append_nil]
  exact ⟨parameters, w₁, notes, j₃, hparameters, hall, length_declaredSlots _, rfl⟩

theorem uninterrupted_registerDeclared
    (hparameters : ∀ procedure, (s.parameters procedure).Uninterrupted)
    (hregister : ∀ slot code, (call.register slot code).Uninterrupted) (procedure : π) :
    (registerDeclared s call procedure).Uninterrupted :=
  (uninterrupted_asked _ (hparameters procedure)).bind fun _ =>
    (uninterrupted_registerAll hregister _).bind fun _ => (completes_pure _).uninterrupted

/-! ### The ways a registration ends -/

variable (s call)

/-- The registration turns to the catalog: run in `w`, what comes before leaves the world `before`
and the entries `j`, and `error` tells what the driver's side failed with. -/
inductive FallsBack (report : ReportSource) (procedure : Option π) (w : σ) :
    Option String → σ → List (Event ν π) → Prop where
  /-- What the driver reports could not be registered. -/
  | failed {fault : Fault} {before : σ} {j : List (Event ν π)} : fault.isFailure = true →
      (registerReported call report).Fails w fault before j →
      FallsBack report procedure w (some fault.message) before
        (j ++ [.note (.ofLog .debug "driver registration failed" [("error", .text fault.message)])])
  /-- The driver reports no outputs, and the catalog was asked and declares some. -/
  | silent {w₁ before : σ} {j₁ j₂ : List (Event ν π)} :
      (registerReported call report).Gives w 0 w₁ j₁ →
      (s.hasOutputs procedure).Gives w₁ true before j₂ →
      FallsBack report procedure w none before (j₁ ++ j₂)

/-- Run in `w`, the registration ends with a result, a world and entries. -/
inductive Registers (report : ReportSource) (procedure : Option π) (w : σ) :
    Registration → σ → List (Event ν π) → Prop where
  /-- The driver's report was registered. -/
  | reported {registered : Nat} {w' : σ} {j : List (Event ν π)} : 0 < registered →
      (registerReported call report).Gives w registered w' j →
      Registers report procedure w ⟨.driver, registered, none⟩ w' j
  /-- The driver reports no outputs, and the catalog declares none. -/
  | nothing {w₁ w' : σ} {j₁ j₂ : List (Event ν π)} :
      (registerReported call report).Gives w 0 w₁ j₁ →
      (s.hasOutputs procedure).Gives w₁ false w' j₂ →
      Registers report procedure w ⟨.none, 0, none⟩ w' (j₁ ++ j₂)
  /-- The driver reports no outputs, and the catalog could not be asked for any. -/
  | unreadable {w₁ w' : σ} {fault : Fault} {j₁ j₂ : List (Event ν π)} {n : Note} :
      (registerReported call report).Gives w 0 w₁ j₁ →
      (s.hasOutputs procedure).Fails w₁ fault w' j₂ →
      Registers report procedure w ⟨.none, 0, none⟩ w' (j₁ ++ (j₂ ++ [.note n]))
  /-- It turned to the catalog without a procedure. -/
  | missing {error : Option String} {w' : σ} {j : List (Event ν π)} : procedure = none →
      FallsBack s call report procedure w error w' j →
      Registers report procedure w ⟨.failed, 0, error⟩ w' j
  /-- It turned to the catalog, and the read of the parameters failed or a place was refused. -/
  | refused {found : π} {error : Option String} {fault : Fault} {before w' : σ}
      {j₁ j₂ : List (Event ν π)} {n : Note} : procedure = some found →
      FallsBack s call report procedure w error before j₁ →
      (registerDeclared s call found).Fails before fault w' j₂ →
      Registers report procedure w ⟨.failed, 0, some fault.message⟩ w' (j₁ ++ (j₂ ++ [.note n]))
  /-- It turned to the catalog, and what that declares was registered. -/
  | declared {found : π} {registered : Nat} {error : Option String} {before w' : σ}
      {j₁ j₂ : List (Event ν π)} {n : Note} : procedure = some found →
      FallsBack s call report procedure w error before j₁ →
      (registerDeclared s call found).Gives before registered w' j₂ →
      Registers report procedure w ⟨.catalog, registered, error⟩ w' (j₁ ++ (j₂ ++ [.note n]))

variable {s call}

theorem registerFromCatalog_gives {report : ReportSource} {procedure : Option π} {w before w' : σ}
    {error : Option String} {registration : Registration} {j₁ j₂ : List (Event ν π)}
    (hback : FallsBack s call report procedure w error before j₁)
    (h : (registerFromCatalog s call procedure error).Gives before registration w' j₂) :
    Registers s call report procedure w registration w' (j₁ ++ j₂) := by
  cases procedure with
  | none =>
    obtain ⟨rfl, rfl, rfl⟩ := gives_pure.mp h
    rw [List.append_nil]
    exact .missing rfl hback
  | some found =>
    obtain ⟨r, w₁, j₃, j₄, hattempt, hrest, rfl⟩ := gives_bind.mp h
    cases r with
    | error fault =>
      obtain ⟨_, w₂, j₅, j₆, hlog, hpure, rfl⟩ := gives_bind.mp hrest
      obtain ⟨rfl, rfl⟩ := gives_record.mp hlog
      obtain ⟨rfl, rfl, rfl⟩ := gives_pure.mp hpure
      rw [List.append_nil]
      exact .refused rfl hback (gives_attempt_error.mp hattempt).2
    | ok registered =>
      obtain ⟨_, w₂, j₅, j₆, hlog, hpure, rfl⟩ := gives_bind.mp hrest
      obtain ⟨rfl, rfl⟩ := gives_record.mp hlog
      obtain ⟨rfl, rfl, rfl⟩ := gives_pure.mp hpure
      rw [List.append_nil]
      exact .declared rfl hback (gives_attempt_ok.mp hattempt)

/-- Every registration ends in one of these ways. -/
theorem registerOutputs_gives {report : ReportSource} {procedure : Option π} {w w' : σ}
    {registration : Registration} {j : List (Event ν π)}
    (h : (registerOutputs s call report procedure).Gives w registration w' j) :
    Registers s call report procedure w registration w' j := by
  obtain ⟨r, w₁, j₁, j₂, hattempt, hrest, rfl⟩ := gives_bind.mp h
  cases r with
  | error fault =>
    obtain ⟨hfailure, hfails⟩ := gives_attempt_error.mp hattempt
    obtain ⟨_, w₂, j₃, j₄, hlog, hcatalog, rfl⟩ := gives_bind.mp hrest
    obtain ⟨rfl, rfl⟩ := gives_record.mp hlog
    rw [← List.append_assoc]
    exact registerFromCatalog_gives (.failed hfailure hfails) hcatalog
  | ok registered =>
    have hreported := gives_attempt_ok.mp hattempt
    dsimp only at hrest
    split at hrest
    case isTrue hpos =>
      obtain ⟨rfl, rfl, rfl⟩ := gives_pure.mp hrest
      rw [List.append_nil]
      exact .reported hpos hreported
    case isFalse hzero =>
      obtain rfl : registered = 0 := Nat.eq_zero_of_not_pos hzero
      obtain ⟨asked, w₂, j₃, j₄, hasked, hdecided, rfl⟩ := gives_bind.mp hrest
      cases asked with
      | error fault =>
        obtain ⟨_, w₃, j₅, j₆, hlog, hpure, rfl⟩ := gives_bind.mp hdecided
        obtain ⟨rfl, rfl⟩ := gives_record.mp hlog
        obtain ⟨rfl, rfl, rfl⟩ := gives_pure.mp hpure
        rw [List.append_nil]
        exact .unreadable hreported (gives_attempt_error.mp hasked).2
      | ok declares =>
        have houtputs := gives_attempt_ok.mp hasked
        cases declares with
        | false =>
          obtain ⟨rfl, rfl, rfl⟩ := gives_pure.mp hdecided
          rw [List.append_nil]
          exact .nothing hreported houtputs
        | true =>
          rw [← List.append_assoc]
          exact registerFromCatalog_gives (.silent hreported houtputs) hdecided

/-! ### What the driver accepts -/

theorem hasOutputs_gives_true {procedure : Option π} {w w' : σ} {j : List (Event ν π)}
    (h : (s.hasOutputs procedure).Gives w true w' j) :
    ∃ (found : π) (notes : List Note), procedure = some found ∧
      j = notes.map .note ++ [.parametersAsked found] := by
  cases procedure with
  | none => cases (gives_pure.mp h).1
  | some found =>
    obtain ⟨parameters, w₁, j₁, j₂, hread, hany, rfl⟩ := gives_bind.mp h
    obtain ⟨notes, -, rfl⟩ := ends_asked.mp hread
    obtain ⟨-, -, rfl⟩ := gives_pure.mp hany
    exact ⟨found, notes, rfl, List.append_nil _⟩

/-- What the driver accepted before the registration turns to the catalog was accepted before the
catalog is asked. -/
theorem FallsBack.acceptedFirst {report : ReportSource} {procedure : Option π} {w before : σ}
    {error : Option String} {j : List (Event ν π)}
    (h : FallsBack s call report procedure w error before j) {k : List (Event ν π)}
    (hk : Event.acceptedFirst k = []) :
    Event.acceptedFirst (j ++ k) = Event.acceptedSlots j := by
  cases h with
  | @failed fault before j hfailure hfails =>
    have hnone : ∀ e ∈ j ++ [.note (.ofLog .debug "driver registration failed"
        [("error", .text fault.message)])], e.asksParameters = false := by
      refine List.forall_mem_append.mpr ⟨?_, by simp [Event.asksParameters]⟩
      rcases registerReported_fails hfails with ⟨-, -, rfl⟩ | ⟨-, hall⟩
      · simp
      · exact does_registerAll (chains_forall fun e : Event ν π => e.asksParameters = false)
          (fun _ _ => leaves_asked (fun _ => rfl) fun _ => rfl) _ _ _ _ _ hall
    rw [Event.acceptedFirst_append hnone, hk, List.append_nil]
  | silent hreported houtputs =>
    obtain ⟨-, hzero, hall⟩ := registerReported_gives hreported
    have hempty : reportedSlots report = [] := by
      rw [← List.length_eq_zero_iff, length_reportedSlots]
      exact hzero.symm
    rw [hempty] at hall
    obtain ⟨-, -, rfl⟩ := gives_pure.mp hall
    obtain ⟨found, notes, -, rfl⟩ := hasOutputs_gives_true houtputs
    rw [List.nil_append, Event.acceptedFirst_asked, Event.acceptedSlots_append,
      Event.acceptedSlots_notes, Event.acceptedSlots_parametersAsked]
    rfl

/-- If the registration follows the driver, exactly the places of its report were accepted. -/
theorem Registers.acceptedSlots_of_driver {report : ReportSource} {procedure : Option π} {w w' : σ}
    {registration : Registration} {j : List (Event ν π)}
    (h : Registers s call report procedure w registration w' j)
    (hsource : registration.source = .driver) :
    report.isAvailable = true ∧ Event.acceptedSlots j = report.outputs.map (·.ordinal) := by
  cases h with
  | reported _ hreported =>
    obtain ⟨havailable, -, hall⟩ := registerReported_gives hreported
    exact ⟨havailable, by rw [acceptedSlots_of_gives hall, map_fst_reportedSlots]⟩
  | _ => cases hsource

/-- If it follows the catalog, the places 1 to the number registered were accepted after what the
driver had accepted of its own report. -/
theorem Registers.acceptedSlots_of_catalog {report : ReportSource} {procedure : Option π}
    {w w' : σ} {registration : Registration} {j : List (Event ν π)}
    (h : Registers s call report procedure w registration w' j)
    (hsource : registration.source = .catalog) (k : List (Event ν π)) :
    Event.acceptedSlots j = Event.acceptedFirst (j ++ k) ++ numbered registration.registered := by
  cases h with
  | @declared found registered error before w' j₁ j₂ n _ hback hdeclared =>
    obtain ⟨parameters, w₁, notes, j₃, -, hall, rfl, rfl⟩ := registerDeclared_gives hdeclared
    have hfirst := hback.acceptedFirst (Event.acceptedFirst_asked notes found (j₃ ++ [.note n] ++ k))
    simp only [List.append_assoc] at hfirst ⊢
    rw [hfirst]
    simp only [Event.acceptedSlots_append, Event.acceptedSlots_notes, Event.acceptedSlots_note,
      Event.acceptedSlots_parametersAsked, acceptedSlots_of_gives hall, map_fst_declaredSlots,
      List.nil_append, List.append_nil]
  | _ => cases hsource

/-! ### A registration always comes to an end -/

theorem uninterrupted_hasOutputs
    (hparameters : ∀ procedure, (s.parameters procedure).Uninterrupted) (procedure : Option π) :
    (s.hasOutputs procedure).Uninterrupted := by
  cases procedure with
  | none => exact (completes_pure _).uninterrupted
  | some found =>
    exact (uninterrupted_asked _ (hparameters found)).bind fun _ =>
      (completes_pure _).uninterrupted

theorem completes_registerOutputs
    (hparameters : ∀ procedure, (s.parameters procedure).Uninterrupted)
    (hregister : ∀ slot code, (call.register slot code).Uninterrupted) (report : ReportSource)
    (procedure : Option π) : (registerOutputs s call report procedure).Completes := by
  have hcatalog : ∀ error, (registerFromCatalog s call procedure error).Completes := by
    intro error
    cases procedure with
    | none => exact completes_pure _
    | some found =>
      refine (uninterrupted_registerDeclared hparameters hregister
        found).completes_attempt.bind fun r => ?_
      cases r with
      | error fault => exact (completes_record _).bind fun _ => completes_pure _
      | ok registered => exact (completes_record _).bind fun _ => completes_pure _
  refine (uninterrupted_registerReported hregister report).completes_attempt.bind fun r => ?_
  cases r with
  | error fault => exact (completes_record _).bind fun _ => hcatalog _
  | ok registered =>
    dsimp only
    split
    · exact completes_pure _
    · refine (uninterrupted_hasOutputs hparameters procedure).completes_attempt.bind fun asked => ?_
      rcases asked with fault | _ | _
      · exact (completes_record _).bind fun _ => completes_pure _
      · exact completes_pure _
      · exact hcatalog _

/-! ### What a registration does -/

theorem does_registerOutputs {P : σ → List (Event ν π) → σ → Prop} (hP : Quiet P)
    (hparameters : ∀ procedure, Does P (s.askParameters procedure))
    (hregister : ∀ slot code, Does P (call.askRegister slot code)) (report : ReportSource)
    (procedure : Option π) : Does P (registerOutputs s call report procedure) := by
  have hreported : Does P (registerReported call report) := by
    cases report with
    | unavailable reason => exact does_fail hP.toChains _
    | available items =>
      exact (does_registerAll hP.toChains hregister _).bind hP.toChains fun _ =>
        does_pure hP.toChains _
  have hdeclared : ∀ found, Does P (registerDeclared s call found) := fun found =>
    (hparameters found).bind hP.toChains fun _ =>
      (does_registerAll hP.toChains hregister _).bind hP.toChains fun _ => does_pure hP.toChains _
  have hcatalog : ∀ error, Does P (registerFromCatalog s call procedure error) := by
    intro error
    cases procedure with
    | none => exact does_pure hP.toChains _
    | some found =>
      refine (hdeclared found).attempt.bind hP.toChains fun r => ?_
      cases r with
      | error fault => exact (hP.does_remark rfl).bind hP.toChains fun _ => does_pure hP.toChains _
      | ok registered =>
        exact (hP.does_remark rfl).bind hP.toChains fun _ => does_pure hP.toChains _
  have houtputs : Does P (s.hasOutputs procedure) := by
    cases procedure with
    | none => exact does_pure hP.toChains _
    | some found => exact (hparameters found).bind hP.toChains fun _ => does_pure hP.toChains _
  refine hreported.attempt.bind hP.toChains fun r => ?_
  cases r with
  | error fault => exact (hP.does_remark rfl).bind hP.toChains fun _ => hcatalog _
  | ok registered =>
    dsimp only
    split
    · exact does_pure hP.toChains _
    · refine houtputs.attempt.bind hP.toChains fun asked => ?_
      rcases asked with fault | _ | _
      · exact (hP.does_remark rfl).bind hP.toChains fun _ => does_pure hP.toChains _
      · exact does_pure hP.toChains _
      · exact hcatalog _

end ProcedureCall
