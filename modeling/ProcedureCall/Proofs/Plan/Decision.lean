import ProcedureCall.Proofs.Plan.Snapshot

/-!
# Which registration a call ends with

What a registration decides, told by what the driver and the catalog do and not by how it is
programmed. `Attempts` takes places one after the other, up to the first that the driver refuses.
`DeclaresNothing` and `TurnsToCatalog` are the two ways on where the driver's own report does not
do, `FollowsCatalog` is what becomes of the second, and `Decides` has one rule for each registration
that there can be. All of them tell every request that is made on the way, in its order.

## What is proved

* `asks_registerAll` — registering places is to attempt them.
* `registerOutputs_decides` — a registration ends exactly as `Decides` tells, and nothing but an
  interrupt keeps it from its end.
-/

namespace ProcedureCall

open ProcedureCall.Action

variable {σ ν π : Type} {s : Session σ ν π} {call : DriverCall σ}

/-! ### Attempts -/

/-- Places with their codes are registered one after the other, up to the first that the driver
refuses. -/
inductive Attempts (call : DriverCall σ) :
    List (Int × Int) → σ → Except Fault Unit → σ → List (Event ν π) → Prop where
  /-- No place is left. -/
  | done (w : σ) : Attempts call [] w (.ok ()) w []
  /-- The driver refuses the first place, and those after it are not attempted. -/
  | refused {slot code : Int} {rest : List (Int × Int)} {w w' : σ} {fault : Fault}
      {notes : List Note} : (call.register slot code).Fails w fault w' notes →
      Attempts call ((slot, code) :: rest) w (.error fault) w' [.registered slot code false]
  /-- The driver accepts the first place, and the others follow. -/
  | accepted {slot code : Int} {rest : List (Int × Int)} {w w₁ w' : σ} {r : Except Fault Unit}
      {notes : List Note} {requests : List (Event ν π)} :
      (call.register slot code).Gives w () w₁ notes → Attempts call rest w₁ r w' requests →
      Attempts call ((slot, code) :: rest) w r w' (.registered slot code true :: requests)

theorem Attempts.isRegistration {slots : List (Int × Int)} {w w' : σ} {r : Except Fault Unit}
    {requests : List (Event ν π)} (h : Attempts call slots w r w' requests) :
    ∀ e ∈ requests, e.isRegistration = true := by
  induction h with
  | done w => simp
  | refused _ => simp [Event.isRegistration]
  | accepted _ _ ih => simpa [Event.isRegistration] using ih

theorem asks_askRegister {slot code : Int} {w w' : σ} {r : Except Fault Unit}
    {requests : List (Event ν π)} :
    (call.askRegister slot code).Asks w r w' requests ↔
      ∃ notes, (call.register slot code).Ends w r w' notes ∧
        requests = [.registered slot code r.toBool] :=
  asks_asked fun _ => rfl

theorem asks_registerAll {slots : List (Int × Int)} {w w' : σ} {r : Except Fault Unit}
    {requests : List (Event ν π)} :
    (registerAll call slots).Asks w r w' requests ↔ Attempts call slots w r w' requests := by
  induction slots generalizing w requests with
  | nil =>
    rw [registerAll, asks_pure]
    constructor
    · rintro ⟨rfl, rfl, rfl⟩
      exact .done w'
    · intro h
      cases h
      exact ⟨rfl, rfl, rfl⟩
  | cons place slots ih =>
    obtain ⟨slot, code⟩ := place
    rw [registerAll, asks_bind]
    constructor
    · rintro (⟨fault, rfl, hfirst⟩ | ⟨_, w₁, q₁, q₂, hfirst, hrest, rfl⟩)
      · obtain ⟨notes, hrefused, rfl⟩ := asks_askRegister.mp hfirst
        exact .refused hrefused
      · obtain ⟨notes, haccepted, rfl⟩ := asks_askRegister.mp hfirst
        exact .accepted haccepted (ih.mp hrest)
    · intro h
      cases h with
      | refused hrefused => exact Or.inl ⟨_, rfl, asks_askRegister.mpr ⟨_, hrefused, rfl⟩⟩
      | accepted haccepted hrest =>
        exact Or.inr ⟨(), _, _, _, asks_askRegister.mpr ⟨_, haccepted, rfl⟩, ih.mpr hrest, rfl⟩

/-! ### The driver's report -/

/-- What a driver that told nothing fails with. -/
def untold (reason : String) : Fault :=
  .tool .driver (if reason.isEmpty then "driver parameter metadata unavailable" else reason)

theorem asks_registerReported {report : ReportSource} {w w' : σ} {r : Except Fault Nat}
    {requests : List (Event ν π)} :
    (registerReported call report).Asks w r w' requests ↔
      (∃ reason, report = .unavailable reason ∧ r = .error (untold reason) ∧ w' = w ∧
        requests = []) ∨
      (report.isAvailable = true ∧
        ∃ result, Attempts call (reportedSlots report) w result w' requests ∧
          r = result.map fun _ => report.outputs.length) := by
  cases report with
  | unavailable reason =>
    rw [registerReported, asks_fail]
    simp [Source.isAvailable, untold]
  | available items =>
    rw [registerReported, asks_bind_pure, length_reportedSlots]
    simp only [asks_registerAll, Source.isAvailable, reduceCtorEq, false_and, exists_false,
      false_or, true_and]

theorem reportedSlots_eq_nil_iff {report : ReportSource} :
    reportedSlots report = [] ↔ report.outputs = [] := by
  simp [reportedSlots]

/-! ### The catalog's declaration -/

/-- Outputs as places 1, 2, 3, … with their codes. -/
def outputSlots (outputs : List Parameter) : List (Int × Int) :=
  (numbered outputs.length).zip (outputs.map (·.dataType.code))

theorem declaredSlots_eq_outputSlots (parameters : List Parameter) :
    declaredSlots parameters = outputSlots (declaredOutputs parameters) := by
  refine List.zip_of_prod (map_fst_declaredSlots parameters) ?_
  have hcodes : ∀ outputs : List Parameter,
      (outputs.zipIdx 1).map (fun x => x.1.dataType.code) = outputs.map (·.dataType.code) := by
    intro outputs
    calc (outputs.zipIdx 1).map (fun x => x.1.dataType.code)
        = ((outputs.zipIdx 1).map Prod.fst).map (·.dataType.code) := by rw [List.map_map]; rfl
      _ = outputs.map (·.dataType.code) := by rw [List.zipIdx_map_fst]
  rw [declaredSlots, List.map_map]
  exact hcodes _

theorem asks_askParameters {procedure : π} {w w' : σ} {r : Except Fault (List Parameter)}
    {requests : List (Event ν π)} :
    (s.askParameters procedure).Asks w r w' requests ↔
      ∃ notes, (s.parameters procedure).Ends w r w' notes ∧
        requests = [.parametersAsked procedure] :=
  asks_asked fun _ => rfl

theorem any_isOutput (parameters : List Parameter) :
    (parameters.any fun p => p.direction.isOutput) = decide (declaredOutputs parameters ≠ []) := by
  rw [Bool.eq_iff_iff]
  simp [declaredOutputs]

theorem asks_hasOutputs {procedure : π} {w w' : σ} {r : Except Fault Bool}
    {requests : List (Event ν π)} :
    (s.hasOutputs (some procedure)).Asks w r w' requests ↔
      ∃ result notes, (s.parameters procedure).Ends w result w' notes ∧
        r = result.map (fun parameters => decide (declaredOutputs parameters ≠ [])) ∧
        requests = [.parametersAsked procedure] := by
  rw [Session.hasOutputs, asks_bind_pure]
  simp only [asks_askParameters, any_isOutput]
  constructor
  · rintro ⟨result, ⟨notes, hread, rfl⟩, rfl⟩
    exact ⟨result, notes, hread, rfl, rfl⟩
  · rintro ⟨result, notes, hread, rfl, rfl⟩
    exact ⟨result, ⟨notes, hread, rfl⟩, rfl⟩

theorem asks_registerDeclared {procedure : π} {w w' : σ} {r : Except Fault Nat}
    {requests : List (Event ν π)} :
    (registerDeclared s call procedure).Asks w r w' requests ↔
      (∃ fault notes, r = .error fault ∧ (s.parameters procedure).Fails w fault w' notes ∧
        requests = [.parametersAsked procedure]) ∨
      ∃ parameters w₁ notes result rest, (s.parameters procedure).Gives w parameters w₁ notes ∧
        Attempts call (outputSlots (declaredOutputs parameters)) w₁ result w' rest ∧
        r = result.map (fun _ => (declaredOutputs parameters).length) ∧
        requests = .parametersAsked procedure :: rest := by
  have hslots : ∀ (parameters : List Parameter) (w₁ : σ) (rest : List (Event ν π)),
      (registerAll call (declaredSlots parameters) >>= fun _ =>
        pure (declaredSlots parameters).length).Asks w₁ r w' rest ↔
      ∃ result, Attempts call (outputSlots (declaredOutputs parameters)) w₁ result w' rest ∧
        r = result.map fun _ => (declaredOutputs parameters).length := by
    intro parameters w₁ rest
    rw [asks_bind_pure, length_declaredSlots, declaredSlots_eq_outputSlots]
    simp only [asks_registerAll]
  rw [registerDeclared, asks_bind]
  constructor
  · rintro (⟨fault, rfl, hread⟩ | ⟨parameters, w₁, q₁, rest, hread, hall, rfl⟩)
    · obtain ⟨notes, hfails, rfl⟩ := asks_askParameters.mp hread
      exact Or.inl ⟨fault, notes, rfl, hfails, rfl⟩
    · obtain ⟨notes, hgives, rfl⟩ := asks_askParameters.mp hread
      obtain ⟨result, hattempts, rfl⟩ := (hslots parameters w₁ rest).mp hall
      exact Or.inr ⟨parameters, w₁, notes, result, rest, hgives, hattempts, rfl, rfl⟩
  · rintro (⟨fault, notes, rfl, hfails, rfl⟩ |
      ⟨parameters, w₁, notes, result, rest, hgives, hattempts, rfl, rfl⟩)
    · exact Or.inl ⟨fault, rfl, asks_askParameters.mpr ⟨notes, hfails, rfl⟩⟩
    · exact Or.inr ⟨parameters, w₁, _, rest, asks_askParameters.mpr ⟨notes, hgives, rfl⟩,
        (hslots parameters w₁ rest).mpr ⟨result, hattempts, rfl⟩, rfl⟩

/-! ### Decisions -/

variable (s call)

/-- There is no procedure that could be read and declares an output. -/
inductive DeclaresNothing : Option π → σ → σ → List (Event ν π) → Prop where
  /-- There is no procedure. -/
  | missing (w : σ) : DeclaresNothing none w w []
  /-- The parameters of the procedure cannot be read. -/
  | unread {found : π} {fault : Fault} {w w' : σ} {notes : List Note} : fault.isFailure = true →
      (s.parameters found).Fails w fault w' notes →
      DeclaresNothing (some found) w w' [.parametersAsked found]
  /-- None of the parameters is an output. -/
  | silent {found : π} {parameters : List Parameter} {w w' : σ} {notes : List Note} :
      (s.parameters found).Gives w parameters w' notes → declaredOutputs parameters = [] →
      DeclaresNothing (some found) w w' [.parametersAsked found]

/-- The driver's word does not do, and the catalog is to be followed; `error` is what the driver
failed with. -/
inductive TurnsToCatalog (report : ReportSource) (procedure : Option π) (w : σ) :
    (error : Option String) → σ → List (Event ν π) → Prop where
  /-- The driver told nothing. -/
  | untold {reason : String} : report = .unavailable reason →
      TurnsToCatalog report procedure w (some (untold reason).message) w []
  /-- The driver refuses one of its own outputs. -/
  | refused {fault : Fault} {w₁ : σ} {requests : List (Event ν π)} : report.isAvailable = true →
      fault.isFailure = true →
      Attempts call (reportedSlots report) w (.error fault) w₁ requests →
      TurnsToCatalog report procedure w (some fault.message) w₁ requests
  /-- The driver told of no output, but the procedure declares one. -/
  | declared {found : π} {parameters : List Parameter} {w₁ : σ} {notes : List Note} :
      report.isAvailable = true → report.outputs = [] → procedure = some found →
      (s.parameters found).Gives w parameters w₁ notes → declaredOutputs parameters ≠ [] →
      TurnsToCatalog report procedure w none w₁ [.parametersAsked found]

/-- The registration that follows the catalog. -/
inductive FollowsCatalog (error : Option String) (w : σ) :
    Option π → Registration → σ → List (Event ν π) → Prop where
  /-- There is no procedure to follow. -/
  | missing : FollowsCatalog error w none ⟨.failed, 0, error⟩ w []
  /-- The parameters of the procedure cannot be read. -/
  | unread {found : π} {fault : Fault} {w' : σ} {notes : List Note} : fault.isFailure = true →
      (s.parameters found).Fails w fault w' notes →
      FollowsCatalog error w (some found) ⟨.failed, 0, some fault.message⟩ w'
        [.parametersAsked found]
  /-- The driver refuses one of the declared outputs. -/
  | refused {found : π} {parameters : List Parameter} {fault : Fault} {w₁ w' : σ}
      {notes : List Note} {requests : List (Event ν π)} : fault.isFailure = true →
      (s.parameters found).Gives w parameters w₁ notes →
      Attempts call (outputSlots (declaredOutputs parameters)) w₁ (.error fault) w' requests →
      FollowsCatalog error w (some found) ⟨.failed, 0, some fault.message⟩ w'
        (.parametersAsked found :: requests)
  /-- The driver accepts all declared outputs. -/
  | accepted {found : π} {parameters : List Parameter} {w₁ w' : σ} {notes : List Note}
      {requests : List (Event ν π)} : (s.parameters found).Gives w parameters w₁ notes →
      Attempts call (outputSlots (declaredOutputs parameters)) w₁ (.ok ()) w' requests →
      FollowsCatalog error w (some found) ⟨.catalog, (declaredOutputs parameters).length, error⟩
        w' (.parametersAsked found :: requests)

/-- Begun in `w`, a registration ends with a result and a world after these requests. -/
inductive Decides (report : ReportSource) (procedure : Option π) (w : σ) :
    Registration → σ → List (Event ν π) → Prop where
  /-- The driver told of outputs and accepts them all. -/
  | driver {w' : σ} {requests : List (Event ν π)} : report.isAvailable = true →
      report.outputs ≠ [] → Attempts call (reportedSlots report) w (.ok ()) w' requests →
      Decides report procedure w ⟨.driver, report.outputs.length, none⟩ w' requests
  /-- The driver told of no outputs, and there is no word of any in the catalog. -/
  | nothing {w' : σ} {requests : List (Event ν π)} : report.isAvailable = true →
      report.outputs = [] → DeclaresNothing s procedure w w' requests →
      Decides report procedure w ⟨.none, 0, none⟩ w' requests
  /-- The driver's word does not do. -/
  | catalog {error : Option String} {registration : Registration} {w₁ w' : σ}
      {q₁ q₂ : List (Event ν π)} : TurnsToCatalog s call report procedure w error w₁ q₁ →
      FollowsCatalog s call error w₁ procedure registration w' q₂ →
      Decides report procedure w registration w' (q₁ ++ q₂)

variable {s call}

/-- The registration that comes of registering what the catalog declares. -/
def Registration.ofDeclared (error : Option String) : Except Fault Nat → Registration
  | .error fault => ⟨.failed, 0, some fault.message⟩
  | .ok registered => ⟨.catalog, registered, error⟩

theorem asks_registerFromCatalog_some {found : π} {error : Option String} {w w' : σ}
    {r : Except Fault Registration} {requests : List (Event ν π)} :
    (registerFromCatalog s call (some found) error).Asks w r w' requests ↔
      ∃ x, (registerDeclared s call found).Asks w x w' requests ∧
        r = (caught x).map (Registration.ofDeclared error) := by
  refine asks_attempt_answer fun x w r w' requests => ?_
  rcases x with fault | registered
  · exact asks_note_pure
  · exact asks_note_pure

theorem asks_registerFromCatalog {procedure : Option π} {error : Option String} {w w' : σ}
    {registration : Registration} {requests : List (Event ν π)} :
    (registerFromCatalog s call procedure error).Asks w (.ok registration) w' requests ↔
      FollowsCatalog s call error w procedure registration w' requests := by
  cases procedure with
  | none =>
    rw [registerFromCatalog, asks_pure, Except.ok.injEq]
    constructor
    · rintro ⟨rfl, rfl, rfl⟩
      exact .missing
    · intro h
      cases h
      exact ⟨rfl, rfl, rfl⟩
  | some found =>
    rw [asks_registerFromCatalog_some]
    constructor
    · rintro ⟨x, hdeclared, hsame⟩
      rcases asks_registerDeclared.mp hdeclared with ⟨fault, notes, rfl, hfails, rfl⟩ |
        ⟨parameters, w₁, notes, fault | _, rest, hread, hattempts, rfl, rfl⟩
      · obtain ⟨hfault, rfl⟩ := ok_eq_map_caught_error.mp hsame
        exact .unread hfault hfails
      · obtain ⟨hfault, rfl⟩ := ok_eq_map_caught_error.mp hsame
        exact .refused hfault hread hattempts
      · obtain rfl := Except.ok.inj hsame
        exact .accepted hread hattempts
    · intro h
      cases h with
      | unread hfault hfails =>
        exact ⟨_, asks_registerDeclared.mpr (Or.inl ⟨_, _, rfl, hfails, rfl⟩),
          ok_eq_map_caught_error.mpr ⟨hfault, rfl⟩⟩
      | refused hfault hread hattempts =>
        exact ⟨_, asks_registerDeclared.mpr (Or.inr ⟨_, _, _, _, _, hread, hattempts, rfl, rfl⟩),
          ok_eq_map_caught_error.mpr ⟨hfault, rfl⟩⟩
      | accepted hread hattempts =>
        exact ⟨_, asks_registerDeclared.mpr (Or.inr ⟨_, _, _, _, _, hread, hattempts, rfl, rfl⟩),
          rfl⟩

/-! ### From the report to the decision -/

theorem attempts_nil {w w' : σ} {r : Except Fault Unit} {requests : List (Event ν π)} :
    Attempts call [] w r w' requests ↔ r = .ok () ∧ w' = w ∧ requests = [] := by
  rw [← asks_registerAll, registerAll, asks_pure]

variable (s call) in
/-- What a registration goes on with where the driver told of no output. -/
def registerSilent (procedure : Option π) : Action σ (Event ν π) Registration := do
  match ← (s.hasOutputs procedure).attempt with
  | .error fault =>
    Session.debug "error checking procedure output parameters" [("error", .text fault.message)]
    pure { source := .none }
  | .ok declared =>
    if declared then registerFromCatalog s call procedure none else pure { source := .none }

theorem registerOutputs_eq (report : ReportSource) (procedure : Option π) :
    registerOutputs s call report procedure =
      (registerReported call report).attempt >>= fun
        | .error fault =>
          Session.debug "driver registration failed" [("error", .text fault.message)] >>= fun _ =>
            registerFromCatalog s call procedure (some fault.message)
        | .ok registered =>
          if 0 < registered then pure { source := .driver, registered }
          else registerSilent s call procedure := rfl

theorem asks_registerReported_of_silent {report : ReportSource}
    (havailable : report.isAvailable = true) (hsilent : report.outputs = []) (w : σ) :
    (registerReported call report).Asks w (.ok 0) w ([] : List (Event ν π)) := by
  refine asks_registerReported.mpr (Or.inr ⟨havailable, .ok (), ?_, by simp [Except.map, hsilent]⟩)
  rw [reportedSlots_eq_nil_iff.mpr hsilent]
  exact .done w

theorem asks_registerSilent {procedure : Option π} {w w' : σ} {registration : Registration}
    {requests : List (Event ν π)} :
    (registerSilent s call procedure).Asks w (.ok registration) w' requests ↔
      (registration = ⟨.none, 0, none⟩ ∧ DeclaresNothing s procedure w w' requests) ∨
      ∃ found parameters w₁ notes rest, procedure = some found ∧
        (s.parameters found).Gives w parameters w₁ notes ∧ declaredOutputs parameters ≠ [] ∧
        FollowsCatalog s call none w₁ procedure registration w' rest ∧
        requests = .parametersAsked found :: rest := by
  cases procedure with
  | none =>
    have hnone : (registerSilent s call none : Action σ (Event ν π) Registration) =
        pure ⟨.none, 0, none⟩ := rfl
    rw [hnone, asks_pure, Except.ok.injEq]
    constructor
    · rintro ⟨rfl, rfl, rfl⟩
      exact Or.inl ⟨rfl, .missing w'⟩
    · rintro (⟨rfl, hnothing⟩ | ⟨_, _, _, _, _, hnever, _⟩)
      · cases hnothing
        exact ⟨rfl, rfl, rfl⟩
      · cases hnever
  | some found =>
    rw [registerSilent, asks_attempt_bind]
    constructor
    · rintro (⟨hnever, _⟩ | ⟨fault, w₁, q₁, q₂, hfault, hasked, hrest, rfl⟩ |
        ⟨declared, w₁, q₁, q₂, hasked, hrest, rfl⟩)
      · cases hnever
      · obtain ⟨hr, rfl, rfl⟩ := asks_note_pure.mp hrest
        cases hr
        obtain ⟨result | parameters, notes, hread, hsame, rfl⟩ := asks_hasOutputs.mp hasked
        · cases hsame
          exact Or.inl ⟨rfl, .unread hfault hread⟩
        · cases hsame
      · obtain ⟨result | parameters, notes, hread, hsame, rfl⟩ := asks_hasOutputs.mp hasked
        · cases hsame
        · cases hsame
          by_cases hsilent : declaredOutputs parameters = []
          · simp only [hsilent, ne_eq, not_true, decide_false] at hrest
            obtain ⟨hr, rfl, rfl⟩ := asks_pure.mp hrest
            cases hr
            exact Or.inl ⟨rfl, .silent hread hsilent⟩
          · simp only [hsilent, ne_eq, not_false_eq_true, decide_true] at hrest
            exact Or.inr ⟨found, parameters, w₁, notes, q₂, rfl, hread, hsilent,
              asks_registerFromCatalog.mp hrest, rfl⟩
    · rintro (⟨rfl, hnothing⟩ |
        ⟨_, parameters, w₁, notes, rest, hsame, hread, hdeclared, hfollows, rfl⟩)
      · cases hnothing with
        | unread hfault hread =>
          exact Or.inr (Or.inl ⟨_, w', _, [], hfault,
            asks_hasOutputs.mpr ⟨_, _, hread, rfl, rfl⟩,
            asks_note_pure.mpr ⟨rfl, rfl, rfl⟩, rfl⟩)
        | silent hread hsilent =>
          exact Or.inr (Or.inr ⟨false, w', _, [],
            asks_hasOutputs.mpr ⟨_, _, hread, by simp [Except.map, hsilent], rfl⟩,
            asks_pure.mpr ⟨rfl, rfl, rfl⟩, rfl⟩)
      · obtain rfl := Option.some.inj hsame
        exact Or.inr (Or.inr ⟨true, w₁, _, rest,
          asks_hasOutputs.mpr ⟨_, notes, hread, by simp [Except.map, hdeclared], rfl⟩,
          asks_registerFromCatalog.mpr hfollows, rfl⟩)

/-- What a registration gives is what `Decides` tells. -/
theorem asks_registerOutputs {report : ReportSource} {procedure : Option π} {w w' : σ}
    {registration : Registration} {requests : List (Event ν π)} :
    (registerOutputs s call report procedure).Asks w (.ok registration) w' requests ↔
      Decides s call report procedure w registration w' requests := by
  rw [registerOutputs_eq, asks_attempt_bind]
  constructor
  · rintro (⟨hnever, _⟩ | ⟨fault, w₁, q₁, q₂, hfault, hreported, hcatalog, rfl⟩ |
      ⟨registered, w₁, q₁, q₂, hreported, hrest, rfl⟩)
    · cases hnever
    · refine .catalog ?_ (asks_registerFromCatalog.mp (asks_note_bind.mp hcatalog))
      rcases asks_registerReported.mp hreported with ⟨reason, rfl, hsame, rfl, rfl⟩ |
        ⟨havailable, result | _, hattempts, hsame⟩
      · cases hsame
        exact .untold rfl
      · cases hsame
        exact .refused havailable hfault hattempts
      · cases hsame
    · rcases asks_registerReported.mp hreported with ⟨reason, rfl, hsame, rfl, rfl⟩ |
        ⟨havailable, result | _, hattempts, hsame⟩
      · cases hsame
      · cases hsame
      · cases hsame
        dsimp only at hrest
        split at hrest
        case isTrue hpos =>
          obtain ⟨hr, rfl, rfl⟩ := asks_pure.mp hrest
          cases hr
          rw [List.append_nil]
          exact .driver havailable (List.length_pos_iff.mp hpos) hattempts
        case isFalse hzero =>
          have hsilent : report.outputs = [] := by simpa using hzero
          rw [reportedSlots_eq_nil_iff.mpr hsilent] at hattempts
          obtain ⟨-, rfl, rfl⟩ := attempts_nil.mp hattempts
          rcases asks_registerSilent.mp hrest with ⟨rfl, hnothing⟩ |
            ⟨found, parameters, w₂, notes, rest, hfound, hread, hdeclared, hfollows, rfl⟩
          · exact .nothing havailable hsilent hnothing
          · have hturns : TurnsToCatalog s call report procedure w₁ none w₂
                [.parametersAsked found] := .declared havailable hsilent hfound hread hdeclared
            have hdecides : Decides s call report procedure w₁ registration w'
                ([.parametersAsked found] ++ rest) := .catalog hturns hfollows
            exact hdecides
  · intro h
    cases h with
    | driver havailable houtputs hattempts =>
      refine Or.inr (Or.inr ⟨report.outputs.length, w', requests, [],
        asks_registerReported.mpr (Or.inr ⟨havailable, _, hattempts, rfl⟩), ?_,
        (List.append_nil _).symm⟩)
      dsimp only
      rw [if_pos (List.length_pos_iff.mpr houtputs), asks_pure]
      exact ⟨rfl, rfl, rfl⟩
    | nothing havailable hsilent hnothing =>
      exact Or.inr (Or.inr ⟨0, w, [], _, asks_registerReported_of_silent havailable hsilent w,
        asks_registerSilent.mpr (Or.inl ⟨rfl, hnothing⟩), rfl⟩)
    | catalog hturns hfollows =>
      cases hturns with
      | untold hreport =>
        exact Or.inr (Or.inl ⟨_, w, [], _, rfl,
          asks_registerReported.mpr (Or.inl ⟨_, hreport, rfl, rfl, rfl⟩),
          asks_note_bind.mpr (asks_registerFromCatalog.mpr hfollows), rfl⟩)
      | refused havailable hfault hattempts =>
        exact Or.inr (Or.inl ⟨_, _, _, _, hfault,
          asks_registerReported.mpr (Or.inr ⟨havailable, _, hattempts, rfl⟩),
          asks_note_bind.mpr (asks_registerFromCatalog.mpr hfollows), rfl⟩)
      | declared havailable hsilent hfound hread hdeclared =>
        exact Or.inr (Or.inr ⟨0, w, [], _, asks_registerReported_of_silent havailable hsilent w,
          asks_registerSilent.mpr
            (Or.inr ⟨_, _, _, _, _, hfound, hread, hdeclared, hfollows, rfl⟩), rfl⟩)

/-! ### Faults -/

theorem interrupted_registerFromCatalog {procedure : Option π} {error : Option String}
    {w w' : σ} {fault : Fault} {requests : List (Event ν π)}
    (h : (registerFromCatalog s call procedure error).Asks w (.error fault) w' requests) :
    fault = .interrupt := by
  cases procedure with
  | none =>
    rw [registerFromCatalog, asks_pure] at h
    cases h.1
  | some found =>
    obtain ⟨x, -, hsame⟩ := asks_registerFromCatalog_some.mp h
    exact eq_interrupt_of_map_caught hsame

theorem interrupted_registerSilent {procedure : Option π} {w w' : σ} {fault : Fault}
    {requests : List (Event ν π)}
    (h : (registerSilent s call procedure).Asks w (.error fault) w' requests) :
    fault = .interrupt := by
  rw [registerSilent, asks_attempt_bind] at h
  rcases h with ⟨hsame, _⟩ | ⟨_, _, _, _, _, _, hrest, _⟩ | ⟨declared, _, _, _, _, hrest, _⟩
  · exact Except.error.inj hsame
  · cases (asks_note_pure.mp hrest).1
  · cases declared with
    | true => exact interrupted_registerFromCatalog hrest
    | false => cases (asks_pure.mp hrest).1

theorem interrupted_registerOutputs {report : ReportSource} {procedure : Option π} {w w' : σ}
    {fault : Fault} {requests : List (Event ν π)}
    (h : (registerOutputs s call report procedure).Asks w (.error fault) w' requests) :
    fault = .interrupt := by
  rw [registerOutputs_eq, asks_attempt_bind] at h
  rcases h with ⟨hsame, _⟩ | ⟨_, _, _, _, _, _, hrest, _⟩ | ⟨registered, _, _, _, _, hrest, _⟩
  · exact Except.error.inj hsame
  · exact interrupted_registerFromCatalog (asks_note_bind.mp hrest)
  · dsimp only at hrest
    split at hrest
    case isTrue => cases (asks_pure.mp hrest).1
    case isFalse => exact interrupted_registerSilent hrest

/-! ### The decision -/

theorem Decides.isRegistration_of_driver {report : ReportSource} {procedure : Option π} {w w' : σ}
    {registration : Registration} {requests : List (Event ν π)}
    (h : Decides s call report procedure w registration w' requests)
    (hsource : registration.source = .driver) : ∀ e ∈ requests, e.isRegistration = true := by
  cases h with
  | driver _ _ hattempts => exact hattempts.isRegistration
  | nothing => cases hsource
  | catalog _ hfollows => cases hfollows <;> cases hsource

/-- What the driver told is registered in the order of the places. -/
theorem pairwise_reportedSlots {report : ReportSource} {w w' : σ} {j : List (Event ν π)}
    (h : (reportSource call).Gives w report w' j) :
    (reportedSlots report).Pairwise fun p q => p.1 ≤ q.1 := by
  rw [reportSource_gives h, reportedSlots, List.pairwise_map]
  rcases (call.report.run w).result with fault | _ | parameters
  · exact .nil
  · exact .nil
  · exact (pairwise_byOrdinal parameters).filter _

/-- **What a registration decides.** For every report, every procedure or none, and whichever reads
of its parameters and registrations fail, a registration gives a result exactly as `Decides` tells:
it follows the driver after all outputs of the report were accepted in their order, and then nothing
else was asked; there is none if the report has no outputs and the catalog has no word of any; and
else the catalog is followed, or the registration has failed. Only an interrupt keeps it from its
end, so that there is a result unless a request is interrupted. A report that the driver was asked
for has its outputs in the order of their places. -/
theorem registerOutputs_decides (s : Session σ ν π) (call : DriverCall σ) (report : ReportSource)
    (procedure : Option π) (w : σ) :
    (∀ registration w' requests,
      (registerOutputs s call report procedure).Asks w (.ok registration) w' requests ↔
        Decides s call report procedure w registration w' requests) ∧
    (∀ registration w' requests, Decides s call report procedure w registration w' requests →
      registration.source = .driver → ∀ e ∈ requests, e.isRegistration = true) ∧
    (∀ fault w' requests,
      (registerOutputs s call report procedure).Asks w (.error fault) w' requests →
        fault = .interrupt) ∧
    ((∀ found, (s.parameters found).Uninterrupted) →
      (∀ slot code, (call.register slot code).Uninterrupted) →
      ∃ registration w' requests,
        (registerOutputs s call report procedure).Asks w (.ok registration) w' requests) ∧
    (∀ v v' j, (reportSource call : Action σ (Event ν π) ReportSource).Gives v report v' j →
      (reportedSlots report).Pairwise fun p q => p.1 ≤ q.1) := by
  refine ⟨fun _ _ _ => asks_registerOutputs, fun _ _ _ => Decides.isRegistration_of_driver,
    fun _ _ _ => interrupted_registerOutputs, fun hparameters hregister => ?_,
    fun _ _ _ => pairwise_reportedSlots⟩
  obtain ⟨registration, w', j, hgives⟩ :=
    completes_registerOutputs hparameters hregister report procedure w
  exact ⟨registration, w', _, j, hgives, rfl⟩

/-- A call that takes the first place and refuses every other. -/
def DriverCall.takingFirst : DriverCall Unit :=
  { DriverCall.refusing (.tool .driver "refused") with
    register := fun slot _ =>
      if slot = 1 then pure () else Action.fail (.tool .driver "refused") }

theorem uninterrupted_takingFirst (slot code : Int) :
    (DriverCall.takingFirst.register slot code).Uninterrupted := by
  unfold DriverCall.takingFirst
  dsimp only
  split
  · exact (completes_pure _).uninterrupted
  · exact uninterrupted_fail rfl

/-- The driver refuses the second of its outputs, and the one that the catalog declares is
registered in their place. -/
theorem registered_after_refusal :
    ∃ (registration : Registration) (w' : Unit) (requests : List (Event Unit Unit)),
      (registerOutputs (Session.steady [.numeric "a" 0]) DriverCall.takingFirst
        (.available [⟨1, .output, 4, none⟩, ⟨2, .output, 12, none⟩]) (some ())).Asks ()
        (.ok registration) w' requests ∧
      registration = ⟨.catalog, 1, some "refused"⟩ ∧
      requests = [.registered 1 4 true, .registered 2 12 false, .parametersAsked (),
        .registered 1 4 true] := by
  obtain ⟨hdecides, -, -, hends, -⟩ := registerOutputs_decides (Session.steady [.numeric "a" 0])
    DriverCall.takingFirst (.available [⟨1, .output, 4, none⟩, ⟨2, .output, 12, none⟩])
    (some ()) ()
  obtain ⟨registration, w', requests, hasks⟩ :=
    hends (fun _ => (completes_pure _).uninterrupted) uninterrupted_takingFirst
  have hrefused : Attempts DriverCall.takingFirst [(1, 4), (2, 12)] ()
      (.error (.tool .driver "refused")) ()
      ([.registered 1 4 true, .registered 2 12 false] : List (Event Unit Unit)) :=
    .accepted (pure_gives () ()) (.refused (fails_fail.mpr ⟨rfl, rfl, rfl⟩))
  have haccepted : Attempts DriverCall.takingFirst [(1, 4)] () (.ok ()) ()
      ([.registered 1 4 true] : List (Event Unit Unit)) :=
    .accepted (pure_gives () ()) (.done ())
  have hdecided := (hdecides _ _ _).mpr
    (.catalog (.refused rfl rfl hrefused) (.accepted (pure_gives _ ()) haccepted))
  obtain ⟨hsame, -, rfl⟩ := hasks.unique hdecided
  exact ⟨registration, w', _, hasks, Except.ok.inj hsame, rfl⟩

end ProcedureCall
