import ProcedureCall.Proofs.Alike
import ProcedureCall.Proofs.Plan.Slots

/-!
# Plans without a procedure

Where no procedure is found, for whatever reason, a plan depends on the driver alone. The statement
is about two plans side by side, for different texts and over different catalogs: the sessions have
in common what the data source can do and the types that it knows, and the calls behave alike
(`SameDriver`). `planCall_alike` says that both plans make the same registrations and tell the same
of the driver, of the registration and of the columns.
-/

namespace ProcedureCall

open ProcedureCall.Action

variable {σ τ ν κ π ρ : Type}

/-! ### Journals with the same registrations -/

/-- The journals tell of the same registrations. -/
def SameRegistrations (j : List (Event ν π)) (k : List (Event κ ρ)) : Prop :=
  Event.registrations j = Event.registrations k

theorem joins_sameRegistrations :
    Joins (SameRegistrations : List (Event ν π) → List (Event κ ρ) → Prop) where
  nil := rfl
  append h₁ h₂ := by
    unfold SameRegistrations at *
    rw [Event.registrations_append, Event.registrations_append, h₁, h₂]

variable {R : σ → τ → Prop}

/-- Requests that the collaborators treat alike are alike if they are entered alike. -/
theorem alike_asked {α : Type} {a : Action σ Note α} {b : Action τ Note α}
    {entry : Bool → Event ν π} {entry' : Bool → Event κ ρ}
    (h : Alike R (fun _ _ => True) (· = ·) a b)
    (hentry : ∀ accepted, SameRegistrations [entry accepted] [entry' accepted]) :
    Alike R SameRegistrations (· = ·) ((a.entering .note).noting entry)
      ((b.entering .note).noting entry') := by
  intro w v r r' w' v' j k hw hleft hright
  obtain ⟨notes, ha, rfl⟩ := ends_asked.mp hleft
  obtain ⟨notes', hb, rfl⟩ := ends_asked.mp hright
  obtain ⟨hsame, hw', -⟩ := h hw ha hb
  obtain rfl := sameEnd_eq.mp hsame
  refine ⟨hsame, hw', joins_sameRegistrations.append ?_ (hentry _)⟩
  unfold SameRegistrations
  rw [Event.registrations_notes, Event.registrations_notes]

/-- Whatever both sides note, they register nothing by it. -/
theorem alike_notes (n n' : Note) :
    Alike R (SameRegistrations : List (Event ν π) → List (Event κ ρ) → Prop) (· = ·)
      (Action.record (.note n)) (Action.record (.note n')) :=
  alike_record rfl

/-! ### The same driver behind different catalogs -/

/-- The look-ups of the session change the world only within `K`. -/
structure Session.LooksUpWithin (s : Session σ ν π) (K : σ → σ → Prop) : Prop where
  /-- Telling what is selected. -/
  selected : Does (fun w _ w' => K w w') s.selected
  /-- Looking up a child. -/
  child : ∀ container name, Does (fun w _ w' => K w w') (s.child container name)
  /-- Looking up a procedure. -/
  procedure : ∀ container name, Does (fun w _ w' => K w w') (s.procedure container name)

theorem Session.LooksUpWithin.mono {s : Session σ ν π} {K L : σ → σ → Prop}
    (h : s.LooksUpWithin K) (hKL : ∀ w w', K w w' → L w w') : s.LooksUpWithin L where
  selected := h.selected.mono fun w _ w' => hKL w w'
  child container name := (h.child container name).mono fun w _ w' => hKL w w'
  procedure container name := (h.procedure container name).mono fun w _ w' => hKL w w'

/-- Finding a procedure changes the world only as the look-ups do, and registers nothing. -/
theorem Session.LooksUpWithin.find {s : Session σ ν π} {K : σ → σ → Prop}
    (h : s.LooksUpWithin K) (hrefl : ∀ w, K w w)
    (htrans : ∀ {w w₁ w₂}, K w w₁ → K w₁ w₂ → K w w₂) (text : Option String) :
    Does (fun w j w' => K w w' ∧ Event.registrations j = []) (s.find text) := by
  have hquiet : Quiet fun w (j : List (Event ν π)) w' => K w w' ∧ Event.registrations j = [] :=
    { nil := fun w => ⟨hrefl w, rfl⟩
      append := fun h₁ h₂ => ⟨htrans h₁.1 h₂.1, by
        rw [Event.registrations_append, h₁.2, h₂.2, List.append_nil]⟩
      remark := fun w _ _ => ⟨hrefl w, rfl⟩ }
  have hasked : ∀ {α : Type} {a : Action σ Note α} {entry : Event ν π},
      entry.isRegistration = false → Does (fun w _ w' => K w w') a →
      Does (fun w j w' => K w w' ∧ Event.registrations j = [])
        ((a.entering .note).noting fun _ => entry) := by
    intro α a entry hentry ha
    refine does_asked fun w r w' notes hends => ⟨ha w r w' notes hends, ?_⟩
    rw [Event.registrations_append, Event.registrations_notes,
      Event.registrations_eq_nil (by simpa using hentry), List.append_nil]
  exact Session.does_find hquiet (hasked rfl h.selected)
    (fun container name => hasked rfl (h.child container name))
    (fun container name => hasked rfl (h.procedure container name)) text

variable (R) in
/-- Behind two catalogs there is the same driver: worlds that `R` relates cannot be told apart by
the call or by the local types, and looking something up in a catalog does not change that. -/
structure SameDriver (s : Session σ ν π) (t : Session τ κ ρ) (call : DriverCall σ)
    (other : DriverCall τ) : Prop where
  /-- Cursors come back in the same way. -/
  multipleResults : s.dialect.multipleResults = t.dialect.multipleResults
  /-- The same local types are known. -/
  localType : ∀ name, Alike R (fun _ _ => True) (· = ·) (s.localType name) (t.localType name)
  /-- The calls report the same. -/
  report : Alike R (fun _ _ => True) (· = ·) call.report other.report
  /-- The calls take the same registrations. -/
  register : ∀ slot code,
    Alike R (fun _ _ => True) (· = ·) (call.register slot code) (other.register slot code)
  /-- Look-ups in the one catalog go unnoticed. -/
  left : s.LooksUpWithin fun w w' => ∀ v, R w v → R w' v
  /-- Look-ups in the other catalog go unnoticed. -/
  right : t.LooksUpWithin fun v v' => ∀ w, R w v → R w v'

section

variable {s : Session σ ν π} {t : Session τ κ ρ} {call : DriverCall σ} {other : DriverCall τ}
  (h : SameDriver R s t call other)
include h

theorem SameDriver.askReport :
    Alike R SameRegistrations (· = ·)
      (call.askReport : Action σ (Event ν π) (Option (List ReportedParameter)))
      (other.askReport : Action τ (Event κ ρ) (Option (List ReportedParameter))) :=
  alike_asked h.report fun _ => rfl

theorem SameDriver.askRegister (slot code : Int) :
    Alike R SameRegistrations (· = ·) (call.askRegister slot code : Action σ (Event ν π) Unit)
      (other.askRegister slot code : Action τ (Event κ ρ) Unit) :=
  alike_asked (h.register slot code) fun _ => rfl

theorem SameDriver.askLocalType (name : String) :
    Alike R SameRegistrations (· = ·) (s.askLocalType name) (t.askLocalType name) :=
  alike_asked (h.localType name) fun _ => rfl

theorem SameDriver.reportSource :
    Alike R SameRegistrations (· = ·) (reportSource call : Action σ (Event ν π) ReportSource)
      (reportSource other : Action τ (Event κ ρ) ReportSource) := by
  refine h.askReport.attempt.bind joins_sameRegistrations fun x y hxy => ?_
  cases hxy with
  | error fault =>
    exact (alike_notes _ _).bind joins_sameRegistrations fun _ _ _ =>
      alike_pure joins_sameRegistrations rfl
  | ok heq =>
    subst heq
    rename_i told
    cases told <;> exact alike_pure joins_sameRegistrations rfl

theorem SameDriver.registerAll (slots : List (Int × Int)) :
    Alike R SameRegistrations (· = ·) (registerAll call slots : Action σ (Event ν π) Unit)
      (registerAll other slots : Action τ (Event κ ρ) Unit) := by
  induction slots with
  | nil => exact alike_pure joins_sameRegistrations rfl
  | cons place slots ih =>
    exact (h.askRegister _ _).bind joins_sameRegistrations fun _ _ _ => ih

theorem SameDriver.registerReported (report : ReportSource) :
    Alike R SameRegistrations (· = ·) (registerReported call report : Action σ (Event ν π) Nat)
      (registerReported other report : Action τ (Event κ ρ) Nat) := by
  cases report with
  | unavailable reason => exact alike_fail joins_sameRegistrations _
  | available items =>
    exact (h.registerAll _).bind joins_sameRegistrations fun _ _ _ =>
      alike_pure joins_sameRegistrations rfl

/-- Without a procedure the registration is up to the driver, also where it fails part of the
way. -/
theorem SameDriver.registerOutputs (report : ReportSource) :
    Alike R SameRegistrations (· = ·) (registerOutputs s call report none)
      (registerOutputs t other report none) := by
  refine (h.registerReported report).attempt.bind joins_sameRegistrations fun x y hxy => ?_
  cases hxy with
  | error fault =>
    exact (alike_notes _ _).bind joins_sameRegistrations fun _ _ _ =>
      alike_pure joins_sameRegistrations rfl
  | ok heq =>
    subst heq
    dsimp only
    split
    · exact alike_pure joins_sameRegistrations rfl
    · -- the catalog is not asked, as there is no procedure to ask for
      have hasked : Alike R SameRegistrations (fun x y => x = false ∧ y = false)
          (s.hasOutputs none) (t.hasOutputs none) := alike_pure joins_sameRegistrations ⟨rfl, rfl⟩
      refine hasked.attempt.bind joins_sameRegistrations fun x y hxy => ?_
      cases hxy with
      | error fault =>
        exact (alike_notes _ _).bind joins_sameRegistrations fun _ _ _ =>
          alike_pure joins_sameRegistrations rfl
      | ok hnone =>
        obtain ⟨rfl, rfl⟩ := hnone
        exact alike_pure joins_sameRegistrations rfl

theorem SameDriver.reportedType (p : ReportedParameter) :
    Alike R SameRegistrations (· = ·) (reportedType s p) (reportedType t p) := by
  unfold ProcedureCall.reportedType
  rcases p.typeName with _ | name
  · exact alike_pure joins_sameRegistrations rfl
  · dsimp only
    split
    · exact alike_pure joins_sameRegistrations rfl
    · refine (h.askLocalType name).attempt.bind joins_sameRegistrations fun x y hxy => ?_
      cases hxy with
      | error fault =>
        exact (alike_notes _ _).bind joins_sameRegistrations fun _ _ _ =>
          alike_pure joins_sameRegistrations rfl
      | ok heq =>
        subst heq
        exact alike_pure joins_sameRegistrations rfl

theorem SameDriver.driverDrafts (reported : List ReportedParameter) :
    Alike R SameRegistrations (· = ·) (driverDrafts s reported) (driverDrafts t reported) := by
  have hcursor : isCursor s.dialect = isCursor t.dialect := by
    unfold isCursor
    rw [h.multipleResults]
  induction reported with
  | nil => exact alike_pure joins_sameRegistrations rfl
  | cons p reported ih =>
    unfold ProcedureCall.driverDrafts
    rw [hcursor]
    split
    · exact ih
    · refine (h.reportedType p).bind joins_sameRegistrations fun x y hxy => ?_
      refine ih.bind joins_sameRegistrations fun drafts drafts' hdrafts => ?_
      rw [hxy, hdrafts]
      exact alike_pure joins_sameRegistrations rfl

/-- Without a catalog the columns are up to the driver and the local types. -/
theorem SameDriver.reconcile (reason : String) (report : ReportSource) :
    Alike R SameRegistrations (· = ·) (reconcile s (.unavailable reason) report)
      (reconcile t (.unavailable reason) report) := by
  cases report with
  | unavailable _ =>
    exact (alike_notes _ _).bind joins_sameRegistrations fun _ _ _ =>
      alike_pure joins_sameRegistrations rfl
  | available items =>
    refine (h.driverDrafts _).bind joins_sameRegistrations fun drafts drafts' hdrafts => ?_
    rw [hdrafts]
    exact alike_pure joins_sameRegistrations rfl

end

/-! ### The plan -/

/-- Two plans tell the same of the driver, of the registration and of the columns. -/
structure Plan.Agrees (plan : Plan π) (other : Plan ρ) : Prop where
  /-- The driver told both the same. -/
  report : plan.report = other.report
  /-- The same came of the registration. -/
  registration : plan.registration = other.registration
  /-- The columns are the same, and found in the same way. -/
  reconciliation : plan.reconciliation = other.reconciliation

section

variable {s : Session σ ν π} {t : Session τ κ ρ} {call : DriverCall σ} {other : DriverCall τ}

theorem ends_planCall {text : Option String} {w w' : σ} {r : Except Fault (Plan π)}
    {j : List (Event ν π)} (h : (planCall s call text).Ends w r w' j) :
    ∃ k, (s.find text >>= planWith s call text).Ends w r w' k ∧
      Event.registrations j = Event.registrations k := by
  rw [planCall_eq] at h
  obtain ⟨k, hk, rfl⟩ := ends_spanning.mp h
  refine ⟨k, hk, ?_⟩
  rw [Event.registrations_append, Event.registrations_append]
  exact List.append_nil _

theorem SameDriver.planWith (h : SameDriver R s t call other) (text text' : Option String) :
    Alike R SameRegistrations Plan.Agrees (planWith s call text none)
      (planWith t other text' none) := by
  have hJ : Joins (SameRegistrations : List (Event ν π) → List (Event κ ρ) → Prop) :=
    joins_sameRegistrations
  refine h.reportSource.bind hJ fun report _ hreport => ?_
  subst hreport
  refine (h.registerOutputs report).bind hJ fun registration _ hregistration => ?_
  subst hregistration
  have hcatalog : Alike R SameRegistrations (fun x y => x = .unavailable "procedure not resolved" ∧
      y = .unavailable "procedure not resolved") (catalogSource s none) (catalogSource t none) :=
    alike_pure hJ ⟨rfl, rfl⟩
  refine hcatalog.bind hJ fun x y hxy => ?_
  obtain ⟨rfl, rfl⟩ := hxy
  refine (h.reconcile _ report).bind hJ fun reconciliation _ hreconciliation => ?_
  subst hreconciliation
  exact (alike_notes _ _).bind hJ fun _ _ _ => (alike_notes _ _).bind hJ fun _ _ _ =>
    (alike_notes _ _).bind hJ fun _ _ _ => alike_pure hJ ⟨rfl, rfl, rfl⟩

/-- **Without a procedure, the catalog and the text have no influence.** Let two calls behave alike
and two sessions agree on what the data source can do and on the local types. Whatever the texts
are and whatever the catalogs hold, if in both no procedure is found, both plans make the same
registrations in the same order with the same answers, and end with the same fault or with plans
that tell the same of the driver, of the registration and of the columns. If no request is
interrupted there are plans on both sides. -/
theorem planCall_alike (h : SameDriver R s t call other) {text text' : Option String} {w w' : σ}
    {v v' : τ} (hw : R w v) (hs : ((s.find text).run w).result = .ok none)
    (ht : ((t.find text').run v).result = .ok none) {r : Except Fault (Plan π)}
    {r' : Except Fault (Plan ρ)} {j : List (Event ν π)} {j' : List (Event κ ρ)}
    (hplan : (planCall s call text).Ends w r w' j)
    (hother : (planCall t other text').Ends v r' v' j') :
    Event.registrations j = Event.registrations j' ∧ SameEnd Plan.Agrees r r' ∧
      (s.Uninterrupted → call.report.Uninterrupted →
        (∀ slot code, (call.register slot code).Uninterrupted) →
        ∃ plan plan', r = .ok plan ∧ r' = .ok plan') := by
  obtain ⟨k, hk, hj⟩ := ends_planCall hplan
  obtain ⟨k', hk', hj'⟩ := ends_planCall hother
  obtain ⟨w₁, j₁, hfind⟩ := exists_ends_of_result hs
  obtain ⟨v₁, j₁', hfind'⟩ := exists_ends_of_result ht
  obtain ⟨k₂, hrest, rfl⟩ := (Gives.ends_bind hfind).mp hk
  obtain ⟨k₂', hrest', rfl⟩ := (Gives.ends_bind hfind').mp hk'
  obtain ⟨hleft, hj₁⟩ := h.left.find (fun _ _ => id) (fun h₁ h₂ v hv => h₂ v (h₁ v hv)) text
    _ _ _ _ hfind
  obtain ⟨hright, hj₁'⟩ := h.right.find (fun _ _ => id) (fun h₁ h₂ w hw => h₂ w (h₁ w hw)) text'
    _ _ _ _ hfind'
  obtain ⟨hsame, -, hregistrations⟩ := h.planWith text text' (hright _ (hleft _ hw)) hrest hrest'
  refine ⟨?_, hsame, ?_⟩
  · rw [hj, hj', Event.registrations_append, Event.registrations_append, hj₁, hj₁', hregistrations]
  · intro hquiet hreport hregister
    obtain ⟨plan, w₂, j₂, hgives⟩ := completes_planCall hquiet hreport hregister text w
    obtain ⟨rfl, -, -⟩ := Ends.unique hplan hgives
    cases hsame with
    | ok => exact ⟨_, _, rfl, rfl⟩

end

/-! ### In a rehearsal -/

namespace Rehearsal

theorem chains_unchanged : Chains fun (w : World) (_ : List Note) w' => w = w' :=
  ⟨fun _ => rfl, fun h₁ h₂ => h₁.trans h₂⟩

theorem Catalog.does_orFail {α : Type} (fault : Option Fault) (value : α) :
    Does (fun w _ w' => w = w') (Catalog.orFail fault value) := by
  cases fault with
  | none => exact does_pure chains_unchanged value
  | some fault => exact does_fail chains_unchanged fault

/-- To look something up in a rehearsed catalog changes nothing. -/
theorem Catalog.looksUpWithin (c : Catalog) : c.session.LooksUpWithin (· = ·) := by
  refine ⟨Catalog.does_orFail _ _, fun l name => ?_, fun l name => ?_⟩
  · change Does _ (Catalog.child l name)
    unfold Catalog.child
    split
    · exact Catalog.does_orFail _ _
    · exact does_pure chains_unchanged _
  · change Does _ (Catalog.procedure l name)
    unfold Catalog.procedure
    split
    · exact Catalog.does_orFail _ _
    · exact does_pure chains_unchanged _

/-- Two rehearsed catalogs with the same types stand before the same driver if the calls follow the
same script. -/
theorem sameDriver_sessions {c c' : Catalog} (script : CallScript)
    (hresults : c.dialect.multipleResults = c'.dialect.multipleResults)
    (htypes : c.types = c'.types) (hfaults : c.typeFaults = c'.typeFaults) :
    SameDriver (· = ·) c.session c'.session script.call script.call where
  multipleResults := hresults
  localType name := by
    have hsame : c.session.localType name = c'.session.localType name := by
      simp only [Catalog.session, htypes, hfaults]
    rw [hsame]
    exact alike_self _
  report := alike_self _
  register _ _ := alike_self _
  left := c.looksUpWithin.mono fun _ _ hsame _ hw => hsame ▸ hw
  right := c'.looksUpWithin.mono fun _ _ hsame _ hw => hsame ▸ hw

/-- A world in which the first registration is refused. -/
def World.refusingFirst : World := { registerFaults := [some (.tool .driver "refused")] }

/-- A catalog in which names of one segment cannot be looked up, as nobody can tell what is
selected. -/
def Catalog.unselected : Catalog :=
  { Catalog.ofProcedure [] [] with
    dialect := ⟨"/", "", .mixed, false⟩, selectionFault := some (.tool .catalog "refused") }

end Rehearsal

/-- A catalog that holds a procedure but is given a name in place of a call, and one whose selection
cannot be told: both plans try to register the output that the driver reports, are refused, and end
alike. -/
theorem planned_alike_without_procedure :
    ∃ (plan plan' : Plan Rehearsal.Located) (w' v' : Rehearsal.World)
      (j j' : List (Event Rehearsal.Located Rehearsal.Located)),
      (planCall (Rehearsal.Catalog.ofProcedure [.numeric "a" 0] []).session
        Rehearsal.CallScript.reportingOne.call (some "P")).Gives .refusingFirst plan w' j ∧
      (planCall Rehearsal.Catalog.unselected.session Rehearsal.CallScript.reportingOne.call
        (some "CALL p(?)")).Gives .refusingFirst plan' v' j' ∧
      Event.registrations j = [(1, 4, false)] ∧ Event.registrations j' = [(1, 4, false)] ∧
      plan.Agrees plan' := by
  have hnamed : (((Rehearsal.Catalog.ofProcedure [.numeric "a" 0] []).session.find (some "P")).run
      .refusingFirst).result.toOption.map Option.isNone = some true := by decide +kernel
  have hcalled : ((Rehearsal.Catalog.unselected.session.find (some "CALL p(?)")).run
      .refusingFirst).result.toOption.map Option.isNone = some true := by decide +kernel
  have hplanned : ((planCall (Rehearsal.Catalog.ofProcedure [.numeric "a" 0] []).session
      Rehearsal.CallScript.reportingOne.call (some "P")).run .refusingFirst).result.toOption.map
        (fun plan => plan.registration.source) = some .failed := by decide +kernel
  have hregistrations : Event.registrations ((planCall
      (Rehearsal.Catalog.ofProcedure [.numeric "a" 0] []).session
      Rehearsal.CallScript.reportingOne.call (some "P")).run .refusingFirst).journal =
        [(1, 4, false)] := by decide +kernel
  obtain ⟨found, w₁, hfound, hnone⟩ := exists_gives_of_map_eq_some hnamed
  obtain ⟨found', v₁, hfound', hnone'⟩ := exists_gives_of_map_eq_some hcalled
  obtain rfl := Option.isNone_iff_eq_none.mp hnone
  obtain rfl := Option.isNone_iff_eq_none.mp hnone'
  obtain ⟨plan, w', hplan, -⟩ := exists_gives_of_map_eq_some hplanned
  obtain ⟨r', v', j', hother⟩ := exists_ends (planCall Rehearsal.Catalog.unselected.session
    Rehearsal.CallScript.reportingOne.call (some "CALL p(?)")) Rehearsal.World.refusingFirst
  have hdriver : SameDriver (· = ·) (Rehearsal.Catalog.ofProcedure [.numeric "a" 0] []).session
      Rehearsal.Catalog.unselected.session Rehearsal.CallScript.reportingOne.call
      Rehearsal.CallScript.reportingOne.call := Rehearsal.sameDriver_sessions _ rfl rfl rfl
  obtain ⟨hsame, hagrees, -⟩ :=
    planCall_alike hdriver rfl hfound.result hfound'.result hplan hother
  cases hagrees with
  | ok hagrees =>
    exact ⟨plan, _, w', v', _, j', hplan, hother, hregistrations, hsame ▸ hregistrations, hagrees⟩

end ProcedureCall
