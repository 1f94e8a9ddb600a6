import ProcedureCall.Proofs.Plan.Reconciliation
import ProcedureCall.Proofs.Plan.Snapshot

/-!
# Counted twice, counted alike

The registration numbers the outputs of the catalog as it goes through all parameters, and the
reconciliation numbers them again when it makes columns of them. If the driver tells of no outputs,
both count the same list, and `columns_follow_registrations` says that they agree place by place:
the column at an index is read from the place that was registered for it, with the type that was
registered there.
-/

namespace ProcedureCall

open ProcedureCall.Action

variable {σ ν π : Type} {s : Session σ ν π} {call : DriverCall σ}

/-! ### The registration's count -/

/-- Anything but a registration that the driver refused. -/
def Event.IsNoRefusal (e : Event ν π) : Prop := ∀ slot code, e ≠ .registered slot code false

theorem getElem?_acceptedAll_declaredSlots {parameters : List Parameter} {i : Nat}
    (h : i < (declaredOutputs parameters).length) :
    (acceptedAll (declaredSlots parameters))[i]? =
      some ((i : Int) + 1, (declaredOutputs parameters)[i].dataType.code, true) := by
  have hslot : (declaredSlots parameters)[i]? =
      some ((i : Int) + 1, (declaredOutputs parameters)[i].dataType.code) := by
    change (((declaredOutputs parameters).zipIdx 1).map _)[i]? = _
    rw [List.getElem?_map, List.getElem?_zipIdx, List.getElem?_eq_getElem h]
    simp [Int.add_comm]
  rw [acceptedAll, List.getElem?_map, hslot]
  rfl

/-- If the driver refuses no place, all are registered. -/
theorem registerAll_of_noRefusal {slots : List (Int × Int)} {w : σ}
    (h : LeavesFrom Event.IsNoRefusal (registerAll call slots : Action σ (Event ν π) Unit) w) :
    ∃ w' j, (registerAll call slots : Action σ (Event ν π) Unit).Gives w () w' j := by
  rcases gives_or_fails (registerAll call slots : Action σ (Event ν π) Unit) w with
    ⟨v, w', j, hall⟩ | ⟨fault, w', j, hall⟩
  · exact ⟨w', j, hall⟩
  · obtain ⟨before, slot, code, after, -, hj⟩ := registerAll_fails hall
    have hrefused : Event.registered slot code false ∈ j :=
      Event.mem_registrations.mp (by rw [hj]; simp)
    exact absurd rfl (h _ _ _ hall _ hrefused slot code)

/-- If the parameters are read and all places of their outputs accepted, these are what a
registration from the catalog registers. -/
theorem registerFromCatalog_of_accepted {procedure : π} {parameters : List Parameter}
    {w w₁ w₂ : σ} {error : Option String} {notes : List Note} {j : List (Event ν π)}
    (hread : (s.parameters procedure).Gives w parameters w₁ notes)
    (hall : (registerAll call (declaredSlots parameters)).Gives w₁ () w₂ j) :
    ∃ k, (registerFromCatalog s call (some procedure) error).Gives w
        ⟨.catalog, (declaredOutputs parameters).length, error⟩ w₂ k ∧
      Event.registrations k = acceptedAll (declaredSlots parameters) := by
  have hdeclared : (registerDeclared s call procedure).Gives w (declaredOutputs parameters).length
      w₂ ((notes.map .note ++ [.parametersAsked procedure]) ++ (j ++ [])) := by
    rw [← length_declaredSlots]
    exact Gives.bind (ends_asked.mpr ⟨notes, hread, rfl⟩) (hall.bind (pure_gives _ _))
  refine ⟨_, (gives_attempt_ok.mpr hdeclared).bind
    ((record_gives _ _).bind (pure_gives _ _)), ?_⟩
  simp only [Event.registrations_append, Event.registrations_notes, registerAll_gives hall]
  simp [Event.registrations]

theorem registerFromCatalog_of_noRefusal {procedure : π} {parameters : List Parameter} {w : σ}
    {error : Option String} (hread : ((s.parameters procedure).run w).result = .ok parameters)
    (h : LeavesFrom Event.IsNoRefusal (registerFromCatalog s call (some procedure) error) w) :
    ∃ registration w' j,
      (registerFromCatalog s call (some procedure) error).Gives w registration w' j ∧
      Event.registrations j = acceptedAll (declaredSlots parameters) := by
  obtain ⟨w₁, notes, hparameters⟩ := exists_ends_of_result hread
  have hasked : (s.askParameters procedure).Gives w parameters w₁ _ :=
    ends_asked.mpr ⟨notes, hparameters, rfl⟩
  obtain ⟨w₂, j, hall⟩ := registerAll_of_noRefusal (h.first.of_attempt.second hasked).first
  obtain ⟨k, hgives, hk⟩ := registerFromCatalog_of_accepted hparameters hall
  exact ⟨_, w₂, k, hgives, hk⟩

variable (call) in
/-- A driver that told nothing fails its registration before it is asked for any place. -/
theorem registerReported_unavailable (reason : String) (w : σ) :
    (registerReported call (.unavailable reason) : Action σ (Event ν π) Nat).attempt.Gives w
      (.error (.tool .driver
        (if reason.isEmpty then "driver parameter metadata unavailable" else reason))) w [] :=
  gives_attempt_error.mpr ⟨rfl, fails_fail.mpr ⟨rfl, rfl, rfl⟩⟩

/-- Beside a driver that told nothing, the outputs that were read are registered. -/
theorem registerOutputs_of_accepted {procedure : π} {parameters : List Parameter} {reason : String}
    {w w₁ w₂ : σ} {notes : List Note} {j : List (Event ν π)}
    (hread : (s.parameters procedure).Gives w parameters w₁ notes)
    (hall : (registerAll call (declaredSlots parameters)).Gives w₁ () w₂ j) :
    ∃ registration k, (registerOutputs s call (.unavailable reason) (some procedure)).Gives w
      registration w₂ k := by
  obtain ⟨k, hregisters, -⟩ := registerFromCatalog_of_accepted hread hall
  exact ⟨_, _, (registerReported_unavailable call reason w).bind
    ((record_gives _ w).bind hregisters)⟩

/-- A driver that tells of no outputs leaves the registration to the catalog. -/
theorem registerOutputs_of_noRefusal {procedure : π} {parameters : List Parameter}
    {report : ReportSource} {w : σ}
    (hread : ∀ w, ((s.parameters procedure).run w).result = .ok parameters)
    (hsilent : report.isAvailable = false ∨ report.outputs = [])
    (h : LeavesFrom Event.IsNoRefusal (registerOutputs s call report (some procedure)) w) :
    ∃ registration w' j,
      (registerOutputs s call report (some procedure)).Gives w registration w' j ∧
      Event.registrations j = acceptedAll (declaredSlots parameters) := by
  cases report with
  | unavailable reason =>
    have hattempt := registerReported_unavailable call (ν := ν) (π := π) reason w
    obtain ⟨registration, w', j, hgives, hj⟩ := registerFromCatalog_of_noRefusal (hread w)
      ((h.second hattempt).second (record_gives _ _))
    exact ⟨registration, w', _, hattempt.bind ((record_gives _ _).bind hgives), hj⟩
  | available items =>
    have hempty : reportedSlots (.available items) = [] := by
      simpa [reportedSlots, Source.isAvailable] using hsilent
    have hattempt : (registerReported call (.available items) :
        Action σ (Event ν π) Nat).attempt.Gives w (.ok 0) w [] := by
      rw [gives_attempt_ok, registerReported, hempty]
      exact (pure_gives () w).bind (pure_gives 0 w)
    obtain ⟨w₁, notes, hparameters⟩ := exists_ends_of_result (hread w)
    have hasked : (s.hasOutputs (some procedure)).attempt.Gives w
        (.ok (parameters.any fun p => p.direction.isOutput)) w₁
        ((notes.map .note ++ [.parametersAsked procedure]) ++ []) :=
      gives_attempt_ok.mpr (Gives.bind (ends_asked.mpr ⟨notes, hparameters, rfl⟩) (pure_gives _ _))
    have hrest := (h.second hattempt).second hasked
    have hnone : Event.registrations
        ((notes.map .note ++ [.parametersAsked procedure]) ++ [] : List (Event ν π)) = [] := by
      simp [Event.registrations]
    cases hany : parameters.any fun p => p.direction.isOutput with
    | true =>
      rw [hany] at hasked hrest
      obtain ⟨registration, w', j, hgives, hj⟩ := registerFromCatalog_of_noRefusal (hread w₁) hrest
      refine ⟨registration, w', _, hattempt.bind (hasked.bind hgives), ?_⟩
      rw [List.nil_append, Event.registrations_append, hnone, hj, List.nil_append]
    | false =>
      -- the catalog declares no outputs, so nothing is to be registered
      rw [hany] at hasked
      have hdeclared : declaredSlots parameters = [] := by
        rw [← List.length_eq_zero_iff, length_declaredSlots, declaredOutputs,
          List.length_eq_zero_iff, List.filter_eq_nil_iff]
        simpa using hany
      refine ⟨{ source := .none }, w₁, _, hattempt.bind (hasked.bind (pure_gives _ _)), ?_⟩
      rw [List.nil_append, Event.registrations_append, hnone, hdeclared]
      rfl

/-! ### The columns' count -/

theorem getElem?_placed_catalogDrafts {declared : List Parameter} {i : Nat}
    (h : i < declared.length) :
    (placed (catalogDrafts declared))[i]? =
      some ⟨declared[i].name, declared[i].dataType, i, (i : Int) + 1⟩ := by
  have hdraft : (catalogDrafts declared)[i]? =
      some ⟨declared[i].name, declared[i].dataType, (i : Int) + 1⟩ := by
    rw [catalogDrafts, List.getElem?_map, List.getElem?_zipIdx, List.getElem?_eq_getElem h]
    simp [Int.add_comm]
  rw [placed, List.getElem?_map, List.getElem?_zipIdx, hdraft]
  simp

theorem length_placed_catalogDrafts (declared : List Parameter) :
    (placed (catalogDrafts declared)).length = declared.length := by
  simp [placed, catalogDrafts]

theorem map_name_placed_catalogDrafts (declared : List Parameter) :
    (placed (catalogDrafts declared)).map (·.name) = declared.map (·.name) := by
  refine List.ext_getElem? fun i => ?_
  rw [List.getElem?_map, List.getElem?_map]
  by_cases h : i < declared.length
  · rw [getElem?_placed_catalogDrafts h, List.getElem?_eq_getElem h]
    rfl
  · rw [List.getElem?_eq_none (by rw [length_placed_catalogDrafts]; omega),
      List.getElem?_eq_none (by omega)]
    rfl

/-- Beside a driver that tells of no outputs, the columns are those of the catalog alone, whether
the driver told nothing, told of none where the catalog declares some, or none are declared. -/
theorem reconcile_of_silent (s : Session σ ν π) (declared : List Parameter) {report : ReportSource}
    (hsilent : report.isAvailable = false ∨ report.outputs = []) (w : σ) :
    ∃ outcome w' j, (reconcile s (.available declared) report).Gives w
      ⟨outcome, placed (catalogDrafts declared)⟩ w' j := by
  cases report with
  | unavailable reason => exact ⟨.catalogOnly, w, [], pure_gives _ w⟩
  | available items =>
    have hempty : Source.outputs (.available items) = [] := by
      simpa [Source.isAvailable] using hsilent
    cases declared with
    | nil =>
      refine ⟨.matched, w, [], ?_⟩
      rw [reconcile, hempty]
      exact pure_gives _ w
    | cons p declared =>
      have hlength : (p :: declared).length ≠ (Source.outputs (.available items)).length := by
        simp [hempty]
      rw [reconcile, if_neg hlength]
      exact ⟨.countMismatch, w, _, (record_gives _ w).bind (pure_gives _ w)⟩

/-- The catalog tells of the declared outputs whenever its parameters can be read. -/
theorem catalogSource_of_read {procedure : π} {parameters : List Parameter} {w : σ}
    (hread : ((s.parameters procedure).run w).result = .ok parameters) :
    ∃ w' j, (catalogSource s (some procedure)).Gives w
      (.available (declaredOutputs parameters)) w' j := by
  obtain ⟨w', notes, hparameters⟩ := exists_ends_of_result hread
  exact ⟨w', _, (gives_attempt_ok.mpr (ends_asked.mpr ⟨notes, hparameters, rfl⟩)).bind
    (pure_gives _ _)⟩

/-- Beside a driver that tells nothing and refuses no place, a call of a procedure that is found and
whose parameters are read the same before and after the registration is planned with the columns of
the catalog. -/
theorem planCall_of_unavailable {text : Option String} {procedure : π} {parameters : List Parameter}
    {reason : String} {w w₁ w₂ w₃ w₄ w₅ : σ} {notes notes' : List Note}
    {j₁ j₂ j₃ : List (Event ν π)}
    (hfind : (s.find text).Gives w (some procedure) w₁ j₁)
    (hreport : (reportSource call).Gives w₁ (.unavailable reason) w₂ j₂)
    (hread : (s.parameters procedure).Gives w₂ parameters w₃ notes)
    (hall : (registerAll call (declaredSlots parameters)).Gives w₃ () w₄ j₃)
    (hagain : (s.parameters procedure).Gives w₄ parameters w₅ notes') :
    ∃ plan j, (planCall s call text).Gives w plan w₅ j ∧
      plan.columns = placed (catalogDrafts (declaredOutputs parameters)) := by
  obtain ⟨registration, j₄, hregisters⟩ := registerOutputs_of_accepted hread hall
  have hasked : (s.askParameters procedure).Gives w₄ parameters w₅
      (notes'.map .note ++ [.parametersAsked procedure]) := ends_asked.mpr ⟨notes', hagain, rfl⟩
  have hcatalog : (catalogSource s (some procedure)).Gives w₄
      (.available (declaredOutputs parameters)) w₅ _ :=
    (gives_attempt_ok.mpr hasked).bind (pure_gives _ _)
  have hreconcile : (reconcile s (.available (declaredOutputs parameters))
      (.unavailable reason)).Gives w₅
        ⟨.catalogOnly, placed (catalogDrafts (declaredOutputs parameters))⟩ w₅ [] := pure_gives _ _
  exact ⟨⟨text, _, some procedure, _, _, registration, _⟩, _, planCall_gives_iff.mpr
    ⟨⟨_, _, _, _, _, _, _, _, _, _, rfl, rfl, hfind, hreport, hregisters, hcatalog, hreconcile⟩,
      rfl, rfl⟩, rfl⟩

/-! ### Both counts -/

/-- **Registrations and columns agree place by place.** If the parameters of a procedure always read
the same, the driver tells of no outputs, and it refuses no place, then the registration asks for
the places 1, 2, 3, … in this order, each with the type code of the declared output there; and
whenever the catalog is asked for its outputs and these are reconciled with the driver's, in
whatever session, the column at an index has the name and the type of the declared output there and
is read from the place that was registered for it. -/
theorem columns_follow_registrations {τ μ ρ : Type} {procedure : π} {parameters : List Parameter}
    {report : ReportSource} {w : σ}
    (hsteady : ∀ v, ((s.parameters procedure).run v).result = .ok parameters)
    (hsilent : report.isAvailable = false ∨ report.outputs = [])
    (haccepted : ∀ slot code, Event.registered slot code false ∉
      ((registerOutputs s call report (some procedure)).run w).journal)
    (t : Session τ μ ρ) :
    ∃ registration w' j,
      (registerOutputs s call report (some procedure)).Gives w registration w' j ∧
      (Event.registrations j).length = (declaredOutputs parameters).length ∧
      (∀ i (h : i < (declaredOutputs parameters).length), (Event.registrations j)[i]? =
        some ((i : Int) + 1, (declaredOutputs parameters)[i].dataType.code, true)) ∧
      ∀ v u, ∃ catalog v' k r u' l, (catalogSource s (some procedure)).Gives v catalog v' k ∧
        (reconcile t catalog report).Gives u r u' l ∧
        r.columns.length = (declaredOutputs parameters).length ∧
        ∀ i (h : i < (declaredOutputs parameters).length), ∃ column, r.columns[i]? = some column ∧
          column.localIndex = i ∧ column.sourceOrdinal = (i : Int) + 1 ∧
          column.name = (declaredOutputs parameters)[i].name ∧
          (Event.registrations j)[i]? =
            some (column.sourceOrdinal, column.dataType.code, true) := by
  have hnoRefusal : LeavesFrom Event.IsNoRefusal
      (registerOutputs s call report (some procedure)) w := by
    refine leavesFrom_iff.mpr fun e he slot code hrefused => ?_
    rw [hrefused] at he
    exact haccepted slot code he
  obtain ⟨registration, w', j, hregisters, hj⟩ :=
    registerOutputs_of_noRefusal hsteady hsilent hnoRefusal
  have hplaces : ∀ i (h : i < (declaredOutputs parameters).length), (Event.registrations j)[i]? =
      some ((i : Int) + 1, (declaredOutputs parameters)[i].dataType.code, true) := by
    intro i h
    rw [hj]
    exact getElem?_acceptedAll_declaredSlots h
  refine ⟨registration, w', j, hregisters, ?_, hplaces, fun v u => ?_⟩
  · rw [hj, acceptedAll, List.length_map, length_declaredSlots]
  · obtain ⟨v', k, hcatalog⟩ := catalogSource_of_read (hsteady v)
    obtain ⟨outcome, u', l, hreconcile⟩ :=
      reconcile_of_silent t (declaredOutputs parameters) hsilent u
    refine ⟨_, v', k, _, u', l, hcatalog, hreconcile, length_placed_catalogDrafts _, fun i h => ?_⟩
    exact ⟨_, getElem?_placed_catalogDrafts h, rfl, rfl, rfl, hplaces i h⟩

/-- An input comes before the output, and the output is registered at place 1 and read from it. -/
theorem column_follows_registration :
    ∃ (registration : Registration) (w' : Unit) (j : List (Event Unit Unit))
      (r : Reconciliation) (u' : Unit) (l : List (Event Unit Unit)),
      (registerOutputs (Session.steady [⟨"n", ⟨"INTEGER", 4, .numeric⟩, .input, 0⟩, .numeric "a" 1])
        { DriverCall.refusing (.tool .driver "refused") with register := fun _ _ => pure () }
        (.unavailable "no metadata") (some ())).Gives () registration w' j ∧
      Event.registrations j = [(1, 4, true)] ∧
      (reconcile (Session.steady []) (.available [.numeric "a" 1])
        (.unavailable "no metadata")).Gives () r u' l ∧
      ∃ column, r.columns[0]? = some column ∧ column.name = "a" ∧ column.sourceOrdinal = 1 := by
  have hregistrations : Event.registrations ((registerOutputs
      (Session.steady [⟨"n", ⟨"INTEGER", 4, .numeric⟩, .input, 0⟩, .numeric "a" 1])
      { DriverCall.refusing (.tool .driver "refused") with register := fun _ _ => pure () }
      (.unavailable "no metadata") (some ())).run ()).journal = [(1, 4, true)] := by
    decide +kernel
  obtain ⟨registration, w', j, hregisters, -, -, hcolumns⟩ :=
    @columns_follow_registrations Unit Unit Unit
      (Session.steady [⟨"n", ⟨"INTEGER", 4, .numeric⟩, .input, 0⟩, .numeric "a" 1])
      { DriverCall.refusing (.tool .driver "refused") with register := fun _ _ => pure () }
      Unit Unit Unit () [⟨"n", ⟨"INTEGER", 4, .numeric⟩, .input, 0⟩, .numeric "a" 1]
      (.unavailable "no metadata") () (fun _ => rfl) (Or.inl rfl)
      (fun slot code hrefused => by
        have hmem := Event.mem_registrations.mpr hrefused
        rw [hregistrations] at hmem
        simp at hmem)
      (Session.steady [])
  obtain ⟨catalog, v', k, r, u', l, hcatalog, hreconcile, -, hat⟩ := hcolumns () ()
  obtain rfl : catalog = .available [.numeric "a" 1] := catalogSource_some hcatalog
  obtain ⟨column, hcolumn, -, hordinal, hname, -⟩ := hat 0 (by decide)
  refine ⟨registration, w', j, r, u', l, hregisters, ?_, hreconcile, column, hcolumn, hname,
    hordinal⟩
  rw [← hregistrations]
  exact congrArg (fun o => Event.registrations o.journal) (Eq.symm hregisters)

end ProcedureCall
