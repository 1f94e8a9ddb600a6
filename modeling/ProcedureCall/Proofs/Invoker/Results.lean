import ProcedureCall.Proofs.Invoker.Lifecycle
import ProcedureCall.Proofs.Plan.Slots
import ProcedureCall.Proofs.Postgres.Outputs

/-!
# The result of a call

An execution tells whether there is a result. If the driver tells the truth about its result sets,
then so does the execution: until the call is ended, the result is the driver's own if it has one,
and else the row of output values if that has columns (`result_stands`).

Whether there is a further result is told from the columns alone, without a look at whether the row
is there. `further_result_iff` says where that goes wrong, and `further_result_before_execution`
that it does.
-/

namespace ProcedureCall.Invoker

open ProcedureCall.Action

variable {σ ν π : Type} {i : Invoker σ ν π} {p : Progress} {w w' : σ} {notes : List Note}

/-! ### Asking for the result -/

/-- The result, from the result set that the driver has. -/
def resultOf (p : Progress) (native : Option QueryResult) : Option ResultSet :=
  (native.map .native).or
    (if p.projector.isCommitted && !p.projector.columns.isEmpty then some .projected else none)

theorem isSome_resultOf (p : Progress) (native : Option QueryResult) :
    (resultOf p native).isSome =
      (native.isSome || (p.projector.isCommitted && !p.projector.columns.isEmpty)) := by
  unfold resultOf
  cases native with
  | some result => rfl
  | none => cases p.projector.isCommitted && !p.projector.columns.isEmpty <;> rfl

theorem resultSet_gives_of {native : Option QueryResult}
    (h : i.call.resultSet.Gives w native w' notes) :
    i.resultSet.Gives (p, w) (resultOf p native) (p, w') (notes.map .note) := by
  have hdriver : (outside (i.call.resultSet.entering .note) :
      Action (Progress × σ) (Event ν π) (Option QueryResult)).Gives (p, w) native (p, w')
      (notes.map .note) :=
    ends_within.mpr ⟨w', ends_entering.mpr ⟨notes, h, rfl⟩, rfl⟩
  rw [← List.append_nil (notes.map _)]
  refine hdriver.bind ?_
  cases native with
  | some result => exact pure_gives _ _
  | none => exact (world_gives _).bind (pure_gives _ _)

theorem resultSet_fails_of {fault : Fault} (h : i.call.resultSet.Fails w fault w' notes) :
    i.resultSet.Fails (p, w) fault (p, w') (notes.map .note) :=
  fails_bind.mpr (Or.inl (ends_within.mpr ⟨w', ends_entering.mpr ⟨notes, h, rfl⟩, rfl⟩))

/-- There is said to be a further result if the driver says so or if there are columns. -/
theorem nextResults_ends {u v : Progress × σ} {r : Except Fault Bool} {k : List (Event ν π)} :
    i.nextResults.Ends u r v k ↔
      ∃ more w' notes, i.call.moreResults.Ends u.2 more w' notes ∧
        r = more.map (· || !u.1.projector.columns.isEmpty) ∧ v = (u.1, w') ∧
        k = notes.map .note := by
  have hdriver : ∀ {more w' notes}, i.call.moreResults.Ends u.2 more w' notes →
      (outside (i.call.moreResults.entering .note) :
        Action (Progress × σ) (Event ν π) Bool).Ends u more (u.1, w') (notes.map .note) :=
    fun h => ends_within.mpr ⟨_, ends_entering.mpr ⟨_, h, rfl⟩, rfl⟩
  have hends : ∀ {more w' notes}, i.call.moreResults.Ends u.2 more w' notes →
      i.nextResults.Ends u (more.map (· || !u.1.projector.columns.isEmpty)) (u.1, w')
        (notes.map .note) := by
    intro more w' notes h
    cases more with
    | error fault => exact ends_bind.mpr (Or.inl ⟨fault, rfl, hdriver h⟩)
    | ok more =>
      rw [← List.append_nil (notes.map _)]
      refine Gives.bind (hdriver h) ?_
      cases more with
      | true => exact pure_gives _ _
      | false => exact (world_gives _).bind (pure_gives _ _)
  constructor
  · intro h
    rcases hmore : i.call.moreResults.run u.2 with ⟨more, w', notes⟩
    obtain ⟨rfl, rfl, rfl⟩ := Ends.unique h (hends hmore)
    exact ⟨more, w', notes, hmore, rfl, rfl, rfl⟩
  · rintro ⟨more, w', notes, h, rfl, rfl, rfl⟩
    exact hends h

/-! ### Between the execution and the end -/

/-- What can be done with a call and with the row that is its result. -/
inductive Use where
  /-- Something with the call. -/
  | call (op : Operation)
  /-- Something with the row. -/
  | row (op : Projector.Operation)

/-- Does the use end the call or close its row? -/
def Use.isClosing : Use → Bool
  | .call op => op.isClosing
  | .row op => op = .close

/-- Makes use of the call, whatever comes of it. -/
def use (i : Invoker σ ν π) : Use → Action (Progress × σ) (Event ν π) Unit
  | .call op => i.perform op
  | .row op => discard (onProjector (op.perform i.fetch))

/-- Some use is made of the call, but one that ends it. -/
def GoesOn (i : Invoker σ ν π) (u v : Progress × σ) : Prop :=
  ∃ x r k, Use.isClosing x = false ∧ (i.use x).Ends u r v k

/-- The call was executed and not ended, and its row goes with it. -/
structure IsExecuted (p : Progress) : Prop where
  /-- The row goes with the call. -/
  inStep : p.InStep
  /-- The call was executed. -/
  isExecuted : p.isExecuted = true
  /-- The call was not ended. -/
  isOpen : p.isClosed = false

theorem IsExecuted.isCommitted (h : IsExecuted p) : p.projector.isCommitted = true := by
  rw [h.inStep.isCommitted, h.isExecuted, h.isOpen]
  rfl

theorem IsExecuted.of_sameStage {q : Progress} (h : IsExecuted p) (hsame : p.SameStage q) :
    IsExecuted q :=
  ⟨h.inStep.of_sameStage hsame, hsame.isExecuted.trans h.isExecuted, hsame.isClosed.trans h.isOpen⟩

/-- Once the call was executed, no use but the end of the call changes its stage. -/
theorem RequestsDo.stays_use {P : σ → List (Event ν π) → σ → Prop} (hP : i.RequestsDo P)
    {u v : Progress × σ} (hu : IsExecuted u.1) {x : Use} {r : Except Fault Unit}
    {k : List (Event ν π)} (hx : x.isClosing = false) (h : (i.use x).Ends u r v k) :
    Stays P u k v := by
  cases x with
  | call op =>
    by_cases hexecute : op = .execute
    · subst hexecute
      obtain ⟨result, hends⟩ := exists_ends_of_discard h
      rcases i.execute_cases hu.inStep hends with ⟨-, -, rfl, rfl⟩ | ⟨-, hfresh, -⟩
      · exact (chains_stays hP.toChains).nil _
      · simp [hu.isExecuted] at hfresh
    · exact hP.stays_perform hexecute hx _ _ _ _ h
  | row op =>
    cases hreading : op.isReading with
    | true => exact (stays_onProjector (hP.rowStays_reading hreading)).discard _ _ _ _ h
    | false =>
      obtain ⟨result, hends⟩ := exists_ends_of_discard h
      obtain ⟨y, hrow, rfl⟩ := ends_within.mp hends
      obtain ⟨rfl, rfl⟩ := Projector.edit_of_isCommitted hreading
        (by simpa [Use.isClosing] using hx) hu.isCommitted hrow
      exact (chains_stays hP.toChains).nil u

theorem stands_requests : i.RequestsDo fun w _ w' => i.call.Stands i.observe w w' where
  toChains := DriverCall.chains_stands
  bind key value := DriverCall.stands_asked fun h => .asked (.bind key value) h
  bindNull key code := DriverCall.stands_asked fun h => .asked (.bindNull key code) h
  tell key value := DriverCall.stands_asked fun h => .told key value h
  register slot code := DriverCall.stands_asked fun h => .asked (.register slot code) h
  read key := DriverCall.stands_asked fun h => .asked (.read key) (ends_discard h)
  wasNull := DriverCall.stands_entering fun h => .asked .wasNull (ends_discard h)
  resultSet := DriverCall.stands_entering fun h => .asked .resultSet (ends_discard h)
  moreResults := DriverCall.stands_entering fun h => .asked .moreResults (ends_discard h)

/-- From the execution to the end of the call the stage stays, and the driver neither executes the
call again nor ends it. -/
theorem stays_of_goesOn {u v : Progress × σ} (hu : IsExecuted u.1)
    (h : Relation.ReflTransGen i.GoesOn u v) :
    i.call.Stands i.observe u.2 v.2 ∧ u.1.SameStage v.1 := by
  induction h with
  | refl => exact ⟨.refl, .refl u.1⟩
  | tail _ hlast ih =>
    obtain ⟨x, r, k, hx, hends⟩ := hlast
    obtain ⟨hstands, hsame⟩ :=
      stands_requests.stays_use (hu.of_sameStage ih.2) hx hends
    exact ⟨ih.1.trans hstands, ih.2.trans hsame⟩

/-- An execution that gives a value was asked of the driver, which gave whether it has a result set
of its own. -/
theorem exists_native_of_execute {u v : Progress × σ} {answer : Bool} {k : List (Event ν π)}
    (hu : u.1.InStep) (h : i.execute.Gives u answer v k) :
    ∃ native notes, i.call.execute.Gives u.2 native v.2 notes ∧
      answer = (native || !u.1.projector.columns.isEmpty) ∧
      v.1.projector.columns = u.1.projector.columns ∧ IsExecuted v.1 := by
  rcases i.execute_cases hu h with
    ⟨-, ⟨message, hr⟩, -⟩ | ⟨hopen, -, result, w', notes, hexecute, -, hr, rfl⟩
  · cases hr
  · cases result with
    | error fault => cases hr
    | ok native =>
      cases hr
      exact ⟨native, notes, hexecute, rfl, rfl, hu.executed hopen, rfl, hopen⟩

/-- Where the driver tells of its result sets, there is a result exactly if the execution said
so. -/
theorem exists_result_of_execute {u v x : Progress × σ} {answer : Bool} {k : List (Event ν π)}
    (htells : i.call.TellsOfResult i.observe) (hu : u.1.InStep)
    (hexecute : i.execute.Gives u answer v k) (huses : Relation.ReflTransGen i.GoesOn v x) :
    ∃ native y notes, i.call.resultSet.Gives x.2 native y notes ∧
      x.1.projector.columns = u.1.projector.columns ∧ x.1.projector.isCommitted = true ∧
      answer = (resultOf x.1 native).isSome := by
  obtain ⟨told, notes, hdriver, rfl, hcolumns, hexecuted⟩ := exists_native_of_execute hu hexecute
  obtain ⟨hstands, hsame⟩ := stays_of_goesOn hexecuted huses
  obtain ⟨native, y, k, hset, rfl⟩ := htells hdriver hstands
  have hkept : x.1.projector.columns = u.1.projector.columns := hsame.columns.trans hcolumns
  have hcommitted := (hexecuted.of_sameStage hsame).isCommitted
  refine ⟨native, y, k, hset, hkept, hcommitted, ?_⟩
  rw [isSome_resultOf, hkept, hcommitted, Bool.true_and]

/-- **The execution tells whether there is a result.** A call on a server tells of its result sets
as long as nobody else touches it. With a driver that does so, let an invoker be made and used in
any way, and let then an execution give a value. Whatever use is made of the call and of the row
until the call is ended or the row closed, there is a result if and only if the execution said so.
The result is the driver's own if it has one, and else it is the row of output values, which is
offered exactly if the plan has columns. -/
theorem result_stands :
    (∀ {σ : Type} (c : Postgres.Call σ)
        (observe : Key → Value → Action (Postgres.World σ) Note Unit),
      (∀ key value, Does (fun w _ w' => w'.call = w.call) (observe key value)) →
      c.driverCall.TellsOfResult observe) ∧
    ∀ {σ ν π : Type} {s : Session σ ν π} {call : DriverCall σ} {text : Option String}
      {observe : Key → Value → Action σ Note Unit} {w w' : σ} {i : Invoker σ ν π} {p : Progress}
      {ops : List Operation} {j₀ j k : List (Event ν π)} {u v x : Progress × σ} {answer : Bool},
      call.TellsOfResult observe → (prepare s call text observe).Gives w (i, p) w' j₀ →
      Lives i (p, w') ops j u → i.execute.Gives u answer v k →
      Relation.ReflTransGen i.GoesOn v x →
      ∃ native y notes result z l, call.resultSet.Gives x.2 native y notes ∧
        i.resultSet.Gives x result z l ∧ (answer = true ↔ result.isSome = true) ∧
        result = (native.map .native).or
          (if i.plan.columns.isEmpty then none else some .projected) := by
  refine ⟨fun c _ hobserve => c.tellsOfResult hobserve, ?_⟩
  intro σ ν π s call text observe w w' i p ops j₀ j k u v x answer htells hprepared hlife hexecute
    huses
  obtain ⟨-, rfl, rfl, hstart⟩ := prepare_gives hprepared
  have htracks := hlife.tracks hstart
  obtain ⟨native, y, notes, hset, hcolumns, hcommitted, rfl⟩ :=
    exists_result_of_execute htells htracks.inStep hexecute huses
  refine ⟨native, y, notes, _, _, _, hset, resultSet_gives_of hset, Iff.rfl, ?_⟩
  rw [resultOf, hcommitted, hcolumns, htracks.columns]
  cases i.plan.columns <;> rfl

open Postgres in
/-- A call with two outputs says that there is a result, and there still is one after its row was
read and the call was, in vain, executed again. -/
theorem result_stands_of_two_outputs :
    ∃ (i : Invoker (World Rehearsal.ServerWorld) Node Routine) (p : Progress)
      (w' : World Rehearsal.ServerWorld) (j₀ j k : List (Event Node Routine))
      (u v x y : Progress × World Rehearsal.ServerWorld),
      (prepare twoOutputsCatalog.session
        (Call.driverCall ⟨twoOutputsCatalog.client, "CALL p(%s)"⟩) (some "CALL p(%s)")
        logBind).Gives { outside := {} } (i, p) w' j₀ ∧
      Lives i (p, w') [.bindAll [.int 1]] j u ∧ i.execute.Gives u true v k ∧
      (∃ r l, (i.use (.row .readNamed)).Ends v r x l) ∧
      (∃ r l, (i.use (.call .execute)).Ends x r y l) ∧
      ∃ result z l, i.resultSet.Gives y (some result) z l := by
  have hcalm : Rehearsal.ServerWorld.IsCalm {} := ⟨by simp, rfl⟩
  obtain ⟨r, hfind, hdeclares⟩ := exists_declares_twoOutputs
  obtain ⟨i, w', j₀, hprepared, hplanned⟩ :=
    prepare_gives_planned (c := twoOutputsCatalog) rfl hcalm hfind hdeclares
  obtain ⟨j, hbound⟩ := bindAll_gives hplanned.call_eq hplanned.observe_eq (fresh i) [.int 1]
    hplanned.bindings_eq
  have hlife : Lives i (fresh i, w') [.bindAll [.int 1]] j _ := Lives.start.step hbound
  obtain ⟨w₁, k, hexecute, -⟩ := hplanned.execute_gives
    (by simp [twoOutputRows, ParameterRow.isOutput]) rfl hcalm answer_twoOutputs
  rcases hread : (i.use (.row .readNamed)).run ((fresh i).executed, w₁) with ⟨a, x, l⟩
  rcases hagain : (i.use (.call .execute)).run x with ⟨b, y, m⟩
  have huses : Relation.ReflTransGen i.GoesOn ((fresh i).executed, w₁) y :=
    .tail (.single ⟨.row .readNamed, a, l, rfl, hread⟩) ⟨.call .execute, b, m, rfl, hagain⟩
  obtain ⟨hserver, htold⟩ := result_stands
  obtain ⟨-, -, -, result, z, n, -, hset, hanswer, -⟩ :=
    htold (hserver _ logBind fun _ _ => does_record fun _ => rfl) hprepared hlife hexecute huses
  obtain ⟨offered, rfl⟩ := Option.isSome_iff_exists.mp (hanswer.mp rfl)
  exact ⟨i, _, w', j₀, j, k, _, _, x, y, hprepared, hlife, hexecute, ⟨a, l, hread⟩,
    ⟨b, m, hagain⟩, offered, z, n, hset⟩

/-! ### Further results -/

/-- There is a result exactly if the driver has a result set, or if it has none and the row is there
and has columns. -/
theorem exists_result_iff {u : Progress × σ} :
    (∃ result x l, i.resultSet.Gives u (some result) x l) ↔
      (∃ result y notes, i.call.resultSet.Gives u.2 (some result) y notes) ∨
        (∃ y notes, i.call.resultSet.Gives u.2 none y notes) ∧
          u.1.projector.isCommitted = true ∧ u.1.projector.columns ≠ [] := by
  rcases gives_or_fails i.call.resultSet u.2 with
    ⟨native, y, notes, hgives⟩ | ⟨fault, y, notes, hfails⟩
  · have hset : i.resultSet.Gives u (resultOf u.1 native) (u.1, y) (notes.map .note) :=
      resultSet_gives_of hgives
    have hsome : (∃ result x l, i.resultSet.Gives u (some result) x l) ↔
        (resultOf u.1 native).isSome = true := by
      rw [Option.isSome_iff_exists]
      constructor
      · rintro ⟨result, x, l, h⟩
        exact ⟨result, (hset.unique h).1⟩
      · rintro ⟨result, hresult⟩
        exact ⟨result, _, _, hresult ▸ hset⟩
    rw [hsome, isSome_resultOf]
    cases native with
    | some result => exact iff_of_true rfl (Or.inl ⟨result, y, notes, hgives⟩)
    | none =>
      have hnone : ¬ ∃ result y notes, i.call.resultSet.Gives u.2 (some result) y notes := by
        rintro ⟨result, y', notes', h⟩
        cases (hgives.unique h).1
      simp [hnone, show ∃ y notes, i.call.resultSet.Gives u.2 none y notes from ⟨y, notes, hgives⟩]
  · have hset : i.resultSet.Fails u fault (u.1, y) (notes.map .note) := resultSet_fails_of hfails
    refine iff_of_false ?_ ?_
    · rintro ⟨result, x, l, h⟩
      exact h.not_fails hset
    · rintro (⟨result, y', notes', h⟩ | ⟨⟨y', notes', h⟩, -⟩)
      · exact h.not_fails hfails
      · exact h.not_fails hfails

/-- A driver that reports one output has no result set and announces none. -/
theorem announcesResult_reportingOne : Rehearsal.CallScript.reportingOne.call.AnnouncesResult := by
  intro w w₁ j h
  cases (h.unique (pure_gives false w)).1

/-- With that driver a call is planned with a column, and then it can be executed. -/
theorem prepare_reportingOne :
    ∃ (i : Invoker Rehearsal.World Rehearsal.Located Rehearsal.Located) (p : Progress)
      (w' : Rehearsal.World) (j₀ : List (Event Rehearsal.Located Rehearsal.Located)),
      (prepare (Rehearsal.Catalog.ofProcedure [.numeric "a" 0] []).session
        Rehearsal.CallScript.reportingOne.call (some "CALL p(?)") ignoreBind).Gives {} (i, p) w'
        j₀ ∧
      i.plan.columns.isEmpty = false ∧
      ((i.perform .execute).run (p, w')).world.1.isExecuted = true ∧
      ((i.perform .execute).run (p, w')).world.1.isClosed = false := by
  have hrun : ((prepare (Rehearsal.Catalog.ofProcedure [.numeric "a" 0] []).session
      Rehearsal.CallScript.reportingOne.call (some "CALL p(?)") ignoreBind).run
        {}).result.toOption.map
        (fun made =>
          let u := ((made.1.perform .execute).run (made.2,
            ((prepare (Rehearsal.Catalog.ofProcedure [.numeric "a" 0] []).session
              Rehearsal.CallScript.reportingOne.call (some "CALL p(?)") ignoreBind).run
                {}).world)).world
          (made.1.plan.columns.isEmpty, u.1.isExecuted, u.1.isClosed)) =
      some (false, true, false) := by
    decide +kernel
  obtain ⟨⟨i, p⟩, w', hprepared, hvalue⟩ := exists_gives_of_map_eq_some hrun
  rw [congrArg Outcome.world hprepared] at hvalue
  simp only [Prod.mk.injEq] at hvalue
  exact ⟨i, p, w', _, hprepared, hvalue⟩

/-- **When a further result is one.** With a driver that has a result set whenever it says that
there is a further one, and after whatever was done with a call: that there is said to be a further
result means that there is a result exactly if, where the driver says that there is none but the
plan has columns, the driver has a result set nonetheless, or it has none and the call was executed
and not ended. -/
theorem further_result_iff {s : Session σ ν π} {call : DriverCall σ} {text : Option String}
    {observe : Key → Value → Action σ Note Unit} {ops : List Operation} {j₀ j : List (Event ν π)}
    {u : Progress × σ} (hannounces : call.AnnouncesResult)
    (hprepared : (prepare s call text observe).Gives w (i, p) w' j₀)
    (hlife : Lives i (p, w') ops j u) :
    (∀ v k, i.nextResults.Gives u true v k →
      ∃ result x l, i.resultSet.Gives v (some result) x l) ↔
    ∀ y notes, call.moreResults.Gives u.2 false y notes → i.plan.columns ≠ [] →
      (∃ result z l, call.resultSet.Gives y (some result) z l) ∨
        (∃ z l, call.resultSet.Gives y none z l) ∧
          u.1.isExecuted = true ∧ u.1.isClosed = false := by
  obtain ⟨-, rfl, -, hstart⟩ := prepare_gives hprepared
  have htracks := hlife.tracks hstart
  have hcommitted : u.1.projector.isCommitted = true ↔
      u.1.isExecuted = true ∧ u.1.isClosed = false := by
    rw [htracks.inStep.isCommitted]
    simp
  have hthere : ∀ y, i.plan.columns ≠ [] →
      ((∃ result x l, i.resultSet.Gives (u.1, y) (some result) x l) ↔
        (∃ result z l, i.call.resultSet.Gives y (some result) z l) ∨
          (∃ z l, i.call.resultSet.Gives y none z l) ∧
            u.1.isExecuted = true ∧ u.1.isClosed = false) := by
    intro y hcolumns
    rw [exists_result_iff, hcommitted, htracks.columns]
    simp [hcolumns]
  constructor
  · intro h y notes hmore hcolumns
    refine (hthere y hcolumns).mp (h _ _ (nextResults_ends.mpr ⟨_, y, notes, hmore, ?_, rfl, rfl⟩))
    simp [Except.map, htracks.columns, hcolumns]
  · intro h v k hnext
    obtain ⟨more, y, notes, hmore, hr, rfl, -⟩ := nextResults_ends.mp hnext
    cases more with
    | error fault => cases hr
    | ok more =>
      cases more with
      | true =>
        obtain ⟨result, z, l, hset⟩ := hannounces hmore
        exact ⟨_, _, _, resultSet_gives_of hset⟩
      | false =>
        have hcolumns : i.plan.columns ≠ [] := by
          rw [← htracks.columns]
          intro hnil
          simp [Except.map, hnil] at hr
        exact (hthere y hcolumns).mpr (h y notes hmore hcolumns)

/-- After the execution of a call with one output a further result is said to be there, and it
is. -/
theorem further_result_after_execution :
    ∃ (i : Invoker Rehearsal.World Rehearsal.Located Rehearsal.Located) (p : Progress)
      (w' : Rehearsal.World) (j₀ j k l : List (Event Rehearsal.Located Rehearsal.Located))
      (u v x : Progress × Rehearsal.World) (result : ResultSet),
      (prepare (Rehearsal.Catalog.ofProcedure [.numeric "a" 0] []).session
        Rehearsal.CallScript.reportingOne.call (some "CALL p(?)") ignoreBind).Gives {} (i, p) w'
        j₀ ∧
      Lives i (p, w') [.execute] j u ∧ i.nextResults.Gives u true v k ∧
      i.resultSet.Gives v (some result) x l := by
  obtain ⟨i, p, w', j₀, hprepared, hcolumns, hexecuted, hopen⟩ := prepare_reportingOne
  obtain ⟨-, hcall, -, hstart⟩ := prepare_gives hprepared
  rcases hrun : (i.perform .execute).run (p, w') with ⟨r, u, j⟩
  rw [hrun] at hexecuted hopen
  have hlife : Lives i (p, w') [.execute] j u := Lives.start.step hrun
  have htracks := hlife.tracks hstart
  have hnext : i.nextResults.Gives u true (u.1, u.2) [] := by
    refine nextResults_ends.mpr ⟨.ok false, u.2, [], ?_, ?_, rfl, rfl⟩
    · rw [hcall]
      exact pure_gives false u.2
    · simp [Except.map, htracks.columns, hcolumns]
  obtain ⟨result, x, l, hset⟩ := (further_result_iff announcesResult_reportingOne hprepared
    hlife).mpr (fun y _ _ _ => Or.inr ⟨⟨y, [], pure_gives none y⟩, hexecuted, hopen⟩) _ _ hnext
  exact ⟨i, p, w', j₀, j, [], l, u, _, x, result, hprepared, hlife, hnext, hset⟩

/-- Before the execution of that call a further result is said to be there, and there is none. -/
theorem further_result_before_execution :
    ∃ (i : Invoker Rehearsal.World Rehearsal.Located Rehearsal.Located) (p : Progress)
      (w' : Rehearsal.World) (j₀ k l : List (Event Rehearsal.Located Rehearsal.Located))
      (v x : Progress × Rehearsal.World),
      Rehearsal.CallScript.reportingOne.call.AnnouncesResult ∧
      (prepare (Rehearsal.Catalog.ofProcedure [.numeric "a" 0] []).session
        Rehearsal.CallScript.reportingOne.call (some "CALL p(?)") ignoreBind).Gives {} (i, p) w'
        j₀ ∧
      i.nextResults.Gives (p, w') true v k ∧ i.resultSet.Gives v none x l := by
  obtain ⟨i, p, w', j₀, hprepared, hcolumns, -⟩ := prepare_reportingOne
  obtain ⟨-, hcall, -, rfl⟩ := prepare_gives hprepared
  have hmore : i.call.moreResults.Gives w' false w' [] := by
    rw [hcall]
    exact pure_gives false w'
  have hnone : i.call.resultSet.Gives w' none w' [] := by
    rw [hcall]
    exact pure_gives none w'
  refine ⟨i, _, w', j₀, _, _, _, _, announcesResult_reportingOne, hprepared,
    nextResults_ends.mpr ⟨.ok false, w', [], hmore, ?_, rfl, rfl⟩, resultSet_gives_of hnone⟩
  simp [Except.map, hcolumns]

end ProcedureCall.Invoker
