import Mathlib.Data.List.Induction
import ProcedureCall.Proofs.Invoker.Steps

/-!
# The life of an invoker

Whatever is done with an invoker, in whatever order and however often an operation fails, the driver
sees it in one form only: some executions that fail, then one that does not, if it comes to that,
and then the end of the call, if it comes to that. `Tracks` says so of a point of a life, together
with how far the progress has come; every operation keeps it (`Tracks.step`), and so it holds
throughout every life (`Lives.tracks`).
-/

namespace ProcedureCall.Invoker

open ProcedureCall.Action

variable {σ ν π : Type}

/-- The invoker lives from its start through some operations, which leave a journal. An operation
that fails is one of them as any other. -/
inductive Lives (i : Invoker σ ν π) (start : Progress × σ) :
    List Operation → List (Event ν π) → Progress × σ → Prop where
  /-- Nothing was done yet. -/
  | start : Lives i start [] [] start
  /-- One more operation is done. -/
  | step {ops : List Operation} {op : Operation} {j k : List (Event ν π)} {u v : Progress × σ}
      {r : Except Fault Unit} : Lives i start ops j u → (i.perform op).Ends u r v k →
      Lives i start (ops ++ [op]) (j ++ k) v

/-- What the driver is asked by a call that comes to this progress: executions that fail, one that
does not, the end. -/
def course (failures : Nat) (p : Progress) : List Milestone :=
  List.replicate failures (.executed false) ++
    ((if p.isExecuted then [.executed true] else []) ++ if p.isClosed then [.closed] else [])

/-- The progress of an invoker goes with the operations that were done and with the milestones that
were left. -/
structure Tracks (i : Invoker σ ν π) (ops : List Operation) (milestones : List Milestone)
    (p : Progress) : Prop where
  /-- The row goes with the invoker. -/
  inStep : p.InStep
  /-- The columns are those of the plan. -/
  columns : p.projector.columns = i.plan.columns
  /-- The call was ended if it was asked to. -/
  isClosed : p.isClosed = ops.any Operation.isClosing
  /-- The driver was asked what leads to this progress. -/
  milestones_eq : ∃ failures, milestones = course failures p

variable {i : Invoker σ ν π} {ops : List Operation} {milestones : List Milestone} {p q : Progress}

/-! ### One operation -/

theorem Tracks.idle (h : Tracks i ops milestones p) {op : Operation} (hop : op.isClosing = false)
    (hstage : p.SameStage q) : Tracks i (ops ++ [op]) milestones q where
  inStep := h.inStep.of_sameStage hstage
  columns := hstage.columns.trans h.columns
  isClosed := by simp [hstage.isClosed, h.isClosed, hop]
  milestones_eq := by
    obtain ⟨failures, rfl⟩ := h.milestones_eq
    exact ⟨failures, by rw [course, course, hstage.isExecuted, hstage.isClosed]⟩

theorem Tracks.execute (h : Tracks i ops milestones p) {r : Except Fault Bool} {m : List Milestone}
    (hexecutes : Executes p r m q) : Tracks i (ops ++ [.execute]) (milestones ++ m) q := by
  have hops : (ops ++ [Operation.execute]).any Operation.isClosing =
      ops.any Operation.isClosing := by
    simp [Operation.isClosing]
  obtain ⟨failures, rfl⟩ := h.milestones_eq
  cases hexecutes with
  | refused =>
    rw [List.append_nil]
    exact ⟨h.inStep, h.columns, hops ▸ h.isClosed, failures, rfl⟩
  | failed hopen hfresh =>
    refine ⟨h.inStep, h.columns, hops ▸ h.isClosed, failures + 1, ?_⟩
    simp [course, hopen, hfresh, List.replicate_succ']
  | succeeded hopen hfresh =>
    refine ⟨h.inStep.executed hopen, h.columns, hops ▸ h.isClosed, failures, ?_⟩
    simp [course, hopen, hfresh, Progress.executed]

theorem Tracks.close (h : Tracks i ops milestones p) {op : Operation} (hop : op.isClosing = true)
    {m : List Milestone} (hcloses : Closes p m q) : Tracks i (ops ++ [op]) (milestones ++ m) q := by
  have hops : (ops ++ [op]).any Operation.isClosing = true := by simp [hop]
  obtain ⟨failures, rfl⟩ := h.milestones_eq
  cases hcloses with
  | again hclosed =>
    rw [List.append_nil]
    exact ⟨h.inStep, h.columns, hclosed.trans hops.symm, failures, rfl⟩
  | first hopen =>
    refine ⟨p.inStep_closed, h.columns, hops.symm, failures, ?_⟩
    cases hexecuted : p.isExecuted <;> simp [course, hopen, hexecuted]

/-- Every operation keeps the progress in step with what was done. -/
theorem Tracks.step {op : Operation} {u v : Progress × σ} {r : Except Fault Unit}
    {k : List (Event ν π)} (h : Tracks i ops milestones u.1)
    (hop : (i.perform op).Ends u r v k) :
    Tracks i (ops ++ [op]) (milestones ++ Event.milestones k) v.1 := by
  cases hclosing : op.isClosing with
  | true =>
    have hclose : i.close.Ends u r v k := by
      cases op with
      | close => exact hop
      | leave => exact hop
      | _ => cases hclosing
    exact h.close hclosing (i.close_ends hclose)
  | false =>
    by_cases hexecute : op = .execute
    · subst hexecute
      obtain ⟨result, hends⟩ := exists_ends_of_discard hop
      exact h.execute (i.execute_ends h.inStep hends)
    · obtain ⟨hk, hstage⟩ := i.idles_perform hexecute hclosing _ _ _ _ hop
      rw [hk, List.append_nil]
      exact h.idle hclosing hstage

/-! ### A whole life -/

/-- An invoker is made with the columns of its plan, and making it asks the driver for neither an
execution nor an end. -/
theorem prepare_gives {s : Session σ ν π} {call : DriverCall σ} {text : Option String}
    {observe : Key → Value → Action σ Note Unit} {w w' : σ} {j : List (Event ν π)}
    (h : (prepare s call text observe).Gives w (i, p) w' j) :
    (planCall s call text).Gives w i.plan w' j ∧ i.call = call ∧ i.observe = observe ∧
      p = { projector := { columns := i.plan.columns } } := by
  obtain ⟨plan, w₁, j₁, j₂, hplan, hrest, rfl⟩ := gives_bind.mp h
  rw [Projector.addColumns_eq rfl] at hrest
  obtain ⟨hmade, rfl, rfl⟩ := Ends.unique hrest ((pure_gives _ w₁).bind (pure_gives _ w₁))
  cases hmade
  rw [List.append_nil, List.append_nil]
  exact ⟨hplan, rfl, rfl, rfl⟩

theorem milestones_planCall {s : Session σ ν π} {call : DriverCall σ} {text : Option String} :
    Does (fun _ j _ => Event.milestones j = []) (planCall s call text) :=
  does_planCall quiet_milestones
    { selected := milestones_asked _ fun _ => rfl
      child := fun _ _ => milestones_asked _ fun _ => rfl
      procedure := fun _ _ => milestones_asked _ fun _ => rfl
      parameters := fun _ => milestones_asked _ fun _ => rfl
      localType := fun _ => milestones_asked _ fun _ => rfl
      report := milestones_asked _ fun _ => rfl
      register := fun _ _ => milestones_asked _ fun _ => rfl } text

/-- Throughout its life the progress of an invoker goes with what was done. -/
theorem Lives.tracks {start : Progress × σ}
    (hstart : start.1 = { projector := { columns := i.plan.columns } })
    {j : List (Event ν π)} {u : Progress × σ} (h : Lives i start ops j u) :
    Tracks i ops (Event.milestones j) u.1 := by
  induction h with
  | start =>
    rw [hstart]
    exact ⟨⟨rfl, rfl⟩, rfl, rfl, 0, rfl⟩
  | step _ hop ih =>
    rw [Event.milestones_append]
    exact ih.step hop

/-- Operations can be done in any order and any number. -/
theorem exists_lives (i : Invoker σ ν π) (start : Progress × σ) (ops : List Operation) :
    ∃ j u, Lives i start ops j u := by
  induction ops using List.reverseRecOn with
  | nil => exact ⟨[], start, .start⟩
  | append_singleton ops op ih =>
    obtain ⟨j, u, h⟩ := ih
    obtain ⟨v, k, hop⟩ := exists_ends_of_result (show ((i.perform op).run u).result = _ from rfl)
    exact ⟨_, v, h.step hop⟩

/-! ### What a course tells -/

theorem executed_mem_course {failures : Nat} :
    .executed true ∈ course failures p ↔ p.isExecuted = true := by
  simp only [course, List.mem_append, List.mem_replicate]
  cases p.isExecuted <;> cases p.isClosed <;> simp

theorem closed_mem_course {failures : Nat} : .closed ∈ course failures p ↔ p.isClosed = true := by
  simp only [course, List.mem_append, List.mem_replicate]
  cases p.isExecuted <;> cases p.isClosed <;> simp

theorem count_closed_course (failures : Nat) :
    (course failures p).count .closed = if p.isClosed then 1 else 0 := by
  simp only [course, List.count_append, List.count_replicate]
  cases p.isExecuted <;> cases p.isClosed <;> rfl

/-- What comes before an execution is an execution that failed. -/
theorem eq_failed_of_course {failures : Nat} {before after : List Milestone} {accepted : Bool}
    (h : course failures p = before ++ .executed accepted :: after) :
    ∀ m ∈ before, m = .executed false := by
  have hpairwise : (course failures p).Pairwise fun a b =>
      ∀ accepted, b = .executed accepted → a = .executed false := by
    simp only [course, List.pairwise_append, List.mem_replicate, List.pairwise_replicate]
    cases p.isExecuted <;> cases p.isClosed <;> simp
  rw [h, List.pairwise_append] at hpairwise
  exact fun m hm => hpairwise.2.2 m hm _ (by simp) accepted rfl

/-! ### The driver's view -/

/-- The driver is asked for an execution unless the call was executed or ended before. -/
theorem Tracks.asks_iff (h : Tracks i ops milestones p) {u v : Progress × σ} (hu : u.1 = p)
    {r : Except Fault Bool} {k : List (Event ν π)} (hends : i.execute.Ends u r v k) :
    (∃ accepted, .executed accepted ∈ k) ↔ .executed true ∉ milestones ∧ .closed ∉ milestones := by
  obtain ⟨failures, rfl⟩ := h.milestones_eq
  subst hu
  simp only [← Event.executed_mem_milestones, executed_mem_course, closed_mem_course,
    Bool.not_eq_true]
  generalize hm : Event.milestones k = m
  have hexecutes := i.execute_ends h.inStep hends
  rw [hm] at hexecutes
  generalize v.1 = q at hexecutes
  cases hexecutes with
  | refused hrefused =>
    rcases hrefused with hclosed | hexecuted
    · simp [hclosed]
    · simp [hexecuted]
  | failed hopen hfresh => simp [hopen, hfresh]
  | succeeded hopen hfresh => simp [hopen, hfresh]

/-- An execution that fails changes nothing, and the driver did not succeed in it. -/
theorem Tracks.of_execute_fails (h : Tracks i ops milestones p) {u v : Progress × σ} (hu : u.1 = p)
    {fault : Fault} {k : List (Event ν π)} (hfails : i.execute.Fails u fault v k) :
    v.1 = p ∧ .executed true ∉ k ∧
      (.executed false ∈ k → p.isExecuted = false ∧ p.isClosed = false) := by
  subst hu
  simp only [← Event.executed_mem_milestones]
  generalize hm : Event.milestones k = m
  have hexecutes := i.execute_ends h.inStep hfails
  rw [hm] at hexecutes
  generalize v.1 = q at hexecutes ⊢
  generalize hr : (.error fault : Except Fault Bool) = r at hexecutes
  cases hexecutes with
  | refused => simp
  | failed hopen hfresh => simp [hopen, hfresh]
  | succeeded => cases hr

/-- **Executed at most once, ended once.** In every life of an invoker that was made for a plan:
the driver is not asked for an execution after one that succeeded, nor after the end; an execution
asks it exactly if neither was before; one that fails leaves the progress as it was, and if it was
the driver that failed, the call is not executed, its row not committed, and the driver will be
asked again; the row is committed exactly if an execution succeeded and the call was not ended; the
driver is asked for the end once if the call was ended at all, however often; and the columns remain
those of the plan. -/
theorem executes_and_closes_once {s : Session σ ν π} {call : DriverCall σ} {text : Option String}
    {observe : Key → Value → Action σ Note Unit} {w w' : σ} {j₀ j : List (Event ν π)}
    {u : Progress × σ} (hprepared : (prepare s call text observe).Gives w (i, p) w' j₀)
    (hlife : Lives i (p, w') ops j u) :
    (∀ before accepted after, j₀ ++ j = before ++ .executed accepted :: after →
      .executed true ∉ before ∧ .closed ∉ before) ∧
    (∀ r v k, i.execute.Ends u r v k → ((∃ accepted, .executed accepted ∈ k) ↔
      .executed true ∉ j₀ ++ j ∧ .closed ∉ j₀ ++ j)) ∧
    (∀ fault v k, i.execute.Fails u fault v k → v.1 = u.1 ∧ .executed true ∉ k ∧
      (.executed false ∈ k → v.1.isExecuted = false ∧ v.1.projector.isCommitted = false ∧
        ∀ r' v' k', i.execute.Ends v r' v' k' → ∃ accepted, .executed accepted ∈ k')) ∧
    (u.1.projector.isCommitted = true ↔ .executed true ∈ j₀ ++ j ∧ .closed ∉ j₀ ++ j) ∧
    (Event.milestones (j₀ ++ j)).count .closed = (if ops.any Operation.isClosing then 1 else 0) ∧
    u.1.projector.columns = i.plan.columns := by
  obtain ⟨hplan, -, -, hstart⟩ := prepare_gives hprepared
  have htracks := hlife.tracks hstart
  have hmilestones : Event.milestones (j₀ ++ j) = Event.milestones j := by
    rw [Event.milestones_append, milestones_planCall _ _ _ _ hplan, List.nil_append]
  obtain ⟨failures, hcourse⟩ := htracks.milestones_eq
  have hexecuted : .executed true ∈ j₀ ++ j ↔ u.1.isExecuted = true := by
    rw [← Event.executed_mem_milestones, hmilestones, hcourse, executed_mem_course]
  have hclosed : .closed ∈ j₀ ++ j ↔ u.1.isClosed = true := by
    rw [← Event.closed_mem_milestones, hmilestones, hcourse, closed_mem_course]
  have hasks : ∀ r v k, i.execute.Ends u r v k → ((∃ accepted, .executed accepted ∈ k) ↔
      .executed true ∉ j₀ ++ j ∧ .closed ∉ j₀ ++ j) := by
    intro r v k hends
    rw [htracks.asks_iff rfl hends, ← hmilestones, Event.executed_mem_milestones,
      Event.closed_mem_milestones]
  refine ⟨?_, hasks, ?_, ?_, ?_, htracks.columns⟩
  · intro before accepted after hj
    rw [← hmilestones, hj] at hcourse
    rw [Event.milestones_append] at hcourse
    have hbefore := eq_failed_of_course hcourse.symm
    rw [← Event.executed_mem_milestones, ← Event.closed_mem_milestones]
    exact ⟨fun h => absurd (hbefore _ h) (by decide), fun h => absurd (hbefore _ h) (by decide)⟩
  · intro fault v k hfails
    obtain ⟨hsame, hnot, hdriver⟩ := htracks.of_execute_fails rfl hfails
    refine ⟨hsame, hnot, fun hfailed => ?_⟩
    obtain ⟨hfresh, hopen⟩ := hdriver hfailed
    rw [hsame]
    refine ⟨hfresh, by simp [htracks.inStep.isCommitted, hfresh], fun r' v' k' hagain => ?_⟩
    rw [htracks.asks_iff hsame hagain, hcourse, executed_mem_course, closed_mem_course]
    simp [hfresh, hopen]
  · rw [hexecuted, hclosed, htracks.inStep.isCommitted]
    simp
  · rw [hmilestones, hcourse, count_closed_course, htracks.isClosed]

/-- Executed twice and ended twice, the driver is asked for the end once. -/
theorem closed_once :
    ∃ (i : Invoker Unit Unit Unit) (p : Progress) (w' : Unit) (j₀ j : List (Event Unit Unit))
      (u : Progress × Unit),
      (prepare (Session.refusing ⟨".", "\"", .upper, false⟩ (.tool .catalog "refused"))
        { DriverCall.refusing (.tool .driver "refused") with execute := pure true }
        (some "CALL p(?)") ignoreBind).Gives () (i, p) w' j₀ ∧
      Lives i (p, w') [.execute, .execute, .close, .leave] j u ∧
      (Event.milestones (j₀ ++ j)).count .closed = 1 := by
  have hrun : ((prepare (Session.refusing ⟨".", "\"", .upper, false⟩ (.tool .catalog "refused"))
      { DriverCall.refusing (.tool .driver "refused") with execute := pure true }
      (some "CALL p(?)") ignoreBind).run ()).result.toOption.map (fun made => made.2.isExecuted) =
        some false := by
    decide +kernel
  obtain ⟨⟨i, p⟩, w', hprepared, -⟩ := exists_gives_of_map_eq_some hrun
  obtain ⟨j, u, hlife⟩ := exists_lives i (p, w') [.execute, .execute, .close, .leave]
  obtain ⟨-, -, -, -, hclosed, -⟩ := executes_and_closes_once hprepared hlife
  exact ⟨i, p, w', _, j, u, hprepared, hlife, hclosed⟩

end ProcedureCall.Invoker
