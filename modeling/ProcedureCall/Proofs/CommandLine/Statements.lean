import ProcedureCall.CommandLine.Run
import ProcedureCall.Proofs.Invoker.Lifecycle
import ProcedureCall.Proofs.Postgres.Call
import ProcedureCall.Proofs.Postgres.Catalog
import ProcedureCall.Rehearsal.Server

/-!
# The statements of a command

A procedure may do anything, so it matters which statements a command hands to the client, and how
often. Resolving and planning hand over statements about the catalog and nothing else; calling
hands over the call text after these, once at most, and nothing after it
(`call_text_once_and_last`). Three things are shown for it: planning consults the catalog only
(`consults_runResolve`, `withInvoker_ends`), an execution hands over the call text
(`queries_execution`), and all else that is done with a call is silent.
-/

namespace ProcedureCall.CommandLine

open ProcedureCall.Action Postgres

variable {σ : Type}

/-! ### Planning on a server -/

/-- The statements are about the catalog, and what is bound stays bound. -/
def Consults (w : World σ) (statements : List (String × Arguments)) (w' : World σ) : Prop :=
  (∀ q ∈ statements, q.1 ∈ catalogStatements) ∧ w'.call.bindings = w.call.bindings

theorem chains_consults : Chains (Consults (σ := σ)) where
  nil _ := ⟨by simp, rfl⟩
  append h₁ h₂ := ⟨List.forall_mem_append.mpr ⟨h₁.1, h₂.1⟩, h₂.2.trans h₁.2⟩

theorem looksUp_consults (c : Catalog σ) : c.LooksUp fun w j w' => Consults w (queries j) w' where
  toChains := chains_queries chains_consults
  query sql hsql arguments := (c.client.does_query sql arguments).mono fun w j w' ⟨hj, hsame⟩ =>
    ⟨by simpa [hj] using hsql, by rw [hsame.call]⟩
  found _ _ := ⟨by simp [queries], rfl⟩

/-- No request of planning hands over anything but a statement about the catalog. -/
theorem planningDoes_consults (catalog : Catalog σ) (call : Call σ) :
    PlanningDoes catalog.session call.driverCall
      fun w (j : List RunEvent) w' => Consults w (Event.queries j) w' := by
  have hlooks := looksUp_consults catalog
  have hregister : ∀ slot code, Does (fun w j w' => Consults w (queries j) w')
      (call.driverCall.register slot code) := by
    intro slot code w r w' j h
    obtain ⟨rfl, rfl, rfl⟩ := Ends.unique h (call.register_gives slot code w)
    exact ⟨by simp [queries], rfl⟩
  exact
    { selected := queries_asked hlooks.selected fun _ => rfl
      child := fun node name => queries_asked (hlooks.child node name) fun _ => rfl
      procedure := fun node name => queries_asked (hlooks.procedure node name) fun _ => rfl
      parameters := fun r => queries_asked
        (hlooks.parameters (fun _ _ => ⟨by simp [queries], rfl⟩) r) fun _ => rfl
      localType := fun _ => queries_asked (does_pure hlooks.toChains _) fun _ => rfl
      report := queries_asked (does_fail hlooks.toChains _) fun _ => rfl
      register := fun slot code => queries_asked (hregister slot code) fun _ => rfl }

/-! ### The commands that do not call -/

theorem consults_runResolve (catalog : Catalog σ) (text : String) :
    Does (fun w j w' => Consults w (Event.queries j) w') (runResolve catalog.session text) := by
  have hP := quiet_queries (ν := Node) (π := Routine) (chains_consults (σ := σ))
  have h := planningDoes_consults catalog ⟨catalog.client, text⟩
  have hfound : Does (fun w j w' => Consults w (Event.queries j) w')
      (findNamed catalog.session text) := by
    unfold findNamed
    split
    · exact Session.does_find hP h.selected h.child h.procedure _
    · exact Session.does_resolve hP h.selected h.child h.procedure _
  refine hfound.bind hP.toChains fun found => ?_
  cases found with
  | none => exact does_fail hP.toChains _
  | some procedure =>
    exact (h.parameters procedure).bind hP.toChains fun _ => does_pure hP.toChains _

/-! ### Preparing a call -/

/-- A call is prepared, then used and ended beside its progress. -/
theorem withInvoker_eq {α : Type} (catalog : Catalog σ) (text : String)
    (use : Invoker (World σ) Node Routine → Action (Progress × World σ) RunEvent α) :
    withInvoker catalog text use =
      (Invoker.prepare catalog.session (Call.driverCall ⟨catalog.client, text⟩) (some text)
          logBind >>= fun made =>
        ((use made.1).ensuring made.1.close).within (fun w => (made.2, w)) fun u _ => u.2) :=
  rfl

/-- No statement is handed over. -/
def Silent {τ : Type} (_ : τ) (j : List RunEvent) (_ : τ) : Prop := Event.queries j = []

theorem chains_silent {τ : Type} : Chains (Silent (τ := τ)) :=
  (quiet_queries chains_eq_nil).toChains

theorem silent_change {τ : Type} (f : τ → τ) : Does Silent (change f : Action τ RunEvent Unit) :=
  does_change fun _ => rfl

theorem silent_outside {α : Type} {a : Action (World σ) RunEvent α} (ha : Does Silent a) :
    Does Silent (Invoker.outside a) :=
  ha.within fun _ _ _ h => h

theorem silent_asked {α : Type} {a : Action (World σ) Note α} {entry : Bool → RunEvent}
    (ha : Does (fun _ j _ => queries j = []) a)
    (h : ∀ accepted, Event.queries [entry accepted] = []) :
    Does Silent ((a.entering .note).noting entry) :=
  queries_asked (R := fun _ qs _ => qs = []) ha h

section

variable {i : Invoker (World σ) Node Routine} {c : Call σ}

/-- The end of a call hands over nothing. -/
theorem silent_close (hcall : i.call = c.driverCall) : Does Silent i.close := by
  have hclose : Does (fun _ j _ => queries j = []) c.driverCall.close :=
    Call.unqueried_state.bind (chains_queries chains_eq_nil) fun _ => Call.unqueried_update _
  refine (does_world chains_silent).bind chains_silent fun u => ?_
  split
  · exact does_pure chains_silent _
  · refine (silent_change _).bind chains_silent fun _ => silent_outside ?_
    rw [hcall]
    exact silent_asked hclose fun _ => rfl

end

/-- Preparing a call hands over statements about the catalog only; if it fails, that is all, and
else what is done with the call follows, and its end hands over nothing. -/
theorem withInvoker_ends {α : Type} {catalog : Catalog σ} {text : String}
    {use : Invoker (World σ) Node Routine → Action (Progress × World σ) RunEvent α}
    {v : σ} {w' : World σ} {r : Except Fault α} {j : List RunEvent}
    (h : (withInvoker catalog text use).Ends { outside := v } r w' j) :
    ∃ statements : List (String × Arguments), (∀ q ∈ statements, q.1 ∈ catalogStatements) ∧
      (Event.queries j = statements ∨ ∃ (i : Invoker (World σ) Node Routine) (w : World σ)
        (result : Except Fault α) (u : Progress × World σ) (k : List RunEvent),
        i.call = Call.driverCall ⟨catalog.client, text⟩ ∧ i.observe = logBind ∧
        w.call.bindings = [] ∧
        (use i).Ends ({ projector := { columns := i.plan.columns } }, w) result u k ∧
        Event.queries j = statements ++ Event.queries k) := by
  rw [withInvoker_eq] at h
  have hP := quiet_queries (ν := Node) (π := Routine) (chains_consults (σ := σ))
  have hprepare : Does (fun w j w' => Consults w (Event.queries j) w')
      (Invoker.prepare catalog.session (Call.driverCall ⟨catalog.client, text⟩) (some text)
        logBind) :=
    (does_planCall hP (planningDoes_consults catalog ⟨catalog.client, text⟩) (some text)).bind
      hP.toChains fun _ => (does_ofExcept hP.toChains _).bind hP.toChains fun _ =>
        does_pure hP.toChains _
  rcases ends_bind.mp h with ⟨fault, rfl, hfails⟩ | ⟨⟨i, p⟩, w₁, j₁, j₂, hprepared, hused, rfl⟩
  · exact ⟨_, (hprepare _ _ _ _ hfails).1, Or.inl rfl⟩
  · obtain ⟨hstatements, hbindings⟩ := hprepare _ _ _ _ hprepared
    obtain ⟨-, hcall, hobserve, rfl⟩ := Invoker.prepare_gives hprepared
    obtain ⟨u, hends, -⟩ := ends_within.mp hused
    obtain ⟨result, u₁, k, closing, k', huse, hclose, -, rfl⟩ := ends_ensuring.mp hends
    refine ⟨_, hstatements, Or.inr ⟨i, w₁, result, u₁, k, hcall, hobserve, hbindings, huse, ?_⟩⟩
    rw [Event.queries_append, Event.queries_append, silent_close hcall _ _ _ _ hclose,
      List.append_nil]

/-! ### Calling -/

section

variable {i : Invoker (World σ) Node Routine} {c : Call σ}

theorem silent_resultSet (hcall : i.call = c.driverCall) : Does Silent i.resultSet := by
  have hC := chains_queries (σ := World σ) chains_eq_nil
  have hdriver : Does (fun _ j _ => queries j = []) c.driverCall.resultSet :=
    Call.unqueried_state.bind hC fun _ => does_pure hC _
  rw [← hcall] at hdriver
  exact i.does_resultSet chains_silent (silent_outside (hdriver.entering fun _ j _ h => by
    rw [Silent, Event.queries_notes, h]))

/-- Reading the row of output values hands over nothing. -/
theorem silent_projected (hcall : i.call = c.driverCall) :
    Does Silent (Invoker.onProjector (projectedResult i.fetch)) := by
  have hC := chains_queries (σ := World σ) chains_eq_nil
  have hread : ∀ key, Does (fun _ j _ => queries j = []) (c.driverCall.read key) := fun key =>
    Call.unqueried_state.bind hC fun _ => (does_ofExcept hC _).bind hC fun _ =>
      Call.unqueried_state.bind hC fun _ => (Call.unqueried_update _).bind hC fun _ =>
        does_pure hC _
  have hfetch : ∀ ordinal, Does Silent ((i.fetch ordinal).within (τ := Projector × World σ) (·.2)
      fun outside w => (w.1, outside)) := by
    intro ordinal
    rw [Invoker.fetch, hcall]
    exact (silent_asked (hread _) fun _ => rfl).within fun _ _ _ h => h
  exact (does_projectedResult chains_silent hfetch fun _ _ _ => rfl).within fun _ _ _ h => h

theorem silent_bindAll (hcall : i.call = c.driverCall) (hobserve : i.observe = logBind)
    (values : List Value) : Does Silent (i.bindAll values) := by
  have hC := chains_queries (σ := World σ) chains_eq_nil
  refine i.does_bindFrom chains_silent (fun key value => silent_outside ?_) 1 values
  rw [hcall, Invoker.tell, hobserve]
  have hbind : Does (fun _ j _ => queries j = []) (c.driverCall.bind key value) :=
    Call.unqueried_state.bind hC fun _ => (does_ofExcept hC _).bind hC fun _ =>
      Call.unqueried_update _
  have hlog : Does (fun _ j _ => queries j = []) (logBind key value : Action (World σ) Note Unit) :=
    does_record fun _ => rfl
  exact (silent_asked hbind fun _ => rfl).bind chains_silent fun _ => silent_asked hlog fun _ => rfl

theorem queries_executionEntries (r : Except Fault Bool) (notes : List Note) :
    Event.queries (i.executionEntries r notes) = queries notes := by
  simp only [Invoker.executionEntries, Event.queries_append, Event.queries_notes]
  cases r <;> simp [Event.queries, Event.notes, queries, Except.toOption]

theorem silent_commit (native : Bool) :
    Does Silent (Invoker.commit native : Action (Progress × World σ) RunEvent Bool) :=
  (silent_change _).bind chains_silent fun _ => (does_world chains_silent).bind chains_silent
    fun _ => (does_ofExcept chains_silent _).bind chains_silent fun _ =>
      (silent_change _).bind chains_silent fun _ => does_pure chains_silent _

/-- However the execution of a fresh call ends, the call text is handed over with the values, once,
and nothing else is. -/
theorem queries_execution (hcall : i.call = c.driverCall) {w : World σ} {arguments : Arguments}
    {p : Progress} (hopen : p.isClosed = false) (hfresh : p.isExecuted = false)
    (harguments : w.call.arguments = .ok arguments) {r : Except Fault Bool}
    {u : Progress × World σ} {k : List RunEvent} (h : i.execute.Ends (p, w) r u k) :
    Event.queries k = [(c.text, arguments)] := by
  have hdriver : ∀ {r u k}, (Invoker.outside i.executeDriver).Ends (p, w) r u k →
      Event.queries k = [(c.text, arguments)] := by
    intro r u k h
    obtain ⟨v, hends, -⟩ := ends_within.mp h
    obtain ⟨notes, hexecute, rfl⟩ := i.executeDriver_ends.mp hends
    rw [hcall] at hexecute
    rw [queries_executionEntries, Call.queries_execute harguments hexecute]
  obtain ⟨j, hrest, rfl⟩ := (Gives.ends_bind (world_gives (p, w))).mp h
  dsimp only at hrest
  rw [if_neg (by simp [hopen]), if_neg (by simp [hfresh])] at hrest
  rcases ends_bind.mp hrest with ⟨fault, rfl, hfails⟩ | ⟨native, v, j₁, j₂, hgives, hdone, rfl⟩
  · exact hdriver hfails
  · change Event.queries (j₁ ++ j₂) = _
    rw [Event.queries_append, hdriver hgives, silent_commit native _ _ _ _ hdone, List.append_nil]

/-- However a call on the command line ends, the call text is handed over with the words as values,
once, and nothing else is. -/
theorem queries_executeWith (hcall : i.call = c.driverCall) (hobserve : i.observe = logBind)
    {w : World σ} (hw : w.call.bindings = []) {p : Progress} (hopen : p.isClosed = false)
    (hfresh : p.isExecuted = false) {words : List String} {r : Except Fault Finding}
    {u : Progress × World σ} {k : List RunEvent} (h : (executeWith words i).Ends (p, w) r u k) :
    Event.queries k = [(c.text, sentValues (words.map argumentValue))] := by
  obtain ⟨j₁, hbound⟩ := Invoker.bindAll_gives hcall hobserve p (words.map argumentValue) hw
  have harguments : (w.withCall { w.call with
      bindings := boundFrom 1 (words.map argumentValue) }).call.arguments =
        .ok (sentValues (words.map argumentValue)) := CallState.arguments_of_boundFrom rfl
  obtain ⟨j₂, hrest, rfl⟩ := (Gives.ends_bind hbound).mp h
  rw [Event.queries_append, silent_bindAll hcall hobserve _ _ _ _ _ hbound, List.nil_append]
  rcases ends_bind.mp hrest with ⟨fault, rfl, hfails⟩ | ⟨hasResult, v, j₃, j₄, hgives, hdone, rfl⟩
  · exact queries_execution hcall hopen hfresh harguments hfails
  · have hfinding : ∀ set, Does Silent (findingOf i set) := by
      rintro (_ | native | _)
      · exact does_pure chains_silent _
      · exact does_pure chains_silent _
      · exact (silent_projected hcall).bind chains_silent fun _ => does_pure chains_silent _
    rw [Event.queries_append, queries_execution hcall hopen hfresh harguments hgives]
    cases hasResult with
    | true =>
      have hsilent := (silent_resultSet hcall).bind chains_silent hfinding
      rw [hsilent _ _ _ _ hdone, List.append_nil]
    | false => rw [hfinding none _ _ _ _ hdone, List.append_nil]

end

/-! ### The commands -/

/-- Statements about the catalog were handed over, and after them at most the call text with the
words as values, and that only in order to call. -/
def HandsOver (command : Command) (text : String) (words : List String)
    (asked : List (String × Arguments)) : Prop :=
  ∃ statements : List (String × Arguments), (∀ q ∈ statements, q.1 ∈ catalogStatements) ∧
    (asked = statements ∨ command = .call ∧
      asked = statements ++ [(text, sentValues (words.map argumentValue))])

theorem handsOver_runPlan {catalog : Catalog σ} {text : String} {words : List String} {v : σ}
    {w' : World σ} {r : Except Fault Finding} {j : List RunEvent}
    (h : (runPlan catalog text).Ends { outside := v } r w' j) :
    HandsOver .plan text words (Event.queries j) := by
  obtain ⟨statements, hstatements, hj | ⟨i, w, result, u, k, -, -, -, huse, hj⟩⟩ :=
    withInvoker_ends h
  · exact ⟨statements, hstatements, Or.inl hj⟩
  · have hk : Event.queries k = [] := does_pure chains_silent _ _ _ _ _ huse
    exact ⟨statements, hstatements, Or.inl (by rw [hj, hk, List.append_nil])⟩

theorem handsOver_runCall {catalog : Catalog σ} {text : String} {words : List String} {v : σ}
    {w' : World σ} {r : Except Fault Finding} {j : List RunEvent}
    (h : (runCall catalog text words).Ends { outside := v } r w' j) :
    HandsOver .call text words (Event.queries j) := by
  obtain ⟨statements, hstatements, hj | ⟨i, w, result, u, k, hcall, hobserve, hw, huse, hj⟩⟩ :=
    withInvoker_ends h
  · exact ⟨statements, hstatements, Or.inl hj⟩
  · have hk := queries_executeWith hcall hobserve hw rfl rfl huse
    exact ⟨statements, hstatements, Or.inr ⟨rfl, hj.trans (by rw [hk])⟩⟩

/-- The command of an invocation hands over what it is for, and the connection is closed after it
without a statement. -/
theorem handsOver_runCommand {client : Client σ} {i : Invocation} {v : σ} {w' : World σ}
    {r : Except Fault Finding} {j : List RunEvent}
    (h : (runCommand client i).Ends { outside := v } r w' j) :
    HandsOver i.command i.text i.arguments (Event.queries j) := by
  obtain ⟨first, w₁, j₁, later, j₂, hrun, hclose, -, rfl⟩ := ends_ensuring.mp h
  have hsilent : Does Silent (client.close.entering .note : Action (World σ) RunEvent Unit) :=
    client.unasked_close.entering fun w j w' h => by rw [Silent, Event.queries_notes, h.1]
  rw [Event.queries_append, hsilent _ _ _ _ hclose, List.append_nil]
  cases hcommand : i.command with
  | resolve =>
    rw [hcommand] at hrun
    exact ⟨_, (consults_runResolve _ _ _ _ _ _ hrun).1, Or.inl rfl⟩
  | plan =>
    rw [hcommand] at hrun
    exact handsOver_runPlan hrun
  | call =>
    rw [hcommand] at hrun
    exact handsOver_runCall hrun

theorem handsOver_runInvocation (server : Server σ) (s : Surroundings) (i : Invocation) (v : σ) :
    HandsOver i.command i.text i.arguments
      (Event.queries ((runInvocation server s i).run { outside := v }).journal) := by
  obtain ⟨w', j, h⟩ : ∃ w' j, (do
      runCommand ⟨← Action.ofExcept (settingsOf s i), server⟩ i :
        Action (World σ) RunEvent Finding).Ends { outside := v } _ w' j :=
    exists_ends_of_result rfl
  have hjournal : ((runInvocation server s i).run { outside := v }).journal = j :=
    congrArg Outcome.journal h
  rw [hjournal]
  rcases ends_bind.mp h with ⟨fault, -, hfails⟩ | ⟨settings, w₁, j₁, j₂, hsettings, hrun, rfl⟩
  · obtain ⟨-, -, rfl⟩ := ends_ofExcept.mp hfails
    exact ⟨[], by simp, Or.inl rfl⟩
  · obtain ⟨-, rfl, rfl⟩ := ends_ofExcept.mp hsettings
    exact handsOver_runCommand hrun

/-- **A call text is handed over once at most, and only in order to call it.** Whatever the server
does, the commands `resolve` and `plan` hand the client statements about the catalog only. The
command `call` hands over such statements and after them at most the call text, with the words of
the command line as values, in their order; nothing comes after it. So a call text that is no
statement about the catalog itself is never handed over by `resolve` and `plan`, and once at most by
`call`. -/
theorem call_text_once_and_last (server : Server σ) (s : Surroundings) (i : Invocation) (v : σ) :
    ∃ statements : List (String × Arguments), (∀ q ∈ statements, q.1 ∈ catalogStatements) ∧
      (i.command ≠ .call →
        Event.queries ((runInvocation server s i).run { outside := v }).journal = statements) ∧
      (i.command = .call →
        Event.queries ((runInvocation server s i).run { outside := v }).journal = statements ∨
        Event.queries ((runInvocation server s i).run { outside := v }).journal =
          statements ++ [(i.text, sentValues (i.arguments.map argumentValue))]) ∧
      (i.text ∉ catalogStatements →
        ((Event.queries ((runInvocation server s i).run { outside := v }).journal).map (·.1)).count
          i.text ≤ if i.command = .call then 1 else 0) := by
  obtain ⟨statements, hstatements, hj⟩ := handsOver_runInvocation server s i v
  have hnone : i.text ∉ catalogStatements → (statements.map (·.1)).count i.text = 0 := by
    intro htext
    refine List.count_eq_zero.mpr fun hmem => htext ?_
    obtain ⟨q, hq, hsql⟩ := List.mem_map.mp hmem
    exact hsql ▸ hstatements q hq
  refine ⟨statements, hstatements, fun hcommand => ?_, fun hcommand => ?_, fun htext => ?_⟩
  · exact hj.resolve_right fun hcall => hcommand hcall.1
  · exact hj.imp_right fun hcall => hcall.2
  · rcases hj with hj | ⟨hcommand, hj⟩
    · rw [hj, hnone htext]
      exact Nat.zero_le _
    · rw [hj, List.map_append, List.count_append, hnone htext, if_pos hcommand]
      simp

/-- The statements that a command line hands over to a server without a current schema. -/
def rehearsed (words : List String) : List String :=
  let journal := ((run ({ currentSchema := none } : Rehearsal.ServerScript).server
    { fileAt := fun _ => .missing, configPath := "" } words).run { outside := {} }).journal
  (Event.queries journal).map (·.1)

/-- A call text that is a statement about the catalog itself is handed over as such, by `plan` too,
and by `call` once more. -/
theorem catalog_statement_as_call_text :
    "SELECT current_schema()" ∈ rehearsed ["plan", "SELECT current_schema()"] ∧
      (rehearsed ["call", "SELECT current_schema()"]).count "SELECT current_schema()" = 2 := by
  decide +kernel

end ProcedureCall.CommandLine
