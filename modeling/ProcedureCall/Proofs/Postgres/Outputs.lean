import ProcedureCall.Proofs.Invoker.Lifecycle
import ProcedureCall.Proofs.Plan.Positions
import ProcedureCall.Proofs.Postgres.Call
import ProcedureCall.Proofs.Rehearsal.Server

/-!
# Output parameters on a server

A server does not say which values of the row that a call gives belong to which parameters, nor
does the driver know the outputs. What joins the two is a count, made three times: the outputs are
numbered as the catalog declares them, they are announced to the driver by these numbers, and the
values are read by them. `Planned` says what the planning leaves for the execution,
`Planned.execute_gives` and `Planned.projected_gives` go on from there, and
`outputs_reported_by_name` joins them.
-/

namespace ProcedureCall.Postgres

open ProcedureCall.Action Rehearsal

/-! ### Declared parameters -/

/-- A parameter as the catalog of a server shows it. -/
structure ParameterRow where
  /-- Its place in the declaration, from 1. -/
  position : Int
  /-- Its name, if it has one. -/
  name : Option String
  /-- The letter of its direction. -/
  mode : String
  /-- The name of its type. -/
  typeName : String

namespace ParameterRow

/-- The row of the catalog. -/
def values (row : ParameterRow) : List Value :=
  [.int row.position, row.name.elim .null .text, .text row.mode, .text row.typeName]

/-- Does a value come out? -/
def isOutput (row : ParameterRow) : Bool := ["o", "b", "t"].contains row.mode

/-- The name that it is shown by: its own, or its place with a dollar sign. -/
def shownName (row : ParameterRow) : String :=
  (row.name.filter (!·.isEmpty)).getD ("$" ++ String.ofList (Numeral.text row.position))

/-- The parameter that the row declares. -/
def parameter (types : Registry) (row : ParameterRow) : Parameter :=
  ⟨row.shownName, parameterType types row.typeName, (Entries.get? row.mode modes).getD .unknown,
    row.position - 1⟩

theorem parameterOfRow_values (types : Registry) (row : ParameterRow) :
    parameterOfRow types row.values = .ok (row.parameter types) := by
  have hname : (if (row.name.elim Value.null .text).isTruthy then row.name.elim Value.null .text
      else .text ("$" ++ String.ofList (Value.int row.position).plain)) = .text row.shownName := by
    unfold shownName
    cases row.name with
    | none => rfl
    | some name =>
      cases hempty : name.isEmpty
      · simp [Value.isTruthy, hempty, Option.filter]
      · simp [Value.isTruthy, hempty, Option.filter]
        rfl
  have htext : ∀ shown : String, ((Reader.text (.text shown)).inside (.field "name")) =
      pure shown := by
    intro shown
    change Reading.inside _ (pure (String.ofList shown.toList)) = pure shown
    rw [String.ofList_toList]
    rfl
  have hinteger : ∀ n : Int, (Reader.integer (.int n)).inside (.field "position") = pure n :=
    fun _ => rfl
  unfold parameterOfRow
  simp only [values, parameterParts, bind, Except.bind, hname, typeNameOf, directionOf]
  simp only [fromZero, Value.asInt?, htext, hinteger]
  rfl

/-- All rows are read as the parameters that they declare. -/
theorem mapM_parameterOfRow (types : Registry) (rows : List ParameterRow) :
    (rows.map values).mapM (parameterOfRow types) = .ok (rows.map (parameter types)) := by
  have heach : parameterOfRow types ∘ values = fun row => pure (row.parameter types) :=
    funext (parameterOfRow_values types)
  rw [List.mapM_map, heach, List.mapM_pure]
  rfl

theorem isOutput_parameter (types : Registry) (row : ParameterRow) :
    (row.parameter types).direction.isOutput = row.isOutput := by
  change ((Entries.get? row.mode modes).getD .unknown).isOutput = ["o", "b", "t"].contains row.mode
  generalize row.mode = mode
  by_cases hmode : mode ∈ modes.map (·.1)
  · revert mode
    decide
  · have hnone : Entries.get? mode modes = none :=
      Entries.get?_of_forall_ne fun entry h he => hmode (he ▸ List.mem_map_of_mem h)
    rw [hnone]
    simp only [modes, List.map_cons, List.map_nil, List.mem_cons, List.not_mem_nil, or_false,
      not_or] at hmode
    simp [hmode, Direction.isOutput]

theorem declaredOutputs_map (types : Registry) (rows : List ParameterRow) :
    declaredOutputs (rows.map (parameter types)) =
      (rows.filter isOutput).map (parameter types) := by
  rw [declaredOutputs, List.filter_map]
  congr 1
  exact List.filter_congr fun row _ => isOutput_parameter types row

end ParameterRow

/-- The procedure on the server declares these parameters. -/
def Declares (script : ServerScript) (r : Routine) (rows : List ParameterRow) : Prop :=
  ∃ (place : Nat) (known : KnownProcedure), r.oid = .int (ServerScript.firstOid + place) ∧
    script.procedures[place]? = some known ∧ known.parameters = rows.map ParameterRow.values

/-! ### Finding the procedure -/

/-- The parameters that were read and the call stay, and the server keeps its answers. -/
def KeepsCall {ε : Type} (w : World ServerWorld) (_ : List ε) (w' : World ServerWorld) : Prop :=
  w'.loaded = w.loaded ∧ w'.call = w.call ∧ w.outside.Spares w'.outside

theorem chains_keepsCall {ε : Type} : Chains (KeepsCall (ε := ε)) where
  nil _ := ⟨rfl, rfl, fun hw => ⟨hw, rfl⟩⟩
  append h₁ h₂ := ⟨h₂.1.trans h₁.1, h₂.2.1.trans h₁.2.1, h₁.2.2.trans h₂.2.2⟩

theorem quiet_keepsCall : Quiet (KeepsCall (ε := Event Node Routine)) where
  toChains := chains_keepsCall
  remark _ _ _ := ⟨rfl, rfl, fun hw => ⟨hw, rfl⟩⟩

variable {script : ServerScript} {c : Catalog ServerWorld}

theorem keepsCall_query (hserver : c.client.server = script.server) {sql : String}
    (hsql : sql ∈ catalogStatements) (arguments : Arguments) :
    Does KeepsCall (c.client.query sql arguments) := by
  intro w r w' j h
  have hsame := (c.client.does_query sql arguments _ _ _ _ h).2
  exact ⟨hsame.loaded, hsame.call,
    ServerScript.spares_query hserver (ServerScript.isSome_catalogReply? hsql arguments) _ _ _ _ h⟩

theorem looksUp_keepsCall (hserver : c.client.server = script.server) : c.LooksUp KeepsCall where
  toChains := chains_keepsCall
  query _ hsql arguments := keepsCall_query hserver hsql arguments
  found _ _ := ⟨rfl, rfl, fun hw => ⟨hw, rfl⟩⟩

theorem keepsCall_find (hserver : c.client.server = script.server) (text : Option String) :
    Does KeepsCall (c.session.find text) := by
  have h := looksUp_keepsCall hserver
  exact Session.does_find quiet_keepsCall (does_asked fun _ _ _ _ hends => h.selected _ _ _ _ hends)
    (fun container name => does_asked fun _ _ _ _ hends => h.child container name _ _ _ _ hends)
    (fun container name => does_asked fun _ _ _ _ hends => h.procedure container name _ _ _ _ hends)
    text

/-! ### Reading its parameters -/

/-- The parameters of a procedure are those that its rows declare, and they are kept. -/
theorem parameters_gives (hserver : c.client.server = script.server) {millis : Int}
    (hmillis : c.client.settings.timeoutMillis = .ok millis) {r : Routine}
    {rows : List ParameterRow} (hdeclares : Declares script r rows) {w : World ServerWorld}
    (hw : w.outside.IsCalm) (hloaded : w.loaded = []) :
    ∃ w' j, (c.parameters r).Gives w (rows.map (ParameterRow.parameter c.types)) w' j ∧
      Entries.get? r.handle w'.loaded = some (rows.map (ParameterRow.parameter c.types)) ∧
      w'.call = w.call ∧ w.outside.Spares w'.outside := by
  obtain ⟨place, known, hoid, hknown, hrows⟩ := hdeclares
  have hresult : ∃ result, (script.answer w.outside parametersSql
      (.named [("oid", r.oid)])).toResult = .ok result ∧
      result.rows = rows.map ParameterRow.values := by
    rw [ServerScript.answer, hoid, ServerScript.catalogReply?_parameters hknown, hrows]
    exact ⟨_, rfl, rfl⟩
  obtain ⟨result, hresult, hresultRows⟩ := hresult
  obtain ⟨w₁, j, hquery⟩ := ServerScript.query_gives hserver hmillis hw hresult
  obtain ⟨-, hcall, hspares⟩ :=
    keepsCall_query hserver (by simp [catalogStatements]) _ _ _ _ _ hquery
  obtain ⟨k, hload⟩ := Catalog.load_gives hquery ("parameters of " ++ r.schema ++ "." ++ r.name)
  have hread : result.rows.mapM (parameterOfRow c.types) =
      .ok (rows.map (ParameterRow.parameter c.types)) := by
    rw [hresultRows, ParameterRow.mapM_parameterOfRow]
  have hnone : Entries.get? r.handle w.loaded = none := by rw [hloaded]; rfl
  generalize rows.map (ParameterRow.parameter c.types) = parameters at hread
  refine ⟨{ w₁ with loaded := Entries.put r.handle parameters w₁.loaded },
    [] ++ (k ++ ([] ++ ([] ++ []))), (world_gives w).bind ?_, Entries.get?_put_self .., hcall,
    hspares⟩
  rw [hnone]
  exact hload.bind (Gives.bind (ends_ofExcept.mpr ⟨hread.symm, rfl, rfl⟩)
    ((change_gives _ _).bind (pure_gives _ _)))

theorem parameters_gives_of_loaded {r : Routine} {parameters : List Parameter}
    {w : World ServerWorld} (h : Entries.get? r.handle w.loaded = some parameters) :
    (c.parameters r).Gives w parameters w ([] ++ []) := by
  refine (world_gives w).bind ?_
  rw [h]
  exact pure_gives parameters w

/-! ### Planning the call -/

/-- The driver tells nothing of the parameters of a call. -/
theorem reportSource_gives (call : Call ServerWorld) (w : World ServerWorld) :
    ∃ reason j, (reportSource call.driverCall : Action _ (Event Node Routine) _).Gives w
      (.unavailable reason) w j := by
  have hasked : (call.driverCall.askReport : Action _ (Event Node Routine) _).Fails w
      (.tool .driver "psycopg does not report parameter modes for CALL statements") w _ :=
    ends_asked.mpr ⟨[], fails_fail.mpr ⟨rfl, rfl, rfl⟩, rfl⟩
  exact ⟨_, _, (gives_attempt_error.mpr ⟨rfl, hasked⟩).bind
    ((record_gives _ w).bind (pure_gives _ w))⟩

/-- The call is planned with these outputs, and the world is one in which it can be executed. -/
structure Planned (call : Call ServerWorld) (outputs : List Parameter) (v : ServerWorld)
    (i : Invoker (World ServerWorld) Node Routine) (w : World ServerWorld) : Prop where
  /-- The invoker is one of the call. -/
  call_eq : i.call = call.driverCall
  /-- Binds are logged. -/
  observe_eq : i.observe = logBind
  /-- The columns are the outputs in their order. -/
  columns_eq : i.plan.columns = placed (catalogDrafts outputs)
  /-- Nothing is bound. -/
  bindings_eq : w.call.bindings = []
  /-- If there is an output, it was announced to the driver. -/
  registered : outputs ≠ [] → w.call.registered ≠ []
  /-- The time limit can be sent. -/
  timeout : ∃ millis, call.client.settings.timeoutMillis = .ok millis
  /-- The server has its answers still. -/
  spares : v.Spares w.outside

theorem prepare_gives_planned (hserver : c.client.server = script.server) {v : ServerWorld}
    (hv : v.IsCalm) {text : String} {r : Routine} {rows : List ParameterRow}
    (hfind : ((c.session.find (some text)).run { outside := v }).result = .ok (some r))
    (hdeclares : Declares script r rows) :
    ∃ i w j,
      (Invoker.prepare c.session (Call.driverCall ⟨c.client, text⟩) (some text) logBind).Gives
        { outside := v } (i, { projector := { columns := i.plan.columns } }) w j ∧
      Planned ⟨c.client, text⟩ ((rows.filter ParameterRow.isOutput).map
        (ParameterRow.parameter c.types)) v i w := by
  obtain ⟨w₁, j₁, hfound⟩ := exists_ends_of_result hfind
  obtain ⟨millis, hmillis⟩ := Catalog.exists_timeoutMillis_of_find hfound
  obtain ⟨hloaded, hcall₁, hspares₁⟩ := keepsCall_find hserver _ _ _ _ _ hfound
  obtain ⟨reason, j₂, hreport⟩ := reportSource_gives ⟨c.client, text⟩ w₁
  obtain ⟨w₂, j₃, hread, hkept, hcall₂, hspares₂⟩ :=
    parameters_gives hserver hmillis hdeclares (hspares₁ hv).1 hloaded
  rw [← ParameterRow.declaredOutputs_map]
  generalize rows.map (ParameterRow.parameter c.types) = parameters at hread hkept ⊢
  obtain ⟨registered, j₄, hall, hregistered⟩ :=
    (Call.mk c.client text).registerAll_gives (ν := Node) (π := Routine)
      (declaredSlots parameters) w₂
  have hreadFirst : (c.session.parameters r).Gives w₁ parameters w₂ j₃ := hread
  have hreadAgain : (c.session.parameters r).Gives (w₂.withCall { w₂.call with registered })
      parameters _ _ := parameters_gives_of_loaded hkept
  obtain ⟨plan, j, hplan, hcolumns⟩ :=
    planCall_of_unavailable hfound hreport hreadFirst hall hreadAgain
  refine ⟨⟨_, plan, logBind⟩, _, _, hplan.bind (Gives.bind (ends_ofExcept.mpr
    ⟨(Projector.addColumns_eq rfl _).symm, rfl, rfl⟩) (pure_gives _ _)), ?_⟩
  exact
    { call_eq := rfl
      observe_eq := rfl
      columns_eq := hcolumns
      bindings_eq := by
        change w₂.call.bindings = []
        rw [hcall₂, hcall₁]
      registered := fun houtputs => hregistered (Or.inl fun hslots => houtputs (by
        rw [← List.length_eq_zero_iff, ← length_declaredSlots, hslots]
        rfl))
      timeout := ⟨millis, hmillis⟩
      spares := hspares₁.trans hspares₂ }

/-! ### Executing it -/

variable {call : Call ServerWorld} {outputs : List Parameter} {v : ServerWorld}
  {i : Invoker (World ServerWorld) Node Routine} {w : World ServerWorld} {result : QueryResult}

/-- The progress of an invoker that was just made. -/
def fresh (i : Invoker (World ServerWorld) Node Routine) : Progress :=
  { projector := { columns := i.plan.columns } }

theorem Planned.columns_ne_nil (h : Planned call outputs v i w) (houtputs : outputs ≠ []) :
    i.plan.columns ≠ [] := by
  rw [h.columns_eq, ← List.length_pos_iff, length_placed_catalogDrafts]
  exact List.length_pos_iff.mpr houtputs

/-- With values bound, a planned call is executed; its result is kept, but it is no result set. -/
theorem Planned.execute_gives (h : Planned call outputs v i w) (houtputs : outputs ≠ [])
    (hserver : call.client.server = script.server) (hv : v.IsCalm) {arguments : List Value}
    (hresult : (script.answer v call.text (sentValues arguments)).toResult = .ok result) :
    ∃ w' j, i.execute.Gives
        (fresh i, w.withCall { w.call with bindings := boundFrom 1 arguments }) true
        ((fresh i).executed, w') j ∧
      w'.call.result = some result ∧ w'.call.isNative = false := by
  obtain ⟨millis, hmillis⟩ := h.timeout
  obtain ⟨hcalm, hreplies⟩ := h.spares hv
  have hanswer : (script.answer w.outside call.text (sentValues arguments)).toResult =
      .ok result := by
    rw [ServerScript.answer, hreplies]
    exact hresult
  have hregistered :
      (w.withCall { w.call with bindings := boundFrom 1 arguments }).call.registered ≠ [] :=
    h.registered houtputs
  obtain ⟨w', j, hquery⟩ := ServerScript.query_gives
    (w := w.withCall { w.call with bindings := boundFrom 1 arguments })
    hserver hmillis hcalm hanswer
  obtain ⟨k, hexecute⟩ :=
    Call.execute_gives (CallState.arguments_of_boundFrom rfl) hregistered hquery
  have hdriver : i.call.execute = call.execute := by rw [h.call_eq]; rfl
  rw [← hdriver] at hexecute
  have hfresh : (fresh i).InStep := ⟨rfl, rfl⟩
  have hgives := i.execute_gives hfresh rfl rfl hexecute
  have hsome : (false || !(fresh i).projector.columns.isEmpty) = true := by
    simp [fresh, h.columns_ne_nil houtputs]
  rw [hsome] at hgives
  exact ⟨_, _, hgives, rfl, rfl⟩

/-- After the execution the row of output values is reported with the values of the one row that
came out, under the names of the outputs. -/
theorem Planned.projected_gives (h : Planned call outputs v i w) {w' : World ServerWorld}
    (hkept : w'.call.result = some result) {values : List Value} (hrows : result.rows = [values])
    (hlength : values.length = outputs.length) :
    ∃ projected u j, (Invoker.onProjector (projectedResult i.fetch)).Gives
        ((fresh i).executed, w') projected u j ∧
      projected.rows = [values] ∧ projected.columns.map (·.name) = outputs.map (·.name) := by
  have hcolumns : i.plan.columns = placed (catalogDrafts outputs) := h.columns_eq
  have hfetch : ∀ (place : Nat) (column : OutputColumn) value (w : World ServerWorld),
      i.plan.columns[place]? = some column → values[place]? = some value →
      w.call.result = some result → ∃ w' j,
        (i.fetch column.sourceOrdinal).Gives w value w' j ∧ w'.call.result = some result := by
    intro place column value w hcolumn hvalue hw
    have hplace : place < outputs.length := by
      rw [← hlength]
      exact (List.getElem?_eq_some_iff.mp hvalue).1
    rw [hcolumns, getElem?_placed_catalogDrafts hplace] at hcolumn
    obtain rfl := Option.some.inj hcolumn
    obtain ⟨j, hfetched⟩ :=
      Invoker.fetch_gives h.call_eq (CallState.read_of_row hw hrows hvalue)
    exact ⟨_, j, hfetched, hw⟩
  have hwidth : values.length = i.plan.columns.length := by
    rw [hcolumns, length_placed_catalogDrafts, hlength]
  obtain ⟨u, j, hprojected⟩ := projectedResult_gives (p := (fresh i).executed.projector) hwidth
    hfetch rfl rfl hkept
  refine ⟨_, _, j, ends_within.mpr ⟨u, hprojected, rfl⟩, rfl, ?_⟩
  rw [List.map_map, ← map_name_placed_catalogDrafts, ← hcolumns]
  rfl

/-! ### From the text to the result -/

/-- **Output parameters come back under their own names.** On a server that runs into no fault, let
a call text invoke a procedure that declares output parameters. If the call, sent with the values,
gives one row with as many values as there are outputs, then the invoker is made, binds the values
and executes the call; the result is the row of output values; and it is reported with exactly this
one row, under the names of the outputs in the order of their declaration, a nameless one under its
place. -/
theorem outputs_reported_by_name (hv : v.IsCalm) (hserver : c.client.server = script.server)
    {text : String} {r : Routine} {rows : List ParameterRow}
    (hfind : ((c.session.find (some text)).run { outside := v }).result = .ok (some r))
    (hdeclares : Declares script r rows) (houtput : ∃ row ∈ rows, row.isOutput = true)
    {arguments values : List Value}
    (hresult : (script.answer v text (sentValues arguments)).toResult = .ok result)
    (hrows : result.rows = [values])
    (hlength : values.length = (rows.filter ParameterRow.isOutput).length) :
    ∃ i p w₁ u₂ u₃ u₄ u₅ j₁ j₂ j₃ j₄ j₅ projected,
      (Invoker.prepare c.session (Call.driverCall ⟨c.client, text⟩) (some text) logBind).Gives
        { outside := v } (i, p) w₁ j₁ ∧
      (i.bindAll arguments).Gives (p, w₁) () u₂ j₂ ∧
      i.execute.Gives u₂ true u₃ j₃ ∧
      i.resultSet.Gives u₃ (some .projected) u₄ j₄ ∧
      (Invoker.onProjector (projectedResult i.fetch)).Gives u₄ projected u₅ j₅ ∧
      projected.rows = [values] ∧
      projected.columns.map (·.name) =
        (rows.filter ParameterRow.isOutput).map ParameterRow.shownName := by
  obtain ⟨i, w, j₁, hprepare, hplanned⟩ := prepare_gives_planned hserver hv hfind hdeclares
  have houtputs : (rows.filter ParameterRow.isOutput).map (ParameterRow.parameter c.types) ≠
      [] := by
    obtain ⟨row, hrow, hout⟩ := houtput
    exact List.ne_nil_of_mem (List.mem_map_of_mem (List.mem_filter.mpr ⟨hrow, hout⟩))
  obtain ⟨j₂, hbind⟩ := Invoker.bindAll_gives hplanned.call_eq hplanned.observe_eq
    (fresh i) arguments hplanned.bindings_eq
  obtain ⟨w', j₃, hexecute, hkept, hnative⟩ :=
    hplanned.execute_gives houtputs hserver hv hresult
  obtain ⟨j₄, hset⟩ := Invoker.resultSet_gives (p := (fresh i).executed) hplanned.call_eq rfl
    (hplanned.columns_ne_nil houtputs) hnative
  obtain ⟨projected, u, j₅, hprojected, hprojectedRows, hnames⟩ :=
    hplanned.projected_gives hkept hrows (by rw [hlength, List.length_map])
  refine ⟨i, _, w, _, _, _, u, j₁, j₂, j₃, j₄, j₅, projected, hprepare, hbind, hexecute, hset,
    hprojected, hprojectedRows, ?_⟩
  rw [hnames, List.map_map]
  rfl

/-- An input and two outputs, the second of which has no name. -/
def twoOutputRows : List ParameterRow :=
  [⟨1, some "n", "i", "integer"⟩, ⟨2, some "x", "o", "integer"⟩, ⟨3, none, "o", "text"⟩]

/-- A server with one procedure, which has these parameters. -/
def twoOutputs : ServerScript where
  procedures := [⟨"public", "p", twoOutputRows.map ParameterRow.values⟩]
  lastReply :=
    { columns := [(.text "x", .int 23), (.text "column2", .int 25)]
      rows := [[.int 7, .text "seven"]]
      status := .text "CALL" }

/-- The catalog of that server. -/
def twoOutputsCatalog : Catalog ServerWorld := { client := ⟨{}, twoOutputs.server⟩ }

/-- Is the value this integer? -/
def isInteger (n : Int) : Value → Bool
  | .int m => m == n
  | _ => false

theorem eq_int_of_isInteger {n : Int} {v : Value} (h : isInteger n v = true) : v = .int n := by
  cases v with
  | int m => rw [eq_of_beq h]
  | _ => cases h

/-- The procedure is found by a call text, with these parameters. -/
theorem exists_declares_twoOutputs :
    ∃ r, ((twoOutputsCatalog.session.find (some "CALL p(%s)")).run { outside := {} }).result =
      .ok (some r) ∧ Declares twoOutputs r twoOutputRows := by
  have hfound : ((twoOutputsCatalog.session.find (some "CALL p(%s)")).run
      { outside := {} }).result.toOption.map (fun found => found.any fun r =>
        isInteger 16384 r.oid) = some true := by
    decide +kernel
  obtain ⟨found, w, hgives, hoid⟩ := exists_gives_of_map_eq_some hfound
  cases found with
  | none => cases hoid
  | some r =>
    have hnumber : r.oid = .int (ServerScript.firstOid + (0 : Nat)) := eq_int_of_isInteger hoid
    exact ⟨r, hgives.result, 0, _, hnumber, rfl, rfl⟩

theorem answer_twoOutputs :
    (twoOutputs.answer {} "CALL p(%s)" (sentValues [.int 1])).toResult =
      .ok ⟨[⟨"x", "int4"⟩, ⟨"column2", "text"⟩], [[.int 7, .text "seven"]], 1, "CALL"⟩ :=
  rfl

/-- The values come back under the name of the first output and the place of the second. -/
theorem two_outputs_reported :
    ∃ (i : Invoker (World ServerWorld) Node Routine) (p : Progress) (w₁ : World ServerWorld)
      (u₂ u₃ u₄ u₅ : Progress × World ServerWorld) (j₁ j₂ j₃ j₄ j₅ : List (Event Node Routine))
      (projected : QueryResult),
      (Invoker.prepare twoOutputsCatalog.session
        (Call.driverCall ⟨twoOutputsCatalog.client, "CALL p(%s)"⟩) (some "CALL p(%s)")
        logBind).Gives { outside := {} } (i, p) w₁ j₁ ∧
      (i.bindAll [.int 1]).Gives (p, w₁) () u₂ j₂ ∧
      i.execute.Gives u₂ true u₃ j₃ ∧
      i.resultSet.Gives u₃ (some .projected) u₄ j₄ ∧
      (Invoker.onProjector (projectedResult i.fetch)).Gives u₄ projected u₅ j₅ ∧
      projected.rows = [[.int 7, .text "seven"]] ∧
      projected.columns.map (·.name) = ["x", "$3"] := by
  obtain ⟨r, hfind, hdeclares⟩ := exists_declares_twoOutputs
  have houtput : ∃ row ∈ twoOutputRows, row.isOutput = true := List.any_eq_true.mp rfl
  exact outputs_reported_by_name ⟨by simp, rfl⟩ rfl hfind hdeclares houtput answer_twoOutputs rfl
    rfl

end ProcedureCall.Postgres
