import ProcedureCall.Proofs.CommandLine.Output
import ProcedureCall.Proofs.Invoker.Results
import ProcedureCall.Proofs.Postgres.Exchange
import ProcedureCall.Proofs.Projection.Histories
import ProcedureCall.Proofs.Report.Json

/-!
# Results are even

A result is even if its rows are as wide as its columns and are counted. A JSON report pairs each
row with the columns and fails on one that is longer or shorter. But the results that come to a
report have four sources only: the parameters of a procedure, the columns of a plan, the row of
output values, and what the server answered. The first three are even as they are made, and the
last one is if the server's own rows are as wide as what it tells of its columns. So with such a
server a JSON report never fails.

## What is proved

* `even_results_reported` — every result that a command finds is even, and with JSON selected
  nothing is raised that the command did not raise itself.
-/

namespace ProcedureCall

open ProcedureCall.Action

/-- The rows are as wide as the columns, and they are counted. -/
structure QueryResult.IsEven (r : QueryResult) : Prop where
  /-- The rows are counted. -/
  count : r.rowCount = r.rows.length
  /-- Each row is as wide as the columns. -/
  wide : ∀ row ∈ r.rows, row.length = r.columns.length

/-! ### What the server answers -/

namespace Postgres

variable {σ : Type} {w w' : World σ} {result : QueryResult}

/-- In every answer the rows are as wide as what is told of the columns. -/
def Server.IsEven (server : Server σ) : Prop :=
  ∀ sql arguments v reply v' j, (server.run sql arguments).Gives v reply v' j →
    ∀ row ∈ reply.counted, row.length = reply.columns.length

/-- There is a heading for each column, and the rows are taken as they are. -/
theorem Reply.isEven_of_toResult {reply : Reply} (h : reply.toResult = .ok result)
    (hwide : ∀ row ∈ reply.counted, row.length = reply.columns.length) : result.IsEven := by
  obtain ⟨columns, hcolumns, hresult⟩ := Fallible.exists_of_bind_eq_ok h
  obtain ⟨status, -, rfl⟩ := Reading.map_eq_ok.mp hresult
  exact ⟨rfl, fun row hrow => (hwide row hrow).trans (Fallible.length_of_mapM_eq_ok hcolumns).symm⟩

/-- A result of a statement was made of an answer of the server to it. -/
theorem Client.Exchange.exists_reply {c : Client σ} {sql : String} {arguments : Arguments}
    {r : Except Fault QueryResult} {ms : List Message} (h : c.Exchange sql arguments w r w' ms)
    (hr : r = .ok result) :
    ∃ v reply v', (c.server.run sql arguments).Gives v reply v' [] ∧
      reply.toResult = .ok result := by
  cases h with
  | unconnected | untimed => cases hr
  | @answered _ _ answer v' _ _ _ _ hanswers =>
    cases hanswers with
    | unlimited => cases hr
    | @limited v _ _ _ _ hrun =>
      cases answer with
      | error fault => cases hr
      | ok reply => exact ⟨v, reply, v', hrun, hr⟩

theorem Client.isEven_of_query {c : Client σ} (hserver : c.server.IsEven) {sql : String}
    {arguments : Arguments} {j : List Note} (h : (c.query sql arguments).Gives w result w' j) :
    result.IsEven := by
  obtain ⟨v, reply, v', hrun, hresult⟩ := (query_ends h).exists_reply rfl
  exact Reply.isEven_of_toResult hresult (hserver _ _ _ _ _ _ hrun)

/-- What an execution leaves is even. -/
theorem Call.isEven_of_execute {c : Call σ} (hserver : c.client.server.IsEven) {native : Bool}
    {j : List Note} (h : c.execute.Gives w native w' j) (hresult : w'.call.result = some result) :
    result.IsEven := by
  obtain ⟨arguments, w₁, w₂, k, left, hquery, hleft, -⟩ := exists_query_of_execute h
  obtain rfl := Option.some.inj (hleft.symm.trans hresult)
  exact Client.isEven_of_query hserver hquery

end Postgres

/-! ### The row of output values -/

/-- The row of output values has a value for each of its columns. -/
theorem Projector.isEven_of_projectedResult {σ ε : Type} {fetch : Fetch σ ε}
    {u v : Projector × σ} {result : QueryResult} {j : List ε}
    (h : (projectedResult fetch).Gives u result v j) : result.IsEven := by
  cases hrow : u.1.row with
  | error fault => exact absurd (fails_of_row hrow) h.not_fails
  | ok cells =>
    obtain ⟨attempts, cells', -, hvalue, -⟩ := projectedResult_ends hrow h
    obtain ⟨⟨values, hvalues, rfl⟩, -⟩ := hvalue result rfl
    refine ⟨rfl, fun row hmem => ?_⟩
    obtain rfl := List.mem_singleton.mp hmem
    simpa using congrArg List.length hvalues

/-! ### What a command finds -/

namespace CommandLine

open Postgres Report

variable {σ : Type}

theorem isEven_listing {names : List String} {rows : List (List Value)}
    (h : ∀ row ∈ rows, row.length = names.length) : (listing names rows).IsEven :=
  ⟨rfl, fun row hrow => (h row hrow).trans (List.length_map ..).symm⟩

theorem isEven_parameterListing (parameters : List Parameter) :
    (parameterListing parameters).IsEven :=
  isEven_listing fun row hrow => by
    obtain ⟨p, -, rfl⟩ := List.mem_map.mp hrow
    rfl

theorem isEven_columnListing (columns : List OutputColumn) : (columnListing columns).IsEven :=
  isEven_listing fun row hrow => by
    obtain ⟨c, -, rfl⟩ := List.mem_map.mp hrow
    rfl

/-- The result that was found, if there is one, is even. -/
def Finding.IsEven (f : Finding) : Prop := ∀ result, f.result = some result → result.IsEven

theorem isEven_of_runResolve {ν π : Type} {session : Session σ ν π} {text : String} {w w' : σ}
    {f : Finding} {j : List (Event ν π)} (h : (runResolve session text).Gives w f w' j) :
    f.IsEven := by
  obtain ⟨procedure, w₁, j₁, j₂, -, hlisted, -⟩ := gives_bind.mp h
  cases procedure with
  | none => exact absurd hlisted not_gives_fail
  | some procedure =>
    obtain ⟨parameters, w₂, j₃, j₄, -, hpure, -⟩ := gives_bind.mp hlisted
    obtain ⟨rfl, -, -⟩ := gives_pure.mp hpure
    rintro result ⟨⟩
    exact isEven_parameterListing parameters

/-- What is found with a prepared call is even if it is whenever the call was not executed
before. -/
theorem isEven_of_withInvoker {catalog : Catalog σ} {text : String}
    {use : Invoker (World σ) Node Routine → Action (Progress × World σ) RunEvent Finding}
    (huse : ∀ {i p w f u k}, i.call = Call.driverCall ⟨catalog.client, text⟩ → p.InStep →
      (use i).Gives (p, w) f u k → f.IsEven)
    {w w' : World σ} {f : Finding} {j : List RunEvent}
    (h : (withInvoker catalog text use).Gives w f w' j) : f.IsEven := by
  rw [withInvoker_eq] at h
  obtain ⟨⟨i, p⟩, w₁, j₁, j₂, hprepared, hused, -⟩ := gives_bind.mp h
  obtain ⟨-, hcall, -, rfl⟩ := Invoker.prepare_gives hprepared
  obtain ⟨u, hends, -⟩ := ends_within.mp hused
  obtain ⟨u₁, j₃, j₄, hgives, -, -⟩ := gives_ensuring.mp hends
  exact huse hcall ⟨rfl, rfl⟩ hgives

theorem eq_some_of_resultOf {p : Progress} {native : Option QueryResult} {result : QueryResult}
    (h : some (.native result) = Invoker.resultOf p native) : native = some result := by
  cases native with
  | some left =>
    cases h
    rfl
  | none => simp [Invoker.resultOf] at h

/-- The result set that an invoker has of the server is what the execution left. -/
theorem result_eq_of_resultSet {c : Call σ} {i : Invoker (World σ) Node Routine}
    (hcall : i.call = c.driverCall) {p : Progress} {w : World σ} {result : QueryResult}
    {u : Progress × World σ} {j : List RunEvent}
    (h : i.resultSet.Gives (p, w) (some (.native result)) u j) : w.call.result = some result := by
  have hset : i.call.resultSet.Gives w (if w.call.isNative then w.call.result else none) w [] := by
    rw [hcall]
    exact c.resultSet_gives_of w
  have hnative := eq_some_of_resultOf (h.unique (Invoker.resultSet_gives_of hset)).1
  split at hnative
  · exact hnative
  · cases hnative

theorem isEven_of_executeWith {catalog : Catalog σ} {text : String}
    (hserver : catalog.client.server.IsEven) {i : Invoker (World σ) Node Routine}
    (hcall : i.call = Call.driverCall ⟨catalog.client, text⟩) {words : List String}
    {p : Progress} (hp : p.InStep) {w : World σ} {f : Finding} {u : Progress × World σ}
    {k : List RunEvent} (h : (executeWith words i).Gives (p, w) f u k) : f.IsEven := by
  obtain ⟨_, ⟨p₁, w₁⟩, k₁, k₂, hbound, hrest, -⟩ := gives_bind.mp h
  have hstep : p₁.InStep := hp.of_sameStage
    (i.does_bindFrom (Invoker.chains_stays i.milestones_requests.toChains)
      i.milestones_requests.stays_bind 1 _ _ _ _ _ hbound).2
  obtain ⟨answer, ⟨p₂, w₂⟩, k₃, k₄, hexecuted, hrest₁, -⟩ := gives_bind.mp hrest
  obtain ⟨native, notes, hdriver, -⟩ := Invoker.exists_native_of_execute hstep hexecuted
  rw [hcall] at hdriver
  have hnone : ∀ {u v k}, (findingOf i none).Gives u f v k → f.IsEven := by
    intro u v k hfound
    obtain ⟨rfl, -, -⟩ := gives_pure.mp hfound
    rintro result ⟨⟩
  cases answer with
  | false => exact hnone hrest₁
  | true =>
    obtain ⟨set, u₃, k₅, k₆, hset, hfound, -⟩ := gives_bind.mp hrest₁
    rcases set with _ | native | _
    · exact hnone hfound
    · obtain ⟨rfl, -, -⟩ := gives_pure.mp hfound
      rintro result ⟨⟩
      exact Call.isEven_of_execute hserver hdriver (result_eq_of_resultSet hcall hset)
    · obtain ⟨projected, u₄, k₇, k₈, hprojected, hpure, -⟩ := gives_bind.mp hfound
      obtain ⟨rfl, -, -⟩ := gives_pure.mp hpure
      obtain ⟨q, hread, -⟩ := ends_within.mp hprojected
      rintro result ⟨⟩
      exact Projector.isEven_of_projectedResult hread

/-- Whatever command is run, what is found is even. -/
theorem isEven_of_found {server : Server σ} (hserver : server.IsEven) {s : Surroundings}
    {i : Invocation} {w w' : World σ} {f : Finding} {j : List RunEvent}
    (h : (found server s i).Gives w f w' j) : f.IsEven := by
  obtain ⟨settings, w₁, j₁, j₂, -, hrun, -⟩ := gives_bind.mp h
  obtain ⟨w₂, j₃, j₄, hcommand, -, -⟩ := gives_ensuring.mp hrun
  cases hname : i.command with
  | resolve =>
    rw [hname] at hcommand
    exact isEven_of_runResolve hcommand
  | plan =>
    rw [hname] at hcommand
    refine isEven_of_withInvoker (fun {i _ _ _ _ _} _ _ hpure => ?_) hcommand
    obtain ⟨rfl, -, -⟩ := gives_pure.mp hpure
    rintro result ⟨⟩
    exact isEven_columnListing i.plan.columns
  | call =>
    rw [hname] at hcommand
    exact isEven_of_withInvoker
      (fun hcall hp hgives => isEven_of_executeWith hserver hcall hp hgives) hcommand

/-! ### Reports -/

/-- An even result has a JSON report. -/
theorem lines_json_of_isEven {r : QueryResult} (h : r.IsEven) (compact : Bool) (terminal : Nat) :
    ∃ text, (Format.json compact).lines terminal r = .ok [text] := by
  have hwide : ∀ row ∈ r.rows, row.length = (r.columns.map (·.name)).length := fun row hrow =>
    (h.wide row hrow).trans (List.length_map ..).symm
  unfold Format.lines Json.text
  rw [Json.mapM_object hwide]
  exact ⟨_, rfl⟩

theorem reportOf_json {s : Surroundings} {i : Invocation} (hjson : i.wishes.format = some "json")
    (showTypes : Bool) (result : QueryResult) :
    reportOf s i showTypes result = (Format.json i.wishes.compact).lines
      (terminalWidth (Entries.get? "COLUMNS" s.environment)) result := by
  unfold reportOf Wishes.resolve
  rw [hjson]
  rfl

/-- **Every result is even, so that a JSON report never fails.** With a server in whose answers the
rows are as wide as what is told of the columns, whatever an invocation asks for, in whatever
surroundings and state: the result that its command finds counts its rows, all of which are as wide
as its columns, and it has a JSON report on one line and an indented one. So if JSON is selected,
nothing is raised but by the command itself. -/
theorem even_results_reported (server : Server σ) (hserver : server.IsEven) (s : Surroundings)
    (i : Invocation) (w : World σ) :
    (∀ f w' j result, (found server s i).Gives w f w' j → f.result = some result →
      result.IsEven ∧
        ∀ compact terminal, ∃ text, (Format.json compact).lines terminal result = .ok [text]) ∧
      (i.wishes.format = some "json" → ∀ fault, Raises server s i w fault →
        ∃ w' j, (found server s i).Fails w fault w' j) := by
  refine ⟨fun f w' j result hfound hresult => ?_, fun hjson fault hraises => ?_⟩
  · have heven := isEven_of_found hserver hfound result hresult
    exact ⟨heven, lines_json_of_isEven heven⟩
  · cases hraises with
    | running hfails => exact ⟨_, _, hfails⟩
    | reporting hfound hresult hreport =>
      obtain ⟨text, htext⟩ := lines_json_of_isEven (isEven_of_found hserver hfound _ hresult)
        i.wishes.compact (terminalWidth (Entries.get? "COLUMNS" s.environment))
      rw [reportOf_json hjson, htext] at hreport
      cases hreport

/-- A server that answers `SELECT 1` with one row, and acknowledges anything else. -/
def oneRowServer : Server Unit where
  connect _ := pure ()
  isOpen := pure true
  run sql _ := pure <|
    if sql = "SELECT 1" then
      { columns := [(.text "a", .int 23)], rows := [[.int 1]], status := .text "SELECT 1" }
    else {}
  disconnect := pure ()

/-- What that server answers is found and can be reported, and nothing is raised. -/
theorem one_row_reported :
    oneRowServer.IsEven ∧ (selecting "json").wishes.format = some "json" ∧
      (∃ f w' j result,
        (found oneRowServer bareSurroundings (selecting "json")).Gives { outside := () } f w' j ∧
          f.result = some result ∧ result.IsEven ∧
          (Format.json true).lines 80 result = .ok ["[\x7b\"a\": 1\x7d]"]) ∧
      ∀ fault,
        ¬ Raises oneRowServer bareSurroundings (selecting "json") { outside := () } fault := by
  have heven : oneRowServer.IsEven := by
    intro sql arguments v reply v' j h row hrow
    obtain ⟨rfl, -, -⟩ := gives_pure.mp h
    split at hrow
    case isTrue hsql =>
      obtain rfl := List.mem_singleton.mp hrow
      rw [if_pos hsql]
      rfl
    case isFalse => cases hrow
  obtain ⟨hfinds, hraises⟩ := even_results_reported oneRowServer heven bareSurroundings
    (selecting "json") { outside := () }
  have hshown : ((found oneRowServer bareSurroundings (selecting "json")).run
      { outside := () }).result.toOption.map (fun f => f.result.map fun result =>
        ((Format.json true).lines 80 result).toOption) =
      some (some (some ["[\x7b\"a\": 1\x7d]"])) := by decide +kernel
  obtain ⟨f, w', hgives, hreport⟩ := exists_gives_of_map_eq_some hshown
  obtain ⟨result, hresult, hlines⟩ := Option.map_eq_some_iff.mp hreport
  obtain ⟨hwide, hjson⟩ := hfinds _ _ _ _ hgives hresult
  refine ⟨heven, rfl, ⟨f, w', _, result, hgives, hresult, hwide, ?_⟩, fun fault hfault => ?_⟩
  · obtain ⟨text, htext⟩ := hjson true 80
    rw [htext] at hlines ⊢
    cases hlines
    rfl
  · obtain ⟨w₁, j, hfails⟩ := hraises rfl fault hfault
    exact hgives.not_fails hfails

end CommandLine

end ProcedureCall
