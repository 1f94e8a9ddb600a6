import Mathlib.Tactic.SplitIfs
import ProcedureCall.Proofs.Postgres.Catalog
import ProcedureCall.Rehearsal.Server

/-!
# A server without faults

A server with a script runs into no fault once none is scripted any more (`ServerWorld.IsCalm`). It
then gives its answer to every statement (`query_gives`), and a statement about the catalog uses up
none of the answers that are scripted for the others (`spares_query`).
-/

namespace ProcedureCall.Rehearsal

open ProcedureCall.Action Postgres

/-- No fault is to come. -/
structure ServerWorld.IsCalm (w : ServerWorld) : Prop where
  /-- Every connection is accepted. -/
  connectFaults : ∀ fault ∈ w.connectFaults, fault = none
  /-- No statement fails. -/
  statementFaults : w.statementFaults = []

/-- If the first world is without faults, so is the second, and no answer was used up. -/
def ServerWorld.Spares (w w' : ServerWorld) : Prop :=
  w.IsCalm → w'.IsCalm ∧ w'.replies = w.replies

theorem ServerWorld.Spares.trans {u v w : ServerWorld} (h₁ : u.Spares v) (h₂ : v.Spares w) :
    u.Spares w := fun hu =>
  ⟨(h₂ (h₁ hu).1).1, (h₂ (h₁ hu).1).2.trans (h₁ hu).2⟩

namespace ServerScript

variable (s : ServerScript)

/-- The answer to a statement that does not fail. -/
def answer (w : ServerWorld) (sql : String) (arguments : Arguments) : Reply :=
  (s.catalogReply? sql arguments).getD (w.replies.head?.getD s.lastReply)

variable {s}

theorem run_gives {w : ServerWorld} (hw : w.IsCalm) (sql : String) (arguments : Arguments) :
    ∃ w', (s.run sql arguments).Gives w (s.answer w sql arguments) w' [] ∧ w'.IsCalm ∧
      ((s.catalogReply? sql arguments).isSome = true → w' = w) := by
  have hfault : takeFault sql w.statementFaults = none := by rw [hw.statementFaults]; rfl
  unfold answer
  cases hreply : s.catalogReply? sql arguments with
  | some reply =>
    refine ⟨w, (world_gives w).bind ?_, hw, fun _ => rfl⟩
    rw [hfault, hreply]
    exact pure_gives reply w
  | none =>
    refine ⟨{ w with replies := w.replies.drop 1 }, (world_gives w).bind ?_,
      ⟨hw.connectFaults, hw.statementFaults⟩, fun h => by cases h⟩
    rw [hfault, hreply]
    exact (change_gives _ w).bind (pure_gives _ _)

theorem connect_gives {w : ServerWorld} (hw : w.IsCalm) (options : ConnectionOptions) :
    ∃ w', (s.server.connect options).Gives w () w' [] ∧ w'.IsCalm ∧ w'.replies = w.replies := by
  have hnone : w.connectFaults.head?.join = none := by
    cases hfaults : w.connectFaults with
    | nil => rfl
    | cons fault faults => simp [hw.connectFaults fault (by rw [hfaults]; simp)]
  refine ⟨{ w with connectFaults := w.connectFaults.drop 1, isOpen := true },
    (world_gives w).bind ((change_gives _ w).bind ?_),
    ⟨fun fault h => hw.connectFaults fault (List.mem_of_mem_drop h), hw.statementFaults⟩, rfl⟩
  rw [hnone]
  exact change_gives _ _

theorem isOpen_gives (w : ServerWorld) : s.server.isOpen.Gives w w.isOpen w [] :=
  (world_gives w).bind (pure_gives _ w)

/-! ### Statements about the catalog -/

/-- The time limit is acknowledged. -/
theorem catalogReply?_limit (millis : String) (arguments : Arguments) :
    s.catalogReply? ("SET statement_timeout = " ++ millis) arguments = some {} := by
  have hprefix : "SET statement_timeout".toList.isPrefixOf
      ("SET statement_timeout = " ++ millis).toList = true := by
    rw [String.toList_append]
    rfl
  unfold catalogReply?
  exact if_pos hprefix

/-- The characters of a text. To compute those of a long text takes long, but unification finds them
at once. -/
theorem toList_of_eq_ofList {t : String} {chars : List Char} (h : t = String.ofList chars) :
    t.toList = chars := by
  rw [h, String.toList_ofList]

set_option maxRecDepth 2000 in
/-- Each of the statements about the catalog holds a run of characters by which it is known. -/
theorem holds_of_mem_catalogStatements {sql : String} (h : sql ∈ catalogStatements) :
    Text.containsRun "current_schema()".toList sql.toList = true ∨
      Text.containsRun "nspname = %(name)s".toList sql.toList = true ∨
      Text.containsRun "prokind".toList sql.toList = true ∨
      Text.containsRun "WITH ORDINALITY".toList sql.toList = true := by
  simp only [catalogStatements, List.mem_cons, List.not_mem_nil, or_false] at h
  rcases h with rfl | rfl | rfl | rfl
  · rw [toList_of_eq_ofList (t := currentSchemaSql) rfl]
    decide +kernel
  · rw [toList_of_eq_ofList (t := schemaSql) rfl]
    decide +kernel
  · rw [toList_of_eq_ofList (t := procedureSql) rfl]
    decide +kernel
  · rw [toList_of_eq_ofList (t := parametersSql) rfl]
    decide +kernel

/-- A statement about the catalog is answered from the catalog. -/
theorem isSome_catalogReply? {sql : String} (h : sql ∈ catalogStatements) (arguments : Arguments) :
    (s.catalogReply? sql arguments).isSome = true := by
  have hholds := holds_of_mem_catalogStatements h
  unfold catalogReply?
  dsimp only
  split_ifs with hlimit hcurrent hschema hprocedure hparameters
  case neg =>
    rcases hholds with hruns | hruns | hruns | hruns
    · exact absurd hruns hcurrent
    · exact absurd hruns hschema
    · exact absurd hruns hprocedure
    · exact absurd hruns hparameters
  all_goals rfl

set_option maxRecDepth 2000 in
/-- Of the runs of characters that are looked for in turn, the statement about parameters holds only
the last. -/
theorem holds_parametersSql :
    "SET statement_timeout".toList.isPrefixOf parametersSql.toList = false ∧
      Text.containsRun "current_schema()".toList parametersSql.toList = false ∧
      Text.containsRun "nspname = %(name)s".toList parametersSql.toList = false ∧
      Text.containsRun "prokind".toList parametersSql.toList = false ∧
      Text.containsRun "WITH ORDINALITY".toList parametersSql.toList = true := by
  rw [toList_of_eq_ofList (t := parametersSql) rfl]
  decide +kernel

/-- The parameters of a procedure are told by its number. -/
theorem catalogReply?_parameters {place : Nat} {known : KnownProcedure}
    (h : s.procedures[place]? = some known) :
    s.catalogReply? parametersSql (.named [("oid", .int (firstOid + place))]) = some
      { columns :=
          [ (.text "position", .int 20), (.text "name", .int 25), (.text "mode", .int 25),
            (.text "type_name", .int 25) ]
        rows := known.parameters } := by
  obtain ⟨hlimit, hcurrent, hschema, hprocedure, hparameters⟩ := holds_parametersSql
  have hplace : ((argument "oid" (.named [("oid", .int (firstOid + place))])).asInt?.getD 0 -
      firstOid).toNat = place := by
    simp only [argument, Entries.get?, Value.asInt?, if_true, Option.getD_some]
    omega
  unfold catalogReply?
  rw [if_neg (by rw [hlimit]; decide)]
  dsimp only
  rw [if_neg (by rw [hcurrent]; decide), if_neg (by rw [hschema]; decide),
    if_neg (by rw [hprocedure]; decide), if_pos hparameters, hplace, h]
  rfl

/-! ### A client of the server -/

theorem spares_onServer {α : Type} {a : Action ServerWorld Empty α}
    (h : Does (fun w _ w' => w.Spares w') a) :
    Does (fun (w : Postgres.World ServerWorld) _ w' => w.outside.Spares w'.outside)
      (Client.onServer a) := by
  have hnotes : Does (fun (w : ServerWorld) (_ : List Note) w' => w.Spares w')
      (a.entering Empty.elim) := h.entering fun _ _ _ h => h
  exact hnotes.within fun _ _ _ h => h

variable {c : Client ServerWorld} {sql : String} {arguments : Arguments}

theorem spares_run (h : (s.catalogReply? sql arguments).isSome = true) :
    Does (fun w _ w' => w.Spares w') (s.run sql arguments) := by
  intro w r w' j hends hw
  obtain ⟨v, hgives, hcalm, hsame⟩ := run_gives (s := s) hw sql arguments
  obtain ⟨-, rfl, -⟩ := Ends.unique hends hgives
  exact ⟨hcalm, by rw [hsame h]⟩

/-- A statement about the catalog uses up no answer. -/
theorem spares_query (hserver : c.server = s.server)
    (h : (s.catalogReply? sql arguments).isSome = true) :
    Does (fun w _ w' => w.outside.Spares w'.outside) (c.query sql arguments) := by
  have hcarries : c.Carries sql arguments fun w _ w' => w.outside.Spares w'.outside :=
    { nil := fun _ hw => ⟨hw, rfl⟩
      append := fun h₁ h₂ => h₁.trans h₂
      note := fun _ _ _ hw => ⟨hw, rfl⟩
      held := fun _ _ hw => ⟨hw, rfl⟩
      isOpen := by
        rw [hserver]
        refine spares_onServer fun w r w' j hends hw => ?_
        obtain ⟨-, rfl, -⟩ := Ends.unique hends (isOpen_gives w)
        exact ⟨hw, rfl⟩
      connect := by
        rw [hserver]
        refine spares_onServer fun w r w' j hends hw => ?_
        obtain ⟨v, hgives, hcalm, hreplies⟩ := connect_gives (s := s) hw c.settings.connection
        obtain ⟨-, rfl, -⟩ := Ends.unique hends hgives
        exact ⟨hcalm, hreplies⟩
      limit := fun millis => by
        rw [hserver]
        exact spares_onServer (spares_run (by rw [catalogReply?_limit]; rfl))
      statement := by
        rw [hserver]
        exact spares_onServer (spares_run h) }
  intro w r w' j hends
  obtain ⟨k, -, hspares⟩ := hcarries.query hends
  exact hspares

/-- A client that holds no connection, or a dropped one, gets one. -/
theorem client_connect_gives (hserver : c.server = s.server) {w : Postgres.World ServerWorld}
    (hw : w.outside.IsCalm) :
    ∃ w' j, c.connect.Gives w () w' j ∧ w'.outside.IsCalm ∧
      w'.outside.replies = w.outside.replies := by
  have hconnected : ∃ isOpen, c.isConnected.Gives w isOpen w [] := by
    unfold Client.isConnected
    rw [hserver]
    cases hheld : w.isHeld with
    | false =>
      refine ⟨false, (world_gives w).bind ?_⟩
      rw [hheld]
      exact pure_gives false w
    | true =>
      refine ⟨w.outside.isOpen, (world_gives w).bind ?_⟩
      rw [hheld]
      exact Client.onServer_gives (isOpen_gives w.outside)
  obtain ⟨isOpen, hconnected⟩ := hconnected
  cases isOpen with
  | true => exact ⟨w, _, hconnected.bind (pure_gives () w), hw, rfl⟩
  | false =>
    obtain ⟨v, hopened, hcalm, hreplies⟩ := connect_gives (s := s) hw c.settings.connection
    rw [← hserver] at hopened
    obtain ⟨j, hopen⟩ := Client.openConnection_gives hopened
    exact ⟨_, _, hconnected.bind hopen, hcalm, hreplies⟩

/-- A statement gives the result that the server's answer is taken for. -/
theorem query_gives (hserver : c.server = s.server) {millis : Int}
    (hmillis : c.settings.timeoutMillis = .ok millis) {w : Postgres.World ServerWorld}
    (hw : w.outside.IsCalm) {result : QueryResult}
    (hresult : (s.answer w.outside sql arguments).toResult = .ok result) :
    ∃ w' j, (c.query sql arguments).Gives w result w' j := by
  obtain ⟨w₁, k, hconnect, hcalm, hreplies⟩ := client_connect_gives hserver hw
  obtain ⟨v, hlimit, hcalm', hsame⟩ := run_gives (s := s) hcalm
    ("SET statement_timeout = " ++ String.ofList (Numeral.text millis)) .none
  obtain rfl : v = w₁.outside := hsame (by rw [catalogReply?_limit]; rfl)
  obtain ⟨v', hrun, -, -⟩ := run_gives (s := s) hcalm sql arguments
  have hanswer : (s.answer w₁.outside sql arguments).toResult = .ok result := by
    rw [answer, hreplies]
    exact hresult
  obtain ⟨j, hquery⟩ := Client.query_gives hconnect hmillis
    (by rw [hserver]; exact hlimit) (by rw [hserver]; exact hrun) hanswer
  exact ⟨_, j, hquery⟩

end ServerScript

end ProcedureCall.Rehearsal
