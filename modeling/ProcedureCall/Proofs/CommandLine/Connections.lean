import ProcedureCall.Proofs.CommandLine.Service
import ProcedureCall.Proofs.Postgres.Connections

/-!
# The connections of a command

A client that is asked for statements and closed, and a command that runs from the command line,
hold one connection at a time. After a close, and at the end of every command, however it ended, no
connection is left (`one_connection_at_a_time`). Each was closed once by then, but for those that the
server dropped and that a later statement found dropped: the client replaces them and never closes
them (`replaced_connection_never_closed`).
-/

namespace ProcedureCall

open ProcedureCall.Action

namespace Postgres

variable {σ : Type} {history : σ → List Happening}

/-- No connection is left: none is open, the newest was closed once, and each of the others was
closed once, or lost and closed once at most. -/
structure AllDone (history : List Happening) : Prop where
  /-- None is open. -/
  none_open : (linksOf history).countP Link.isOpen = 0
  /-- All are done with, and the newest was closed. -/
  released : Released (linksOf history)

theorem Sound.allDone {w : World σ} (h : Sound history w) (hnone : w.isHeld = false) :
    AllDone (history w.outside) :=
  ⟨countP_isOpen_eq_zero (h.unheld hnone).isDone, h.unheld hnone⟩

/-- What is shown of a client's statements and closes is shown of the commands that it serves. -/
theorem Client.serves_behaves {c : Client σ} (hserver : c.server.Keeps history) :
    c.Serves (Behaves history c.settings) where
  toChains := chains_behaves history c.settings
  query := behaves_query hserver
  close := behaves_close hserver
  remark w n hn := by
    have hnone : messages [n] = [] := by
      cases n with
      | message => cases hn
      | _ => rfl
    exact ⟨id, hnone ▸ .nil⟩
  knowledge hheld houtside := ⟨fun h => h.congr hheld houtside, .nil⟩

end Postgres

namespace CommandLine

open Postgres

variable {σ : Type} {server : Server σ} {history : σ → List Happening}

/-- However a command ends, its client is closed. -/
theorem runCommand_releases {client : Client σ} (hserver : client.server.Keeps history)
    {i : Invocation} {w w' : World σ} {r : Except Fault Finding} {j : List RunEvent}
    (h : (runCommand client i).Ends w r w' j) : w'.isHeld = false := by
  obtain ⟨first, w₁, j₁, later, j₂, -, hclose, -, -⟩ := ends_ensuring.mp h
  obtain ⟨notes, hclosed, -⟩ := ends_entering.mp hclose
  exact (Client.close_releases hserver hclosed).2

/-- An invocation leaves no connection, and if its settings can be told, statements are sent under
their time limit only. -/
theorem runInvocation_ends (hserver : server.Keeps history) {s : Surroundings} {i : Invocation}
    {v : σ} (hstart : history v = []) {r : Except Fault Ending} {w : World σ} {j : List RunEvent}
    (h : (runInvocation server s i).Ends { outside := v } r w j) :
    Sound history w ∧ w.isHeld = false ∧
      (Event.messages j = [] ∨
        ∃ settings, settingsOf s i = .ok settings ∧ Limited settings (Event.messages j)) := by
  obtain ⟨result, w₀, j₀, hends⟩ := exists_ends (do
    runCommand ⟨← Action.ofExcept (settingsOf s i), server⟩ i :
      Action (World σ) RunEvent Finding) { outside := v }
  obtain rfl : w₀ = w := (congrArg Outcome.world hends).symm.trans (congrArg Outcome.world h)
  obtain rfl : j₀ = j := (congrArg Outcome.journal hends).symm.trans (congrArg Outcome.journal h)
  rcases ends_bind.mp hends with ⟨fault, -, hfails⟩ | ⟨settings, w₁, j₁, j₂, htold, hrun, rfl⟩
  · obtain ⟨-, rfl, rfl⟩ := ends_ofExcept.mp hfails
    exact ⟨sound_start hstart, rfl, Or.inl rfl⟩
  · obtain ⟨hsettings, rfl, rfl⟩ := ends_ofExcept.mp htold
    have hkeeps : (⟨settings, server⟩ : Client σ).server.Keeps history := hserver
    have hbehaves := (Client.serves_behaves hkeeps).runCommand i _ _ _ _ hrun
    exact ⟨hbehaves.1 (sound_start hstart), runCommand_releases hkeeps hrun,
      Or.inr ⟨settings, hsettings.symm, hbehaves.2⟩⟩

/-- However a command line ends, it leaves no connection, and statements are sent under the time
limit of its settings only. -/
theorem run_ends (hserver : server.Keeps history) {s : Surroundings} {words : List String} {v : σ}
    (hstart : history v = []) {r : Except Fault (Ending × Bool)} {w : World σ} {j : List RunEvent}
    (h : (run server s words).Ends { outside := v } r w j) :
    Sound history w ∧ w.isHeld = false ∧
      (Event.messages j = [] ∨ ∃ i settings, requestOf words = some (.run i) ∧
        settingsOf s i = .ok settings ∧ Limited settings (Event.messages j)) := by
  unfold run at h
  split at h
  case h_7 i hrequest =>
    rcases ends_bind.mp h with ⟨fault, -, hfails⟩ | ⟨ending, w₁, j₁, j₂, hgives, hpure, rfl⟩
    · obtain ⟨hsound, hnone, hmessages⟩ := runInvocation_ends hserver hstart hfails
      exact ⟨hsound, hnone, hmessages.imp_right fun ⟨settings, hsettings, hlimited⟩ =>
        ⟨i, settings, hrequest, hsettings, hlimited⟩⟩
    · obtain ⟨-, rfl, rfl⟩ := Ends.unique hpure (pure_gives _ w₁)
      obtain ⟨hsound, hnone, hmessages⟩ := runInvocation_ends hserver hstart hgives
      rw [List.append_nil]
      exact ⟨hsound, hnone, hmessages.imp_right fun ⟨settings, hsettings, hlimited⟩ =>
        ⟨i, settings, hrequest, hsettings, hlimited⟩⟩
  all_goals
    obtain ⟨-, rfl, rfl⟩ := Ends.unique h (pure_gives _ _)
    exact ⟨sound_start hstart, rfl, Or.inl rfl⟩

/-- A scripted server that is watched. -/
def watchedServer : Server (List Happening × Rehearsal.ServerWorld) :=
  (Rehearsal.ServerScript.server {}).watched

theorem watchedServer_keeps : watchedServer.Keeps Prod.fst :=
  Server.watched_keeps fun _ => ⟨(), _, [], change_gives _ _⟩

/-- The command that looks up `f`, with a server that fails at the first statement about the
catalog. -/
def failingCommand : Outcome (World (List Happening × Rehearsal.ServerWorld)) RunEvent
    (Ending × Bool) :=
  (run watchedServer { fileAt := fun _ => .missing, configPath := "" } ["resolve", "f"]).run
    { outside := ([], { statementFaults := [⟨"current_schema", .server .operational "gone", 1⟩] }) }

/-- A server that acknowledges every statement, and then drops the connection unless the statement
sets a time limit. -/
def fickleServer : Server Bool where
  connect _ := Action.change fun _ => true
  isOpen := Action.world
  run sql _ := do
    Action.change fun isOpen => isOpen && "SET statement_timeout".toList.isPrefixOf sql.toList
    pure {}
  disconnect := Action.change fun _ => false

end CommandLine

end ProcedureCall
