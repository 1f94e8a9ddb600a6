import ProcedureCall.Proofs.Postgres.Exchange
import ProcedureCall.Rehearsal.Server

/-!
# The failures that conditions become

A server can report a condition when a connection is opened, when the time limit is set and when the
statement runs. What the client makes of it depends on the condition and on the point
(`Client.faultAt`). The classes of failures are described by what they stand for
(`Condition.described`), and the client keeps to the description except in two places
(`Client.condition_becomes_described_iff`):

* A connection that takes too long is a failure of the network like any other, at all three points.
* When a connection is opened, only an error of operation is dealt with. Any other condition goes on
  as the server reported it, and a statement that is cancelled there is a failure of the network.

Whatever it was, the client can be used and closed afterwards (`Client.Usable`).
-/

namespace ProcedureCall

open ProcedureCall.Action

/-- The class of failure that a condition is described to become: a statement or a connection that
ran out of time, another error of operation, or anything else. -/
def Condition.described : Condition → ToolError
  | queryCanceled | connectionTimeout => .timeout
  | condition => if condition.isOperational then .network else .general

/-- The class of a failure of the program's own. -/
def Fault.class? : Fault → Option ToolError
  | tool kind _ => some kind
  | _ => none

namespace Postgres

variable {σ : Type}

/-- Where in a statement a server can report a condition. -/
inductive Point where
  /-- A connection is opened. -/
  | connecting
  /-- The time limit is set. -/
  | limiting
  /-- The statement runs. -/
  | executing
  deriving DecidableEq, Repr

namespace Client

variable (c : Client σ)

/-- The server reports a condition at a point of a statement, and leaves a world. -/
inductive Meets (sql : String) (arguments : Arguments) (w : World σ) (condition : Condition)
    (message : String) : Point → World σ → Prop where
  /-- No connection stands, and the server refuses a new one. -/
  | connecting {u v : σ} : c.Unconnected w u →
      (c.server.connect c.settings.connection).Fails u (.server condition message) v [] →
      Meets sql arguments w condition message .connecting { w with outside := v }
  /-- On the connection the server refuses the time limit. -/
  | limiting {w₁ : World σ} {ms : List Message} {millis : Int} {v : σ} :
      c.Connects w (.ok ()) w₁ ms → c.settings.timeoutMillis = .ok millis →
      (c.server.run (limitStatement millis) .none).Fails w₁.outside (.server condition message)
        v [] →
      Meets sql arguments w condition message .limiting { w₁ with outside := v }
  /-- Under the time limit the server refuses the statement. -/
  | executing {w₁ : World σ} {ms : List Message} {millis : Int} {ignored : Reply} {u v : σ} :
      c.Connects w (.ok ()) w₁ ms → c.settings.timeoutMillis = .ok millis →
      (c.server.run (limitStatement millis) .none).Gives w₁.outside ignored u [] →
      (c.server.run sql arguments).Fails u (.server condition message) v [] →
      Meets sql arguments w condition message .executing { w₁ with outside := v }

/-- The failure that a condition becomes at a point. -/
def faultAt (condition : Condition) (message : String) : Point → Fault
  | .connecting => c.connectionFault (.server condition message)
  | .limiting | .executing => c.statementFault (.server condition message)

/-- The server serves a statement: the connection stands or a new one is opened, the time limit is
set, and the reply to the statement can be read. -/
def IsServed (w : World σ) (sql : String) (arguments : Arguments) (result : QueryResult) : Prop :=
  ∃ w₁ ms millis reply v ms', c.Connects w (.ok ()) w₁ ms ∧
    c.settings.timeoutMillis = .ok millis ∧
    c.Answers millis sql arguments w₁.outside (.ok reply) v ms' ∧ reply.toResult = .ok result

/-- The client can be used and closed: a statement that the server serves gives its result, and if
the server closes what is held, nothing is held any more. -/
structure Usable (w : World σ) : Prop where
  /-- A statement gives its result. -/
  query : ∀ {sql arguments result}, c.IsServed w sql arguments result →
    ∃ w' j, (c.query sql arguments).Gives w result w' j
  /-- Closing goes through. -/
  close : (w.isHeld = true → ∃ v, c.server.disconnect.Gives w.outside () v []) →
    ∃ w' j, c.close.Gives w () w' j ∧ w'.isHeld = false

variable {c} {sql : String} {arguments : Arguments} {w w' : World σ} {condition : Condition}
  {message : String} {point : Point}

theorem usable (w : World σ) : c.Usable w where
  query := by
    rintro sql arguments result ⟨w₁, ms, millis, reply, v, ms', hconnects, htime, hanswers, hresult⟩
    obtain ⟨j, hends, -⟩ := (Exchange.answered hconnects htime hanswers).exists_ends
    rw [resultOf, hresult] at hends
    exact ⟨_, j, hends⟩
  close := by
    intro hdisconnects
    obtain ⟨r, w', j, hends⟩ := exists_ends c.close w
    rcases close_ends hends with ⟨hnone, rfl, rfl, -⟩ | ⟨hheld, v, hdropped, rfl, -⟩
    · exact ⟨w', j, hends, hnone⟩
    · obtain ⟨u, hgives⟩ := hdisconnects hheld
      obtain ⟨rfl, -, -⟩ := Ends.unique hdropped hgives
      exact ⟨_, j, hends, rfl⟩

/-- A condition that is met keeps the statement from its result. -/
theorem Meets.query_fails (h : c.Meets sql arguments w condition message point w') :
    ∃ j, (c.query sql arguments).Fails w (c.faultAt condition message point) w' j := by
  have hexchange : ∃ ms, c.Exchange sql arguments w
      (.error (c.faultAt condition message point)) w' ms := by
    cases h with
    | connecting hunconnected hrefused => exact ⟨_, .unconnected (.refused hunconnected hrefused)⟩
    | limiting hconnects htime hrefused =>
      exact ⟨_, .answered hconnects htime (.unlimited hrefused)⟩
    | executing hconnects htime hset hrefused =>
      exact ⟨_, .answered hconnects htime (.limited hset hrefused)⟩
  obtain ⟨ms, hexchange⟩ := hexchange
  obtain ⟨j, hends, -⟩ := hexchange.exists_ends
  exact ⟨j, hends⟩

/-- A failure that comes of connecting is one of the network, or what the server reported. -/
theorem class?_connectionFault : (c.connectionFault (.server condition message)).class? =
    if condition.isOperational then some .network else none := by
  cases hoperational : condition.isOperational <;>
    simp [connectionFault, hoperational, Fault.class?]

/-- A failure that comes of a statement is the program's own. -/
theorem class?_statementFault : (c.statementFault (.server condition message)).class? =
    some (if condition = .queryCanceled then .timeout
      else if condition.isOperational then .network else .general) := by
  unfold statementFault treatment
  cases condition <;> rfl

/-- **What conditions become.** A condition that the server reports at any point of a statement makes
it fail. The failure is of the class that is described exactly if the condition is not that
connecting took too long and, when a connection is opened, it is an error of operation other than a
cancelled statement; it is of the program's own exactly if it is not reported when a connection is
opened or is an error of operation, and otherwise it is what the server reported. Afterwards the
client can be used and closed. -/
theorem condition_becomes_described_iff
    (h : c.Meets sql arguments w condition message point w') :
    (∃ j, (c.query sql arguments).Fails w (c.faultAt condition message point) w' j) ∧
      ((c.faultAt condition message point).class? = some condition.described ↔
        condition ≠ .connectionTimeout ∧
          (point = .connecting → condition.isOperational = true ∧ condition ≠ .queryCanceled)) ∧
      ((c.faultAt condition message point).class?.isSome = true ↔
        (point = .connecting → condition.isOperational = true)) ∧
      ((c.faultAt condition message point).class? = none →
        c.faultAt condition message point = .server condition message) ∧
      c.Usable w' := by
  have hclass : (c.faultAt condition message point).class? =
      if point = .connecting then if condition.isOperational then some .network else none
      else some (if condition = .queryCanceled then .timeout
        else if condition.isOperational then .network else .general) := by
    cases point with
    | connecting => exact class?_connectionFault
    | limiting | executing => exact class?_statementFault
  refine ⟨h.query_fails, ?_, ?_, ?_, usable w'⟩
  · rw [hclass]
    cases point <;> cases condition <;> decide
  · rw [hclass]
    cases point <;> cases condition <;> decide
  · intro hnone
    rw [hclass] at hnone
    by_cases hpoint : point = .connecting
    · subst hpoint
      by_cases hoperational : condition.isOperational = true
      · simp [hoperational] at hnone
      · exact if_neg hoperational
    · simp [hpoint] at hnone

/-! ### A server that refuses -/

/-- The client of a scripted server with the settings that hold where nothing else is said. -/
def defaultClient : Client Rehearsal.ServerWorld where
  settings := {}
  server := Rehearsal.ServerScript.server {}

/-- A server that cancels the next time limit that is set. -/
def cancellingLimit : Rehearsal.ServerWorld where
  statementFaults := [⟨"SET statement_timeout", .server .queryCanceled "canceled", 1⟩]

theorem cancelled_limit_is_timeout :
    ∃ w', defaultClient.Meets "SELECT 1" .none { outside := cancellingLimit } .queryCanceled
        "canceled" .limiting w' ∧
      (defaultClient.faultAt .queryCanceled "canceled" .limiting).class? = some .timeout ∧
      defaultClient.Usable w' := by
  have hconnects : defaultClient.Connects { outside := cancellingLimit } (.ok ())
      { isHeld := true, outside := { cancellingLimit with isOpen := true } }
      [.connect defaultClient.settings.connection true] :=
    .opened (u := cancellingLimit) (.unheld rfl) rfl
  have hmeets : ∃ w', defaultClient.Meets "SELECT 1" .none { outside := cancellingLimit }
      .queryCanceled "canceled" .limiting w' := ⟨_, .limiting hconnects rfl rfl⟩
  obtain ⟨w', hmeets⟩ := hmeets
  obtain ⟨-, hdescribed, -, -, husable⟩ := condition_becomes_described_iff hmeets
  exact ⟨_, hmeets, hdescribed.mpr ⟨by decide, by decide⟩, husable⟩

/-- A connection that takes too long is reported as a failure of the network, and an error in the
program that is reported by a connection goes on as it is. -/
theorem slow_connection_is_network :
    (∃ w' j, (defaultClient.query "SELECT 1" .none).Fails
      { outside := { connectFaults := [some (.server .connectionTimeout "timeout expired")] } }
      (.tool .network
        "Connection failed to localhost:5432 database 'postgres': timeout expired") w' j) ∧
      ∃ w' j, (defaultClient.query "SELECT 1" .none).Fails
        { outside := { connectFaults := [some (.server .programming "no such option")] } }
        (.server .programming "no such option") w' j :=
  ⟨⟨_, _, rfl⟩, ⟨_, _, rfl⟩⟩

end Client

end Postgres

end ProcedureCall
