import ProcedureCall.Postgres.Catalog
import ProcedureCall.Proofs.Catalog.LookUp
import ProcedureCall.Proofs.Postgres.Client

/-!
# What the catalog of a server asks

The catalog hands its client four statements and no others (`catalogStatements`). Whatever these
four do, and whatever it is to count a procedure that was found, every request of a look-up does
(`LooksUp`); to read parameters is to keep them besides. A procedure is found only if its statements
were run (`exists_timeoutMillis_of_find`).
-/

namespace ProcedureCall.Postgres

open ProcedureCall.Action

variable {σ : Type}

/-- The statements that the catalog is read with. -/
def catalogStatements : List String := [currentSchemaSql, schemaSql, procedureSql, parametersSql]

namespace Catalog

/-- The relation holds of the four statements and of counting a procedure that was found. -/
structure LooksUp (c : Catalog σ) (P : World σ → List Note → World σ → Prop) : Prop
    extends Chains P where
  /-- A statement is run. -/
  query : ∀ sql ∈ catalogStatements, ∀ arguments, Does P (c.client.query sql arguments)
  /-- A procedure was found. -/
  found : ∀ w count, P w [] { w with found := count }

variable {c : Catalog σ} {P : World σ → List Note → World σ → Prop}

theorem LooksUp.load (h : c.LooksUp P) {sql : String} (hsql : sql ∈ catalogStatements)
    (arguments : Arguments) (what : String) : Does P (c.load sql arguments what) := by
  refine (h.query sql hsql arguments).attempt.bind h.toChains fun r => ?_
  rcases r with fault | result
  · cases fault with
    | tool _ message => exact does_fail h.toChains _
    | _ => exact does_fail h.toChains _
  · exact does_pure h.toChains _

theorem LooksUp.schema (h : c.LooksUp P) (name : Value) : Does P (c.schema name) := by
  refine (h.load (by simp [catalogStatements]) _ _).bind h.toChains fun result => ?_
  split
  · exact does_pure h.toChains _
  · exact does_pure h.toChains _
  · exact does_fail h.toChains _

theorem LooksUp.routine (h : c.LooksUp P) (schema name : String) :
    Does P (c.routine schema name) := by
  refine (h.load (by simp [catalogStatements]) _ _).bind h.toChains fun result => ?_
  split
  · exact does_pure h.toChains _
  · exact (does_world h.toChains).bind h.toChains fun _ =>
      (does_change fun w => h.found w _).bind h.toChains fun _ => does_pure h.toChains _
  · exact does_fail h.toChains _

theorem LooksUp.child (h : c.LooksUp P) (node : Node) (name : String) :
    Does P (c.child node name) := by
  cases node with
  | database => exact h.schema _
  | schema schema => exact (h.routine schema name).bind h.toChains fun _ => does_pure h.toChains _
  | routine => exact does_pure h.toChains _

theorem LooksUp.procedure (h : c.LooksUp P) (node : Node) (name : String) :
    Does P (c.procedure node name) := by
  cases node with
  | schema schema => exact h.routine schema name
  | database => exact does_pure h.toChains _
  | routine => exact does_pure h.toChains _

theorem LooksUp.selected (h : c.LooksUp P) : Does P c.selected := by
  have hname : Does P c.schemaName := by
    unfold schemaName
    split
    · exact does_pure h.toChains _
    · refine (h.load (by simp [catalogStatements]) _ _).bind h.toChains fun result => ?_
      split
      · exact does_pure h.toChains _
      · exact does_pure h.toChains _
  refine hname.bind h.toChains fun name => ?_
  split
  · exact (h.schema name).bind h.toChains fun _ => does_pure h.toChains _
  · exact does_pure h.toChains _

theorem LooksUp.parameters (h : c.LooksUp P)
    (hloaded : ∀ w loaded, P w [] { w with loaded }) (r : Routine) : Does P (c.parameters r) := by
  refine (does_world h.toChains).bind h.toChains fun w => ?_
  split
  · exact does_pure h.toChains _
  · exact (h.load (by simp [catalogStatements]) _ _).bind h.toChains fun _ =>
      (does_ofExcept h.toChains _).bind h.toChains fun _ =>
        (does_change fun w => hloaded w _).bind h.toChains fun _ => does_pure h.toChains _

/-! ### What was found -/

variable {w w' : World σ} {sql what : String} {arguments : Arguments} {result : QueryResult}
  {j : List Note}

theorem load_gives (h : (c.client.query sql arguments).Gives w result w' j) (what : String) :
    ∃ k, (c.load sql arguments what).Gives w result w' k :=
  ⟨_, (gives_attempt_ok.mpr h).bind (pure_gives result w')⟩

theorem exists_query_gives_of_load (h : (c.load sql arguments what).Gives w result w' j) :
    ∃ w₁ k, (c.client.query sql arguments).Gives w result w₁ k := by
  obtain ⟨r, w₁, k, _, hquery, hrest, -⟩ := gives_bind.mp h
  rcases r with fault | found
  · cases fault with
    | tool _ message => exact absurd hrest not_gives_fail
    | _ => exact absurd hrest not_gives_fail
  · obtain ⟨rfl, -, -⟩ := gives_pure.mp hrest
    exact ⟨w₁, k, gives_attempt_ok.mp hquery⟩

/-- A procedure is found only by a client whose time limit can be sent. -/
theorem exists_timeoutMillis_of_find {text : Option String} {r : Routine}
    {k : List (Event Node Routine)} (h : (c.session.find text).Gives w (some r) w' k) :
    ∃ millis, c.client.settings.timeoutMillis = .ok millis := by
  obtain ⟨container, name, v, v', notes, hprocedure⟩ := Session.exists_procedure_gives_of_find h
  cases container with
  | database => cases (gives_pure.mp hprocedure).1
  | routine => cases (gives_pure.mp hprocedure).1
  | schema schema =>
    obtain ⟨result, _, _, _, hload, -, -⟩ := gives_bind.mp hprocedure
    obtain ⟨_, _, hquery⟩ := exists_query_gives_of_load hload
    exact Client.exists_timeoutMillis_of_query hquery

end Catalog

end ProcedureCall.Postgres
