import ProcedureCall.Postgres.Client
import ProcedureCall.Proofs.Fallible
import ProcedureCall.Proofs.Plan.Steps

/-!
# What a client is asked and what it touches

Of what a client leaves in the journal, the statements that it was handed count here (`queries`).
What the messages of a statement do, the client does that runs it (`Client.Carries`). So, whatever
the server does, the client is handed the statement and nothing else, and what is known of the
catalog and of the call stays (`Client.does_query`). If the server takes a statement and its reply
can be read, the statement gives the result (`Client.query_gives`).
-/

namespace ProcedureCall

open ProcedureCall.Action

/-- The statements that a client was asked to run, with their values, in order. -/
def queries (notes : List Note) : List (String × Arguments) :=
  notes.filterMap fun
    | .queried sql arguments => some (sql, arguments)
    | _ => none

@[simp] theorem queries_append (j₁ j₂ : List Note) :
    queries (j₁ ++ j₂) = queries j₁ ++ queries j₂ := List.filterMap_append

namespace Event

variable {ν π : Type}

/-- The statements that a client was asked to run on the way, with their values, in order. -/
def queries (journal : List (Event ν π)) : List (String × Arguments) :=
  ProcedureCall.queries (notes journal)

@[simp] theorem queries_append (j₁ j₂ : List (Event ν π)) :
    queries (j₁ ++ j₂) = queries j₁ ++ queries j₂ := by
  rw [queries, notes, List.filterMap_append, ProcedureCall.queries_append]
  rfl

@[simp] theorem queries_notes (j : List Note) :
    queries (j.map (.note : Note → Event ν π)) = ProcedureCall.queries j := by
  rw [queries, notes, List.filterMap_map]
  exact congrArg ProcedureCall.queries List.filterMap_some

end Event

/-! ### Relations on the statements -/

section

variable {σ ν π α : Type} {R : σ → List (String × Arguments) → σ → Prop}

theorem chains_queries (hR : Chains R) : Chains fun w j w' => R w (queries j) w' :=
  hR.comap rfl queries_append

theorem quiet_queries (hR : Chains R) :
    Quiet fun w (j : List (Event ν π)) w' => R w (Event.queries j) w' where
  toChains := hR.comap rfl Event.queries_append
  remark w n hn := by
    have hnone : Event.queries [(.note n : Event ν π)] = [] := by
      cases n with
      | queried => cases hn
      | _ => rfl
    rw [hnone]
    exact hR.nil w

/-- A request hands the client what the collaborator does. -/
theorem queries_asked {a : Action σ Note α} {entry : Bool → Event ν π}
    (ha : Does (fun w j w' => R w (queries j) w') a)
    (h : ∀ accepted, Event.queries [entry accepted] = []) :
    Does (fun w j w' => R w (Event.queries j) w') ((a.entering .note).noting entry) :=
  does_asked fun w r w' notes hends => by
    rw [Event.queries_append, Event.queries_notes, h, List.append_nil]
    exact ha _ _ _ _ hends

end

namespace Postgres

variable {σ α : Type}

/-- What the messages of a statement do, whatever comes of them, and what else the client does on
the way: it leaves notes that hand over nothing, and it keeps whether it holds a connection. -/
structure Client.Carries (c : Client σ) (sql : String) (arguments : Arguments)
    (P : World σ → List Note → World σ → Prop) : Prop extends Chains P where
  /-- A note is left. -/
  note : ∀ w n, queries [n] = [] → P w [n] w
  /-- A connection is held or not. -/
  held : ∀ w isHeld, P w [] { w with isHeld }
  /-- The server is asked whether the connection is open. -/
  isOpen : Does P (onServer c.server.isOpen)
  /-- A connection is opened. -/
  connect : Does P (onServer (c.server.connect c.settings.connection))
  /-- The time limit is sent. -/
  limit : ∀ millis : Int, Does P (onServer (c.server.run
    ("SET statement_timeout = " ++ String.ofList (Numeral.text millis)) .none))
  /-- The statement is sent. -/
  statement : Does P (onServer (c.server.run sql arguments))

namespace Client

variable {c : Client σ} {sql : String} {arguments : Arguments}
  {P : World σ → List Note → World σ → Prop}

theorem Carries.record (h : c.Carries sql arguments P) {n : Note} (hn : queries [n] = []) :
    Does P (record n : Action (World σ) Note Unit) :=
  does_record fun w => h.note w n hn

theorem Carries.does_connect (h : c.Carries sql arguments P) : Does P c.connect := by
  have hC := h.toChains
  have hconnected : Does P c.isConnected := by
    refine (does_world hC).bind hC fun w => ?_
    split
    · exact h.isOpen
    · exact does_pure hC _
  refine hconnected.bind hC fun isOpen => ?_
  split
  · exact does_pure hC _
  · refine Does.bind hC (h.connect.noting hC fun w _ => h.note w _ rfl).attempt fun r => ?_
    cases r with
    | ok u => exact does_change fun w => h.held w true
    | error fault => exact does_fail hC _

theorem Carries.does_sendLimited (h : c.Carries sql arguments P) (millis : Int) :
    Does P (c.sendLimited millis sql arguments) :=
  ((h.limit millis).noting h.toChains fun w _ => h.note w _ rfl).bind h.toChains fun _ =>
    h.statement.noting h.toChains fun w _ => h.note w _ rfl

/-- Of a statement the client notes first that it was handed over; then it carries it. -/
theorem Carries.query (h : c.Carries sql arguments P) {w w' : World σ}
    {r : Except Fault QueryResult} {j : List Note} (hends : (c.query sql arguments).Ends w r w' j) :
    ∃ k, j = [.queried sql arguments] ++ k ∧ P w k w' := by
  have hC := h.toChains
  have hdeliver : ∀ reply, Does P (deliver reply : Action (World σ) Note QueryResult) :=
    fun reply => (does_ofExcept hC _).bind hC fun _ => (h.record rfl).bind hC fun _ =>
      (h.record rfl).bind hC fun _ => does_ofExcept hC _
  have hreport : ∀ shown t, Does P (report shown t : Action (World σ) Note QueryResult) :=
    fun shown t => (h.record rfl).bind hC fun _ => (h.record rfl).bind hC fun _ => does_fail hC _
  obtain ⟨k, hrest, rfl⟩ := (Gives.ends_bind (record_gives _ w)).mp hends
  refine ⟨k, rfl, Does.bind hC h.does_connect (fun _ => (does_ofExcept hC _).bind hC fun millis =>
    (h.record rfl).bind hC fun _ => ?_) w r w' k hrest⟩
  refine does_spanning hC (fun w => h.note w _ rfl) (fun w => h.note w _ rfl) ?_
  refine (h.does_sendLimited millis).attempt.bind hC fun answer => ?_
  rcases answer with fault | reply
  · cases fault with
    | server condition message => exact hreport _ _
    | _ => exact does_fail hC _
  · exact hdeliver reply

end Client

/-! ### What stays, whatever the server does -/

/-- What is known of the catalog and of the call is the same in both worlds. -/
structure World.SameKnowledge (w w' : World σ) : Prop where
  /-- The number of procedures that were found. -/
  found : w'.found = w.found
  /-- The parameters that were read. -/
  loaded : w'.loaded = w.loaded
  /-- The call. -/
  call : w'.call = w.call

theorem World.SameKnowledge.refl (w : World σ) : w.SameKnowledge w := ⟨rfl, rfl, rfl⟩

theorem World.SameKnowledge.trans {u v w : World σ} (h₁ : u.SameKnowledge v)
    (h₂ : v.SameKnowledge w) : u.SameKnowledge w :=
  ⟨h₂.found.trans h₁.found, h₂.loaded.trans h₁.loaded, h₂.call.trans h₁.call⟩

/-- No statement is handed to the client, and what is known stays. -/
def Unasked (w : World σ) (j : List Note) (w' : World σ) : Prop :=
  queries j = [] ∧ w.SameKnowledge w'

theorem chains_unasked : Chains (Unasked (σ := σ)) where
  nil w := ⟨rfl, .refl w⟩
  append h₁ h₂ := ⟨by rw [queries_append, h₁.1, h₂.1, List.append_nil], h₁.2.trans h₂.2⟩

namespace Client

variable (c : Client σ)

theorem unasked_onServer (a : Action σ Empty α) : Does Unasked (onServer a) := by
  intro w r w' j h
  obtain ⟨v, hentering, rfl⟩ := ends_within.mp h
  obtain ⟨none, -, rfl⟩ := ends_entering.mp hentering
  cases none with
  | nil => exact ⟨rfl, rfl, rfl, rfl⟩
  | cons e _ => exact e.elim

theorem carries_unasked (sql : String) (arguments : Arguments) :
    c.Carries sql arguments Unasked where
  toChains := chains_unasked
  note w _ hn := ⟨hn, .refl w⟩
  held _ _ := ⟨rfl, rfl, rfl, rfl⟩
  isOpen := unasked_onServer _
  connect := unasked_onServer _
  limit _ := unasked_onServer _
  statement := unasked_onServer _

theorem unasked_close : Does Unasked c.close := by
  have hC := chains_unasked (σ := σ)
  refine (does_world hC).bind hC fun w => ?_
  split
  · exact ((unasked_onServer _).noting hC fun w _ => ⟨rfl, .refl w⟩).bind hC fun _ =>
      does_change fun w => ⟨rfl, rfl, rfl, rfl⟩
  · exact does_pure hC _

/-- However it ends, a client is handed the statement and nothing else, and what is known stays. -/
theorem does_query (sql : String) (arguments : Arguments) :
    Does (fun w j w' => queries j = [(sql, arguments)] ∧ w.SameKnowledge w')
      (c.query sql arguments) := by
  intro w r w' j h
  obtain ⟨k, rfl, hunasked⟩ := (c.carries_unasked sql arguments).query h
  exact ⟨by rw [queries_append, hunasked.1]; rfl, hunasked.2⟩

end Client

/-! ### A statement that succeeds -/

/-- The result that a reply is taken for, if it can be read. -/
def Reply.toResult (reply : Reply) : Except Fault QueryResult :=
  (reply.columns.mapM fun (name, number) => heading name number).bind reply.result

namespace Client

variable {c : Client σ} {w w₁ : World σ} {sql : String} {arguments : Arguments} {reply : Reply}
  {result : QueryResult}

theorem deliver_gives (h : reply.toResult = .ok result) (w : World σ) :
    ∃ j, (deliver reply).Gives w result w j := by
  obtain ⟨columns, hcolumns, hresult⟩ := Fallible.exists_of_bind_eq_ok h
  exact ⟨_, Gives.bind (ends_ofExcept.mpr ⟨hcolumns.symm, rfl, rfl⟩) ((record_gives _ w).bind
    ((record_gives _ w).bind (ends_ofExcept.mpr ⟨hresult.symm, rfl, rfl⟩)))⟩

theorem onServer_gives {α : Type} {a : Action σ Empty α} {value : α} {v : σ}
    (h : a.Gives w.outside value v []) : (onServer a).Gives w value { w with outside := v } [] :=
  ends_within.mpr ⟨v, ends_entering.mpr ⟨[], h, rfl⟩, rfl⟩

/-- A statement gives a result only under a time limit that can be sent. -/
theorem exists_timeoutMillis_of_query {w' : World σ} {j : List Note}
    (h : (c.query sql arguments).Gives w result w' j) :
    ∃ millis, c.settings.timeoutMillis = .ok millis := by
  obtain ⟨_, _, _, _, -, hrest, -⟩ := gives_bind.mp h
  obtain ⟨_, _, _, _, -, hrest, -⟩ := gives_bind.mp hrest
  obtain ⟨millis, _, _, _, hmillis, -, -⟩ := gives_bind.mp hrest
  exact ⟨millis, (ends_ofExcept.mp hmillis).1.symm⟩

theorem openConnection_gives {v : σ}
    (h : (c.server.connect c.settings.connection).Gives w.outside () v []) :
    ∃ j, c.openConnection.Gives w () { w with outside := v, isHeld := true } j := by
  have hnoted : ∃ j, ((onServer (c.server.connect c.settings.connection)).noting
      fun accepted => .message (.connect c.settings.connection accepted)).Gives w ()
        { w with outside := v } j := ⟨_, ends_noting.mpr ⟨[], onServer_gives h, rfl⟩⟩
  obtain ⟨j, hnoted⟩ := hnoted
  exact ⟨_, (gives_attempt_ok.mpr hnoted).bind (change_gives _ _)⟩

/-- If the connection stands, the server takes the time limit and the statement, and its reply can
be read, the statement gives the result. -/
theorem query_gives {k : List Note} {millis : Int} {ignored : Reply} {v v' : σ}
    (hconnect : c.connect.Gives w () w₁ k) (hmillis : c.settings.timeoutMillis = .ok millis)
    (hlimit : (c.server.run ("SET statement_timeout = " ++ String.ofList (Numeral.text millis))
      .none).Gives w₁.outside ignored v [])
    (hrun : (c.server.run sql arguments).Gives v reply v' [])
    (hresult : reply.toResult = .ok result) :
    ∃ j, (c.query sql arguments).Gives w result { w₁ with outside := v' } j := by
  have hlimited : ∃ j, (c.send ("SET statement_timeout = " ++ String.ofList (Numeral.text millis))
      .none).Gives w₁ ignored { w₁ with outside := v } j :=
    ⟨_, ends_noting.mpr ⟨[], onServer_gives hlimit, rfl⟩⟩
  have hsent : ∃ j, (c.send sql arguments).Gives { w₁ with outside := v } reply
      { w₁ with outside := v' } j :=
    ⟨_, ends_noting.mpr ⟨[], onServer_gives (w := { w₁ with outside := v }) hrun, rfl⟩⟩
  obtain ⟨j₁, hlimited⟩ := hlimited
  obtain ⟨j₂, hsent⟩ := hsent
  obtain ⟨j₃, hdelivered⟩ := deliver_gives hresult { w₁ with outside := v' }
  have hanswered : (c.sendLimited millis sql arguments).attempt.Gives w₁ (.ok reply)
      { w₁ with outside := v' } (j₁ ++ j₂) := gives_attempt_ok.mpr (hlimited.bind hsent)
  exact ⟨_, (record_gives _ w).bind (hconnect.bind
    (Gives.bind (ends_ofExcept.mpr ⟨hmillis.symm, rfl, rfl⟩)
      ((record_gives _ w₁).bind (gives_spanning.mpr ⟨_, hanswered.bind hdelivered, rfl⟩))))⟩

end Client

end Postgres

end ProcedureCall
