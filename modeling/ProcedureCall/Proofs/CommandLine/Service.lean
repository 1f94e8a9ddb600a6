import ProcedureCall.CommandLine.Run
import ProcedureCall.Proofs.CommandLine.Statements

/-!
# What a command has its client do

A command asks its client for statements and closes it; besides, it changes what is known of the
catalog and of the call, and remarks on what it does. `Client.Serves` says that a relation holds of
these. It then holds of a whole command (`Client.Serves.runCommand`), whose parts are gone through
in the order in which they run: the look-up, the plan, the execution, the reading of the result.
-/

namespace ProcedureCall

open ProcedureCall.Action

/-! ### Relations on the notes of a journal -/

section

variable {σ ν π α : Type} {P : σ → List Note → σ → Prop}

/-- The relation holds of the notes of a journal. -/
def OnNotes (P : σ → List Note → σ → Prop) (w : σ) (j : List (Event ν π)) (w' : σ) : Prop :=
  P w (Event.notes j) w'

theorem notes_append (j₁ j₂ : List (Event ν π)) :
    Event.notes (j₁ ++ j₂) = Event.notes j₁ ++ Event.notes j₂ := List.filterMap_append

theorem notes_map_note (notes : List Note) :
    Event.notes (notes.map (.note : Note → Event ν π)) = notes := by
  rw [Event.notes, List.filterMap_map]
  exact List.filterMap_some

theorem quiet_onNotes (hP : Chains P) (hremark : ∀ w n, n.isRemark = true → P w [n] w) :
    Quiet (OnNotes (ν := ν) (π := π) P) where
  toChains := hP.comap rfl notes_append
  remark w n hn := hremark w n hn

/-- What a collaborator does, it does when it is watched. -/
theorem onNotes_entering {a : Action σ Note α} (ha : Does P a) :
    Does (OnNotes (ν := ν) (π := π) P) (a.entering .note) :=
  ha.entering fun w j w' h => by rwa [OnNotes, notes_map_note]

theorem onNotes_asked {a : Action σ Note α} {entry : Bool → Event ν π} (ha : Does P a)
    (h : ∀ accepted, Event.notes [entry accepted] = []) :
    Does (OnNotes P) ((a.entering .note).noting entry) :=
  does_asked fun w r w' notes hends => by
    rw [OnNotes, notes_append, notes_map_note, h, List.append_nil]
    exact ha _ _ _ _ hends

/-- The relation holds beside the progress of a call. -/
def Beside {τ : Type} (P : σ → List Note → σ → Prop) (u : τ × σ) (j : List (Event ν π))
    (v : τ × σ) : Prop :=
  OnNotes P u.2 j v.2

theorem chains_beside {τ : Type} (hP : Chains P) :
    Chains (Beside (ν := ν) (π := π) (τ := τ) P) where
  nil u := hP.nil u.2
  append {u u₁ v j₁ j₂} h₁ h₂ := by
    rw [Beside, OnNotes, notes_append]
    exact hP.append h₁ h₂

end

namespace Postgres

variable {σ α : Type}

/-- The relation holds of what a command has its client do: of statements and of closing, of the
remarks on the way, and where only knowledge of the catalog and of the call changes. -/
structure Client.Serves (c : Client σ) (P : World σ → List Note → World σ → Prop) : Prop
    extends Chains P where
  /-- A statement is run. -/
  query : ∀ sql arguments, Does P (c.query sql arguments)
  /-- The client is closed. -/
  close : Does P c.close
  /-- A remark is left. -/
  remark : ∀ w n, n.isRemark = true → P w [n] w
  /-- The connection and the server stay as they are. -/
  knowledge : ∀ {w w'}, w'.isHeld = w.isHeld → w'.outside = w.outside → P w [] w'

variable {P : World σ → List Note → World σ → Prop}

namespace Client.Serves

/-! ### Look-ups and plans -/

theorem looksUp {catalog : Catalog σ} (h : catalog.client.Serves P) : catalog.LooksUp P where
  toChains := h.toChains
  query sql _ arguments := h.query sql arguments
  found _ _ := h.knowledge rfl rfl

section

variable {c : Client σ} (h : c.Serves P)

include h

theorem state : Does P (Call.state (σ := σ)) := (does_world h.toChains).map h.toChains

theorem update (s : CallState) : Does P (Call.update (σ := σ) s) :=
  does_change fun _ => h.knowledge rfl rfl

/-- What is read off the state of a call changes nothing. -/
theorem ofState (f : CallState → α) :
    Does P (do pure (f (← Call.state)) : Action (World σ) Note α) :=
  h.state.bind h.toChains fun _ => does_pure h.toChains _

theorem register (text : String) (slot code : Int) :
    Does P ((Call.driverCall ⟨c, text⟩).register slot code) :=
  h.state.bind h.toChains fun _ => h.update _

theorem bind (key : Key) (value : Value) : Does P (Call.bind (σ := σ) key value) :=
  h.state.bind h.toChains fun _ => (does_ofExcept h.toChains _).bind h.toChains fun _ =>
    h.update _

theorem read (key : Key) : Does P (Call.read (σ := σ) key) :=
  h.state.bind h.toChains fun _ => (does_ofExcept h.toChains _).bind h.toChains fun _ =>
    h.state.bind h.toChains fun _ => (h.update _).bind h.toChains fun _ => does_pure h.toChains _

/-- An execution runs the call text as a statement. -/
theorem execute (text : String) : Does P (Call.execute ⟨c, text⟩) :=
  h.state.bind h.toChains fun _ => (does_ofExcept h.toChains _).bind h.toChains fun _ =>
    (h.query _ _).bind h.toChains fun _ => h.state.bind h.toChains fun _ =>
      (h.update _).bind h.toChains fun _ => h.ofState _

end

theorem planningDoes {catalog : Catalog σ} (h : catalog.client.Serves P) (text : String) :
    PlanningDoes catalog.session (Call.driverCall ⟨catalog.client, text⟩) (OnNotes P) where
  selected := onNotes_asked h.looksUp.selected fun _ => rfl
  child node name := onNotes_asked (h.looksUp.child node name) fun _ => rfl
  procedure node name := onNotes_asked (h.looksUp.procedure node name) fun _ => rfl
  parameters r := onNotes_asked (h.looksUp.parameters (fun _ _ => h.knowledge rfl rfl) r)
    fun _ => rfl
  localType _ := onNotes_asked (does_pure h.toChains _) fun _ => rfl
  report := onNotes_asked (does_fail h.toChains _) fun _ => rfl
  register slot code := onNotes_asked (h.register text slot code) fun _ => rfl

/-! ### Invokers -/

section

variable {i : Invoker (World σ) Node Routine} {c : Client σ} {text : String} (h : c.Serves P)

include h

/-- The requests of a call whose binds are told to the log. -/
theorem requestsDo (hcall : i.call = Call.driverCall ⟨c, text⟩) (hobserve : i.observe = logBind) :
    i.RequestsDo (OnNotes P) where
  toChains := (quiet_onNotes h.toChains h.remark).toChains
  bind key value := by
    rw [hcall]
    exact onNotes_asked (h.bind key value) fun _ => rfl
  bindNull key _ := by
    rw [hcall]
    exact onNotes_asked (h.bind key .null) fun _ => rfl
  tell key value := by
    rw [Invoker.tell, hobserve]
    exact onNotes_asked (does_record fun w => h.remark w _ rfl) fun _ => rfl
  register slot code := by
    rw [hcall]
    exact onNotes_asked (h.register text slot code) fun _ => rfl
  read key := by
    rw [hcall]
    exact onNotes_asked (h.read key) fun _ => rfl
  wasNull := by
    rw [hcall]
    exact onNotes_entering (h.ofState _)
  resultSet := by
    rw [hcall]
    exact onNotes_entering (h.ofState _)
  moreResults := by
    rw [hcall]
    exact onNotes_entering (does_pure h.toChains _)

/-- An invoker that executes a call or ends it asks the driver and moves its own progress on. -/
theorem onProgress {f : Progress × World σ → Progress × World σ} (hf : ∀ u, (f u).2 = u.2) :
    Does (Beside P) (change f : Action (Progress × World σ) CommandLine.RunEvent Unit) :=
  does_change fun u => by
    change OnNotes P u.2 [] (f u).2
    rw [hf]
    exact h.nil u.2

theorem invoker_execute (hcall : i.call = Call.driverCall ⟨c, text⟩) :
    Does (Beside P) i.execute := by
  have hC := chains_beside (ν := Node) (π := Routine) (τ := Progress) h.toChains
  have hquiet := quiet_onNotes (ν := Node) (π := Routine) h.toChains h.remark
  have hdriver : Does (OnNotes P) i.executeDriver := by
    refine does_spanning hquiet.toChains (fun w => hquiet.remark w _ rfl)
      (fun w => hquiet.remark w _ rfl) ?_
    rw [hcall]
    exact (onNotes_asked (h.execute text) fun _ => rfl).bind hquiet.toChains fun _ =>
      (hquiet.does_remark rfl).bind hquiet.toChains fun _ => does_pure hquiet.toChains _
  refine (does_world hC).bind hC fun u => ?_
  dsimp only
  split
  · exact does_fail hC _
  split
  · exact does_fail hC _
  refine Does.bind hC (hdriver.within fun _ _ _ hends => hends) fun native => ?_
  exact (h.onProgress fun _ => by rfl).bind hC fun _ => (does_world hC).bind hC fun _ =>
    (does_ofExcept hC _).bind hC fun _ => (h.onProgress fun _ => by rfl).bind hC fun _ =>
      does_pure hC _

theorem invoker_close (hcall : i.call = Call.driverCall ⟨c, text⟩) :
    Does (Beside P) i.close := by
  have hC := chains_beside (ν := Node) (π := Routine) (τ := Progress) h.toChains
  have hclose : Does P (Call.driverCall ⟨c, text⟩).close :=
    h.state.bind h.toChains fun _ => h.update _
  refine (does_world hC).bind hC fun u => ?_
  split
  · exact does_pure hC _
  · refine (h.onProgress fun _ => by rfl).bind hC fun _ => ?_
    rw [hcall]
    exact (onNotes_asked hclose fun _ => rfl).within fun _ _ _ hends => hends

end

/-! ### Commands -/

open CommandLine

variable {catalog : Catalog σ}

theorem runResolve (h : catalog.client.Serves P) (text : String) :
    Does (OnNotes P) (runResolve catalog.session text) := by
  have hP := quiet_onNotes (ν := Node) (π := Routine) h.toChains h.remark
  have hplan := h.planningDoes text
  have hfound : Does (OnNotes P) (findNamed catalog.session text) := by
    unfold findNamed
    split
    · exact Session.does_find hP hplan.selected hplan.child hplan.procedure _
    · exact Session.does_resolve hP hplan.selected hplan.child hplan.procedure _
  refine hfound.bind hP.toChains fun found => ?_
  cases found with
  | none => exact does_fail hP.toChains _
  | some procedure =>
    exact (hplan.parameters procedure).bind hP.toChains fun _ => does_pure hP.toChains _

/-- A call is prepared, used and ended. -/
theorem withInvoker (h : catalog.client.Serves P) {text : String}
    {use : Invoker (World σ) Node Routine → Action (Progress × World σ) RunEvent α}
    (huse : ∀ i : Invoker (World σ) Node Routine,
      i.call = Call.driverCall ⟨catalog.client, text⟩ → i.observe = logBind →
      Does (Beside P) (use i)) :
    Does (OnNotes P) (withInvoker catalog text use) := by
  have hP := quiet_onNotes (ν := Node) (π := Routine) h.toChains h.remark
  have hC := chains_beside (ν := Node) (π := Routine) (τ := Progress) h.toChains
  have hprepare : Does (OnNotes P) (Invoker.prepare catalog.session
      (Call.driverCall ⟨catalog.client, text⟩) (some text) logBind) :=
    (does_planCall hP (h.planningDoes text) (some text)).bind hP.toChains fun _ =>
      (does_ofExcept hP.toChains _).bind hP.toChains fun _ => does_pure hP.toChains _
  rw [withInvoker_eq]
  intro w r w' j hends
  rcases ends_bind.mp hends with ⟨fault, -, hfails⟩ | ⟨⟨i, p⟩, w₁, j₁, j₂, hmade, hused, rfl⟩
  · exact hprepare _ _ _ _ hfails
  · obtain ⟨-, hcall, hobserve, rfl⟩ := Invoker.prepare_gives hmade
    obtain ⟨u, hbeside, rfl⟩ := ends_within.mp hused
    have hdone := (huse i hcall hobserve).ensuring hC (h.invoker_close hcall)
    exact hP.append (hprepare _ _ _ _ hmade) (hdone _ _ _ _ hbeside)

theorem executeWith (h : catalog.client.Serves P) {i : Invoker (World σ) Node Routine}
    {text : String} (hcall : i.call = Call.driverCall ⟨catalog.client, text⟩)
    (hobserve : i.observe = logBind) (words : List String) :
    Does (Beside P) (executeWith words i) := by
  have hC := chains_beside (ν := Node) (π := Routine) (τ := Progress) h.toChains
  have hrequests := h.requestsDo hcall hobserve
  have hstays : ∀ {α : Type} {a : Action (Progress × World σ) RunEvent α},
      Does (Invoker.Stays (OnNotes P)) a → Does (Beside P) a := fun ha => ha.mono fun _ _ _ h => h.1
  have hfinding : ∀ set, Does (Beside P) (findingOf i set) := by
    rintro (_ | native | _)
    · exact does_pure hC _
    · exact does_pure hC _
    · refine (hstays ?_).bind hC fun _ => does_pure hC _
      exact Invoker.stays_onProjector (does_projectedResult
        (Invoker.chains_rowStays hrequests.toChains) hrequests.rowStays_fetch
        (Invoker.rowStays_remember hrequests.toChains))
  refine (hstays (i.does_bindFrom (Invoker.chains_stays hrequests.toChains) hrequests.stays_bind
    1 _)).bind hC fun _ => (h.invoker_execute hcall).bind hC fun hasResult => ?_
  cases hasResult with
  | true =>
    exact (hstays (i.does_resultSet (Invoker.chains_stays hrequests.toChains)
      (Invoker.stays_outside hrequests.resultSet))).bind hC hfinding
  | false => exact hfinding none

/-- The command of an invocation does what its client does. -/
theorem runCommand {client : Client σ} (h : client.Serves P) (i : Invocation) :
    Does (OnNotes P) (runCommand client i) := by
  have hP := quiet_onNotes (ν := Node) (π := Routine) h.toChains h.remark
  refine Does.ensuring hP.toChains ?_ (onNotes_entering h.close)
  split
  · exact runResolve h i.text
  · exact withInvoker h fun _ _ _ => does_pure (chains_beside h.toChains) _
  · exact withInvoker h fun invoker hcall hobserve => executeWith h hcall hobserve i.arguments

end Client.Serves

end Postgres

end ProcedureCall
