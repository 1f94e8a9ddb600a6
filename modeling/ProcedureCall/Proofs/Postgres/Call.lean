import Mathlib.Data.List.Induction
import ProcedureCall.Invoker
import ProcedureCall.Postgres.Call
import ProcedureCall.Proofs.Driver.Results
import ProcedureCall.Proofs.Postgres.Client

/-!
# A call on a server

Values that are bound to the places from 1 on are sent in their order (`arguments_of_boundFrom`),
and `bindAll` binds them so. However an execution ends, the client is handed the call text with them
once (`queries_execute`). If an output was announced, an execution has no result set of its own
(`execute_gives`), and the values of the row that came out are read by their places
(`read_of_row`).
-/

namespace ProcedureCall

open ProcedureCall.Action

namespace Postgres

/-! ### Bindings in order -/

/-- Values as they are sent: in their order, and not at all if there are none. -/
def sentValues (values : List Value) : Arguments :=
  if values.isEmpty then .none else .positional values

/-- Values bound to the places from `slot` on. -/
def boundFrom (slot : Nat) (values : List Value) : List Binding :=
  (values.zipIdx slot).map fun (value, place) => ((place : Int), value)

theorem boundFrom_append (slot : Nat) (before values : List Value) :
    boundFrom slot (before ++ values) =
      boundFrom slot before ++ boundFrom (slot + before.length) values := by
  rw [boundFrom, List.zipIdx_append, List.map_append]
  rfl

theorem getElem?_boundFrom (slot : Nat) (values : List Value) (k : Nat) :
    (boundFrom slot values)[k]? =
      values[k]?.map fun value => (((slot + k : Nat) : Int), value) := by
  rw [boundFrom, List.getElem?_map, List.getElem?_zipIdx, Option.map_map]
  rfl

theorem lt_of_mem_boundFrom {slot : Nat} {values : List Value} {b : Binding}
    (h : b ∈ boundFrom slot values) : b.1 < ((slot + values.length : Nat) : Int) := by
  obtain ⟨k, hk⟩ := List.mem_iff_getElem?.mp h
  rw [getElem?_boundFrom] at hk
  obtain ⟨value, hvalue, rfl⟩ := Option.map_eq_some_iff.mp hk
  have hlt := (List.getElem?_eq_some_iff.mp hvalue).1
  dsimp only
  omega

/-- The next value goes to the next place. -/
theorem put_boundFrom (slot : Nat) (before : List Value) (value : Value) :
    Entries.put ((slot + before.length : Nat) : Int) value (boundFrom slot before) =
      boundFrom slot (before ++ [value]) := by
  rw [Entries.put_of_forall_ne value fun b hb => Int.ne_of_lt (lt_of_mem_boundFrom hb),
    boundFrom_append]
  rfl

theorem get?_boundFrom {slot : Nat} {values : List Value} {k : Nat} (h : k < values.length) :
    Entries.get? ((slot + k : Nat) : Int) (boundFrom slot values) = some values[k] := by
  induction values generalizing slot k with
  | nil => cases h
  | cons value values ih =>
    have hcons : boundFrom slot (value :: values) =
        ((slot : Int), value) :: boundFrom (slot + 1) values := rfl
    rw [hcons]
    cases k with
    | zero => simp [Entries.get?]
    | succ k =>
      have hne : (slot : Int) ≠ ((slot + (k + 1) : Nat) : Int) := by omega
      rw [Entries.get?, if_neg hne, show slot + (k + 1) = slot + 1 + k by omega]
      exact ih (Nat.lt_of_succ_lt_succ h)

namespace CallState

theorem lastBound_of_boundFrom {s : CallState} {values : List Value}
    (h : s.bindings = boundFrom 1 values) : s.lastBound = values.length := by
  rw [lastBound, h]
  clear h
  induction values using List.reverseRecOn with
  | nil => rfl
  | append_singleton values value ih =>
    rw [boundFrom_append, List.foldl_append, ih]
    simp [boundFrom]
    omega

theorem slots_of_boundFrom {s : CallState} {values : List Value}
    (h : s.bindings = boundFrom 1 values) :
    s.slots = (values.zipIdx 1).map fun (value, place) => (place, some value) := by
  rw [slots, lastBound_of_boundFrom h, h, Int.toNat_natCast]
  refine List.ext_getElem (by simp) fun k hk _ => ?_
  have hvalues : k < values.length := by simpa using hk
  have hget : Entries.get? ((1 + k : Nat) : Int) (boundFrom 1 values) = some values[k] :=
    get?_boundFrom hvalues
  push_cast at hget
  simp [hget]

/-- Values that are bound to the places from 1 on are sent in their order, and nothing is sent if
there are none. -/
theorem arguments_of_boundFrom {s : CallState} {values : List Value}
    (h : s.bindings = boundFrom 1 values) :
    s.arguments = .ok (sentValues values) := by
  have hmissing : s.missing = [] := by
    rw [missing, slots_of_boundFrom h, List.filterMap_map, List.filterMap_eq_nil_iff]
    simp
  have hvalues : s.slots.filterMap (·.2) = values := by
    calc s.slots.filterMap (·.2)
        = ((values.zipIdx 1).map Prod.fst).filterMap some := by
          rw [slots_of_boundFrom h, List.filterMap_map, List.filterMap_map]
          rfl
      _ = values := by rw [List.zipIdx_map_fst, List.filterMap_some]
  rw [arguments, hmissing]
  simp [hvalues, sentValues]

end CallState

/-! ### Requests -/

variable {σ : Type}

/-- The world with another state of the call. -/
def World.withCall (w : World σ) (s : CallState) : World σ := { w with call := s }

namespace Call

theorem state_gives (w : World σ) :
    (state : Action (World σ) Note CallState).Gives w w.call w [] :=
  (world_gives w).bind (pure_gives _ w)

theorem update_gives (s : CallState) (w : World σ) :
    (update s : Action (World σ) Note Unit).Gives w () (w.withCall s) [] :=
  change_gives _ w

/-- An output that is registered is kept with its code, and that is all. -/
theorem register_gives (c : Call σ) (slot code : Int) (w : World σ) :
    (c.driverCall.register slot code).Gives w ()
      (w.withCall { w.call with registered := Entries.put slot code w.call.registered }) [] :=
  (state_gives w).bind (update_gives _ w)

/-- A value is put at its place, and that is all. -/
theorem bind_gives_of_place {key : Key} {place : Int}
    (h : key.asInt?.filter (1 ≤ ·) = some place) (value : Value) (w : World σ) :
    (bind key value : Action (World σ) Note Unit).Gives w () (w.withCall
      { w.call with bindings := Entries.put place value w.call.bindings }) [] := by
  have hbind : w.call.bind key value =
      .ok { w.call with bindings := Entries.put place value w.call.bindings } := by
    rw [CallState.bind, h]
  exact (state_gives w).bind (Gives.bind (ends_ofExcept.mpr ⟨hbind.symm, rfl, rfl⟩)
    (update_gives _ w))

theorem bind_gives {slot : Nat} (h : 1 ≤ slot) (value : Value) (w : World σ) :
    (bind (.int slot) value : Action (World σ) Note Unit).Gives w () (w.withCall
      { w.call with bindings := Entries.put (slot : Int) value w.call.bindings }) [] := by
  have hplace : (Value.int slot).asInt?.filter (1 ≤ ·) = some (slot : Int) := by
    have : (1 : Int) ≤ slot := by omega
    simp [Value.asInt?, Option.filter, this]
  exact bind_gives_of_place hplace value w

end Call

end Postgres

/-! ### Executing -/

namespace Postgres.Call

variable {σ : Type} {c : Call σ}

/-- Asking where the call stands and moving it on hands the client nothing. -/
theorem unqueried_state : Does (fun _ j _ => queries j = []) (state (σ := σ)) :=
  (does_world (chains_queries chains_eq_nil)).map (chains_queries chains_eq_nil)

theorem unqueried_update (s : CallState) : Does (fun _ j _ => queries j = []) (update (σ := σ) s) :=
  does_change fun _ => rfl

/-- However an execution ends, the client is handed the call text with the values, once. -/
theorem queries_execute {w w' : World σ} {arguments : Arguments} {r : Except Fault Bool}
    {j : List Note} (harguments : w.call.arguments = .ok arguments)
    (h : c.execute.Ends w r w' j) : queries j = [(c.text, arguments)] := by
  obtain ⟨j₁, h₁, rfl⟩ := (Gives.ends_bind (state_gives w)).mp h
  rw [harguments] at h₁
  obtain ⟨j₂, h₂, rfl⟩ := (Gives.ends_bind (ends_ofExcept.mpr ⟨rfl, rfl, rfl⟩)).mp h₁
  have hC := chains_queries (σ := World σ) chains_eq_nil
  have hrest : ∀ result, Does (fun _ j _ => queries j = []) (do
      update ((← state).finish result)
      pure (← state).isNative : Action (World σ) Note Bool) := fun result =>
    unqueried_state.bind hC fun _ => (unqueried_update _).bind hC fun _ =>
      unqueried_state.bind hC fun _ => does_pure hC _
  rcases ends_bind.mp h₂ with ⟨fault, rfl, hfails⟩ | ⟨result, w₁, j₃, j₄, hgives, hdone, rfl⟩
  · exact (c.client.does_query _ _ _ _ _ _ hfails).1
  · simp only [queries_append, (c.client.does_query _ _ _ _ _ _ hgives).1,
      hrest result _ _ _ _ hdone, List.append_nil]

/-- Every output that is announced is kept. -/
theorem registerAll_gives {ν π : Type} (c : Call σ) (slots : List (Int × Int)) (w : World σ) :
    ∃ registered j, (registerAll c.driverCall slots : Action (World σ) (Event ν π) Unit).Gives w ()
        (w.withCall { w.call with registered }) j ∧
      (slots ≠ [] ∨ w.call.registered ≠ [] → registered ≠ []) := by
  induction slots generalizing w with
  | nil => exact ⟨w.call.registered, [], pure_gives () w, fun h => h.resolve_left fun h => h rfl⟩
  | cons slot slots ih =>
    obtain ⟨place, code⟩ := slot
    have hfirst : (c.driverCall.askRegister place code : Action (World σ) (Event ν π) Unit).Gives w
        () _ _ := ends_asked.mpr ⟨[], c.register_gives place code w, rfl⟩
    obtain ⟨registered, j, hrest, hkept⟩ := ih (w.withCall { w.call with
      registered := Entries.put place code w.call.registered })
    exact ⟨registered, _, hfirst.bind hrest, fun _ => hkept (Or.inr (Entries.put_ne_nil _ _ _))⟩

/-- A call of which an output was announced has no result set of its own, whatever it gives. -/
theorem execute_gives {w w' : World σ} {arguments : Arguments} {result : QueryResult}
    {notes : List Note} (harguments : w.call.arguments = .ok arguments)
    (hregistered : w.call.registered ≠ [])
    (hquery : (c.client.query c.text arguments).Gives w result w' notes) :
    ∃ j, c.execute.Gives w false
      (w'.withCall { w.call with result := some result, isNative := false }) j := by
  have hcall : w'.call = w.call := (c.client.does_query _ _ _ _ _ _ hquery).2.call
  have hfinish : w'.call.finish result =
      { w.call with result := some result, isNative := false } := by
    rw [hcall, CallState.finish, List.isEmpty_eq_false_iff.mpr hregistered, Bool.false_and]
  have hupdated : (update (w'.call.finish result) : Action (World σ) Note Unit).Gives w' ()
      (w'.withCall { w.call with result := some result, isNative := false }) [] := by
    rw [hfinish]
    exact update_gives _ w'
  exact ⟨_, (state_gives w).bind (Gives.bind (ends_ofExcept.mpr ⟨harguments.symm, rfl, rfl⟩)
    (hquery.bind ((state_gives w').bind (hupdated.bind ((state_gives _).bind (pure_gives _ _))))))⟩

/-! ### The result set of an execution -/

/-- What the last execution gave is kept. -/
def KeepsResult (w : World σ) (_ : List Note) (w' : World σ) : Prop :=
  w'.call.result = w.call.result ∧ w'.call.isNative = w.call.isNative

theorem chains_keepsResult : Chains (KeepsResult (σ := σ)) where
  nil _ := ⟨rfl, rfl⟩
  append h₁ h₂ := ⟨h₂.1.trans h₁.1, h₂.2.trans h₁.2⟩

/-- What begins with asking where the call stands goes on from there. -/
theorem does_state {α : Type} {P : World σ → List Note → World σ → Prop}
    {f : CallState → Action (World σ) Note α}
    (h : ∀ w r w' j, (f w.call).Ends w r w' j → P w j w') : Does P (state >>= f) := by
  intro w r w' j hends
  obtain ⟨j₂, hrest, rfl⟩ := (Gives.ends_bind (state_gives w)).mp hends
  exact h w r w' _ hrest

theorem keepsResult_bind (key : Key) (value : Value) :
    Does KeepsResult (bind (σ := σ) key value) := by
  refine does_state fun w r w' j h => ?_
  cases hbind : w.call.bind key value with
  | error fault =>
    rw [hbind] at h
    obtain ⟨-, rfl, rfl⟩ := Ends.unique h (fails_bind.mpr (Or.inl (fails_fail.mpr ⟨rfl, rfl, rfl⟩)))
    exact ⟨rfl, rfl⟩
  | ok s =>
    rw [hbind] at h
    obtain ⟨-, rfl, rfl⟩ := Ends.unique h (Gives.bind (pure_gives s w) (update_gives s w))
    unfold CallState.bind at hbind
    split at hbind
    case h_1 =>
      cases hbind
      exact ⟨rfl, rfl⟩
    case h_2 => cases hbind

theorem keepsResult_read (key : Key) : Does KeepsResult (read (σ := σ) key) := by
  refine does_state fun w r w' j h => ?_
  rcases ends_bind.mp h with ⟨fault, -, hfails⟩ | ⟨value, w₁, j₁, j₂, hgives, hrest, rfl⟩
  · exact does_ofExcept chains_keepsResult _ _ _ _ _ hfails
  · refine chains_keepsResult.append (does_ofExcept chains_keepsResult _ _ _ _ _ hgives) ?_
    obtain ⟨-, rfl, rfl⟩ := Ends.unique hrest
      ((state_gives w₁).bind ((update_gives _ w₁).bind (pure_gives value _)))
    exact ⟨rfl, rfl⟩

/-- No request but an execution and the end of the call touches what the last execution gave. -/
theorem keepsResult_ask (c : Call σ) (request : DriverCall.Request) :
    Does KeepsResult (c.driverCall.ask request) := by
  have hread : ∀ {α : Type} (f : CallState → α),
      Does (KeepsResult (σ := σ)) (state >>= fun s => pure (f s)) := fun f =>
    does_state fun w r w' j h => does_pure chains_keepsResult (f w.call) w r w' j h
  cases request with
  | report => exact (does_fail chains_keepsResult _).discard
  | register slot code =>
    refine does_state fun w r w' j h => ?_
    obtain ⟨-, rfl, rfl⟩ := Ends.unique h (update_gives _ w)
    exact ⟨rfl, rfl⟩
  | bind key value => exact keepsResult_bind key value
  | bindNull key code => exact keepsResult_bind key .null
  | read key => exact (keepsResult_read key).discard
  | wasNull => exact (hread CallState.wasNull).discard
  | resultSet => exact (hread fun s => if s.isNative then s.result else none).discard
  | moreResults => exact (does_pure chains_keepsResult false).discard

/-- An execution leaves what the client gave for the call text, and tells whether it is a result
set. -/
theorem exists_query_of_execute {w w' : World σ} {native : Bool} {j : List Note}
    (h : c.execute.Gives w native w' j) :
    ∃ arguments w₁ w₂ k result, (c.client.query c.text arguments).Gives w₁ result w₂ k ∧
      w'.call.result = some result ∧ w'.call.isNative = native := by
  obtain ⟨j₁, h₁, rfl⟩ := (Gives.ends_bind (state_gives w)).mp h
  obtain ⟨arguments, w₁, j₂, j₃, -, h₂, rfl⟩ := gives_bind.mp h₁
  obtain ⟨result, w₂, j₄, j₅, hquery, h₃, rfl⟩ := gives_bind.mp h₂
  obtain ⟨hnative, rfl, -⟩ := Ends.unique h₃ ((state_gives w₂).bind
    ((update_gives (w₂.call.finish result) w₂).bind ((state_gives _).bind (pure_gives _ _))))
  cases hnative
  exact ⟨arguments, w₁, w₂, j₄, result, hquery, rfl, rfl⟩

theorem resultSet_gives_of (w : World σ) :
    c.driverCall.resultSet.Gives w (if w.call.isNative then w.call.result else none) w [] :=
  (state_gives w).bind (pure_gives _ w)

/-- Under any observer that leaves the call alone, an execution tells whether there is a result set
from then on. -/
theorem tellsOfResult (c : Call σ) {observe : Key → Value → Action (World σ) Note Unit}
    (hobserve : ∀ key value, Does (fun w _ w' => w'.call = w.call) (observe key value)) :
    c.driverCall.TellsOfResult observe := by
  intro w w₁ w₂ native j hexecute hstands
  obtain ⟨-, -, -, -, result, -, hresult, hnative⟩ := exists_query_of_execute hexecute
  have hkept : KeepsResult w₁ [] w₂ := by
    induction hstands with
    | refl => exact ⟨rfl, rfl⟩
    | tail _ hpass ih =>
      cases hpass with
      | asked request hends =>
        have hasked := keepsResult_ask c request _ _ _ _ hends
        exact ⟨hasked.1.trans ih.1, hasked.2.trans ih.2⟩
      | told key value hends =>
        have hcall := hobserve key value _ _ _ _ hends
        exact ⟨by rw [hcall, ih.1], by rw [hcall, ih.2]⟩
  refine ⟨_, w₂, _, resultSet_gives_of w₂, ?_⟩
  rw [hkept.1, hkept.2, hresult, hnative]
  cases native <;> rfl

end Postgres.Call

namespace Postgres

variable {σ : Type}

/-- The value at a place of the row that came out is read by its place, counted from 1. -/
theorem CallState.read_of_row {s : CallState} {result : QueryResult} {values : List Value}
    {place : Nat} {value : Value} (hresult : s.result = some result)
    (hrows : result.rows = [values]) (hvalue : values[place]? = some value) :
    s.read (.int ((place : Int) + 1)) = .ok value := by
  have hplace : place < values.length := (List.getElem?_eq_some_iff.mp hvalue).1
  have hrow : s.outputRow = .ok (result.columns.map (·.name), values) := by
    simp [outputRow, hresult, hrows]
  have hat : placeOf (result.columns.map (·.name)) values.length (.int ((place : Int) + 1)) =
      .ok place := by
    have hbounds : 1 ≤ (place : Int) + 1 ∧ (place : Int) + 1 ≤ values.length := by omega
    simp only [placeOf, Value.asInt?, if_pos hbounds]
    congr 1
    omega
  rw [read, hrow]
  change (placeOf _ _ _).bind _ = _
  rw [hat]
  simp only [Except.bind, hvalue]

theorem Call.read_gives {w : World σ} {key : Key} {value : Value}
    (h : w.call.read key = .ok value) :
    ∃ j, (read key : Action (World σ) Note Value).Gives w value
      (w.withCall { w.call with wasNull := value.isNull }) j :=
  ⟨_, (state_gives w).bind (Gives.bind (ends_ofExcept.mpr ⟨h.symm, rfl, rfl⟩)
    ((state_gives w).bind ((update_gives _ w).bind (pure_gives _ _))))⟩

end Postgres

/-! ### Binding -/

namespace Invoker

open Postgres

variable {σ ν π : Type} {i : Invoker (World σ) ν π} {c : Call σ}

theorem bind_gives (hcall : i.call = c.driverCall) (hobserve : i.observe = logBind) (p : Progress)
    {slot : Nat} (h : 1 ≤ slot) (value : Value) (w : World σ) :
    ∃ j, (i.bind (.int slot) value).Gives (p, w) () (p, w.withCall
      { w.call with bindings := Entries.put (slot : Int) value w.call.bindings }) j := by
  have hasked : (c.driverCall.askBind (.int slot) value : Action (World σ) (Event ν π) Unit).Gives
      w () (w.withCall { w.call with bindings := Entries.put (slot : Int) value w.call.bindings })
      [.bound (.int slot) value true] :=
    ends_asked.mpr ⟨[], Call.bind_gives h value w, rfl⟩
  have htold : ∀ v : World σ, ∃ j, (i.tell (.int slot) value).Gives v () v j := by
    intro v
    rw [tell, hobserve]
    exact ⟨_, ends_asked.mpr ⟨_, record_gives _ v, rfl⟩⟩
  obtain ⟨j, htell⟩ := htold _
  rw [Invoker.bind, hcall]
  exact ⟨_, ends_within.mpr ⟨_, hasked.bind htell, rfl⟩⟩

/-- Values are bound to the places after those that are bound. -/
theorem bindFrom_gives (hcall : i.call = c.driverCall) (hobserve : i.observe = logBind)
    (p : Progress) (values : List Value) {before : List Value} {w : World σ}
    (hw : w.call.bindings = boundFrom 1 before) :
    ∃ j, (i.bindFrom (1 + before.length) values).Gives (p, w) ()
      (p, w.withCall { w.call with bindings := boundFrom 1 (before ++ values) }) j := by
  induction values generalizing before w with
  | nil =>
    refine ⟨[], ?_⟩
    rw [List.append_nil, ← hw]
    exact pure_gives _ _
  | cons value values ih =>
    have hslot : 1 ≤ 1 + before.length := by omega
    obtain ⟨j₁, hbind⟩ := bind_gives hcall hobserve p hslot value w
    rw [hw, put_boundFrom] at hbind
    have hbound : (w.withCall { w.call with
        bindings := boundFrom 1 (before ++ [value]) }).call.bindings =
          boundFrom 1 (before ++ [value]) := rfl
    obtain ⟨j₂, hrest⟩ := ih hbound
    rw [List.length_append, List.append_assoc] at hrest
    exact ⟨_, hbind.bind hrest⟩

/-- From the start, values are bound to the places 1, 2, 3, … in their order. -/
theorem bindAll_gives (hcall : i.call = c.driverCall) (hobserve : i.observe = logBind)
    (p : Progress) (values : List Value) {w : World σ} (hw : w.call.bindings = []) :
    ∃ j, (i.bindAll values).Gives (p, w) ()
      (p, w.withCall { w.call with bindings := boundFrom 1 values }) j := by
  have hstart : w.call.bindings = boundFrom 1 [] := hw
  exact bindFrom_gives hcall hobserve p values hstart

/-! ### Reading the outputs -/

/-- After an execution without a result set of the call's own, the result is the row of output
values. -/
theorem resultSet_gives (hcall : i.call = c.driverCall) {p : Progress}
    (hcommitted : p.projector.isCommitted = true) (hcolumns : p.projector.columns ≠ [])
    {w : World σ} (hnative : w.call.isNative = false) :
    ∃ j, i.resultSet.Gives (p, w) (some .projected) (p, w) j := by
  have hnone : c.driverCall.resultSet.Gives w none w ([] ++ []) := by
    refine (Call.state_gives w).bind ?_
    rw [hnative]
    exact pure_gives none w
  rw [← hcall] at hnone
  have hasked : (outside (i.call.resultSet.entering .note) :
      Action (Progress × World σ) (Event ν π) (Option QueryResult)).Gives (p, w) none (p, w) _ :=
    ends_within.mpr ⟨w, ends_entering.mpr ⟨_, hnone, rfl⟩, rfl⟩
  have hrow : (if p.projector.isCommitted && !p.projector.columns.isEmpty then some .projected
      else none) = some ResultSet.projected := by
    simp [hcommitted, hcolumns]
  refine ⟨_, hasked.bind ((world_gives (p, w)).bind (gives_pure.mpr ⟨hrow.symm, rfl, rfl⟩))⟩

theorem fetch_gives (hcall : i.call = c.driverCall) {ordinal : Int} {value : Value} {w : World σ}
    (h : w.call.read (.int ordinal) = .ok value) :
    ∃ j, (i.fetch ordinal).Gives w value
      (w.withCall { w.call with wasNull := value.isNull }) j := by
  obtain ⟨j, hread⟩ := Call.read_gives h
  rw [fetch, hcall]
  exact ⟨_, ends_asked.mpr ⟨j, hread, rfl⟩⟩

end Invoker

end ProcedureCall
