import ProcedureCall.Proofs.Driver.Binds
import ProcedureCall.Proofs.Postgres.Call
import ProcedureCall.Proofs.Postgres.Exchange

/-!
# Binding in any order

Values may be bound to the places of a call in any order, and again to the same place. What an
execution sends can be told from the requests alone: for each place the value that was bound to it
last (`valueAt`), up to the last place that was bound at all (`IsLastPlace`), if there is no gap
(`gaps`). With a gap nothing is sent and nothing is lost.
-/

namespace ProcedureCall.Postgres

open ProcedureCall.Action ProcedureCall.DriverCall

/-! ### Requests -/

/-- The place that a request binds, if its key is an integer from 1 on. -/
def placeBound? (b : BindRequest) : Option Int := b.key.asInt?.filter (1 ≤ ·)

/-- The value that some requests have bound last to a place. -/
def valueAt (binds : List BindRequest) (place : Int) : Option Value :=
  (binds.filter fun b => placeBound? b = some place).getLast?.map (·.bound)

/-- This is the greatest place that some requests bind, or 0 if they bind none. -/
structure IsLastPlace (binds : List BindRequest) (n : Nat) : Prop where
  /-- No place after it is bound. -/
  le : ∀ b ∈ binds, ∀ place ∈ placeBound? b, place ≤ n
  /-- It is bound, unless none is. -/
  isBound : n = 0 ∨ ∃ b ∈ binds, placeBound? b = some (n : Int)

/-- The places up to `n` that no request binds, in ascending order. -/
def gaps (binds : List BindRequest) (n : Nat) : List Nat :=
  (List.range' 1 n).filter fun place : Nat => (valueAt binds place).isNone

variable {b : BindRequest} {binds more : List BindRequest} {place : Int} {n : Nat}

/-- Later requests count before earlier ones. -/
theorem valueAt_append (binds more : List BindRequest) (place : Int) :
    valueAt (binds ++ more) place = (valueAt more place).or (valueAt binds place) := by
  rw [valueAt, List.filter_append, List.getLast?_append, Option.map_or]
  rfl

theorem valueAt_singleton (b : BindRequest) (place : Int) :
    valueAt [b] place = if placeBound? b = some place then some b.bound else none := by
  by_cases h : placeBound? b = some place <;> simp [valueAt, h]

/-- A place without a value is one that no request binds. -/
theorem valueAt_eq_none_iff :
    valueAt binds place = none ↔ ∀ b ∈ binds, placeBound? b ≠ some place := by
  simp [valueAt]

theorem exists_isLastPlace (binds : List BindRequest) : ∃ n, IsLastPlace binds n := by
  induction binds with
  | nil => exact ⟨0, by simp, Or.inl rfl⟩
  | cons b binds ih =>
    obtain ⟨n, hle, hbound⟩ := ih
    have hlater : n = 0 ∨ ∃ other ∈ b :: binds, placeBound? other = some (n : Int) :=
      hbound.imp_right fun ⟨other, hother, hplace⟩ => ⟨other, List.mem_cons_of_mem b hother, hplace⟩
    by_cases hb : ∀ place ∈ placeBound? b, place ≤ n
    · exact ⟨n, List.forall_mem_cons.mpr ⟨hb, hle⟩, hlater⟩
    · obtain ⟨place, hplace, hgreater⟩ :
          ∃ place, placeBound? b = some place ∧ (n : Int) < place := by simpa using hb
      have hcast : ((place.toNat : Nat) : Int) = place := Int.toNat_of_nonneg (by omega)
      refine ⟨place.toNat, List.forall_mem_cons.mpr ⟨fun other hother => ?_, ?_⟩,
        Or.inr ⟨b, List.mem_cons_self, by rw [hcast, hplace]⟩⟩
      · exact Int.le_of_eq (hcast.trans (Option.some.inj (hplace.symm.trans hother))).symm
      · intro other hmem p hp
        have hbefore := hle other hmem p hp
        omega

theorem IsLastPlace.unique {m : Nat} (h₁ : IsLastPlace binds m) (h₂ : IsLastPlace binds n) :
    m = n := by
  have hle : ∀ {m n}, IsLastPlace binds m → IsLastPlace binds n → m ≤ n := by
    intro m n h₁ h₂
    rcases h₁.isBound with rfl | ⟨b, hb, hplace⟩
    · exact Nat.zero_le n
    · exact Int.ofNat_le.mp (h₂.le b hb m hplace)
  exact Nat.le_antisymm (hle h₁ h₂) (hle h₂ h₁)

/-- Requests that bind no later place leave the last one as it is. -/
theorem IsLastPlace.append_of_le (h : IsLastPlace binds n)
    (hmore : ∀ b ∈ more, ∀ place ∈ placeBound? b, place ≤ n) :
    IsLastPlace (binds ++ more) n where
  le := List.forall_mem_append.mpr ⟨h.le, hmore⟩
  isBound := h.isBound.imp_right fun ⟨b, hb, hplace⟩ => ⟨b, List.mem_append_left more hb, hplace⟩

theorem mem_gaps_iff {place : Nat} :
    place ∈ gaps binds n ↔ 1 ≤ place ∧ place ≤ n ∧ valueAt binds place = none := by
  rw [gaps, List.mem_filter, List.mem_range'_1, Option.isNone_iff_eq_none, and_assoc]
  exact and_congr_right fun _ => and_congr_left fun _ => by omega

/-- Once all gaps are bound there is none. -/
theorem gaps_append_eq_nil
    (h : ∀ place ∈ gaps binds n, ∃ b ∈ more, placeBound? b = some (place : Int)) :
    gaps (binds ++ more) n = [] := by
  refine List.eq_nil_iff_forall_not_mem.mpr fun place hplace => ?_
  obtain ⟨hlow, hhigh, hnone⟩ := mem_gaps_iff.mp hplace
  rw [valueAt_append, Option.or_eq_none_iff] at hnone
  obtain ⟨b, hb, hbound⟩ := h place (mem_gaps_iff.mpr ⟨hlow, hhigh, hnone.2⟩)
  exact valueAt_eq_none_iff.mp hnone.1 b hb hbound

/-! ### What the requests leave -/

variable {σ : Type} {c : Call σ} {w w' : World σ}

/-- The absence of a value is bound as one of the values. -/
theorem ask_bind_eq (c : Call σ) (b : BindRequest) :
    c.driverCall.ask b.request = Call.bind b.key b.bound := by
  cases b <;> rfl

/-- A key that is no place is refused, and nothing changes. -/
theorem ask_bind_fails (c : Call σ) (h : placeBound? b = none) (w : World σ) :
    (c.driverCall.ask b.request).Fails w (.tool .input
      ("Parameters are bound by 1-based position, got " ++ String.ofList b.key.literal)) w [] := by
  have hbind : w.call.bind b.key b.bound = .error (.tool .input
      ("Parameters are bound by 1-based position, got " ++ String.ofList b.key.literal)) := by
    rw [placeBound?] at h
    rw [CallState.bind, h]
  rw [ask_bind_eq]
  exact (Gives.ends_bind (Call.state_gives w)).mpr
    ⟨[], ends_bind.mpr (Or.inl ⟨_, rfl, ends_ofExcept.mpr ⟨hbind.symm, rfl, rfl⟩⟩), rfl⟩

/-- A value is put at its place, and that is all. -/
theorem ask_bind_gives (c : Call σ) (h : placeBound? b = some place) (w : World σ) :
    (c.driverCall.ask b.request).Gives w () (w.withCall
      { w.call with bindings := Entries.put place b.bound w.call.bindings }) [] := by
  rw [ask_bind_eq]
  exact Call.bind_gives_of_place h b.bound w

/-- After one request its place has its value, and every other place has what it had. -/
theorem get?_of_ask_bind {r : Except Fault Unit} {j : List Note}
    (h : (c.driverCall.ask b.request).Ends w r w' j) (place : Int) :
    Entries.get? place w'.call.bindings =
      (valueAt [b] place).or (Entries.get? place w.call.bindings) := by
  rw [valueAt_singleton]
  cases hb : placeBound? b with
  | none =>
    obtain ⟨-, rfl, -⟩ := Ends.unique h (ask_bind_fails c hb w)
    simp
  | some own =>
    obtain ⟨-, rfl, -⟩ := Ends.unique h (ask_bind_gives c hb w)
    by_cases hplace : own = place
    · subst hplace
      simp [World.withCall]
    · simp [World.withCall, hplace, Entries.get?_put_of_ne]

/-- After some requests each place has the value that was bound to it last, or what it had before
all of them. -/
theorem get?_of_takes (h : c.driverCall.Takes w binds w') (place : Int) :
    Entries.get? place w'.call.bindings =
      (valueAt binds place).or (Entries.get? place w.call.bindings) := by
  induction h with
  | nil => rfl
  | @cons b binds _ _ _ _ _ hask _ ih =>
    rw [ih, get?_of_ask_bind hask, ← Option.or_assoc, ← valueAt_append, List.singleton_append]

/-! ### What is sent -/

namespace CallState

/-- Each place has the value that some requests have bound last to it. -/
def Holds (s : CallState) (binds : List BindRequest) : Prop :=
  ∀ place, Entries.get? place s.bindings = valueAt binds place

theorem holds_of_takes (hfresh : w.call.bindings = []) (h : c.driverCall.Takes w binds w') :
    w'.call.Holds binds := by
  intro place
  rw [get?_of_takes h, hfresh]
  exact Option.or_none

variable {s : CallState}

theorem lastBound_le_iff {m : Int} :
    s.lastBound ≤ m ↔ 0 ≤ m ∧ ∀ binding ∈ s.bindings, binding.1 ≤ m := by
  have hfold : ∀ (bindings : List Binding) (start : Int),
      bindings.foldl (fun last binding => max last binding.1) start ≤ m ↔
        start ≤ m ∧ ∀ binding ∈ bindings, binding.1 ≤ m := by
    intro bindings
    induction bindings with
    | nil => simp
    | cons binding bindings ih =>
      intro start
      rw [List.foldl_cons, ih, Int.max_le, List.forall_mem_cons, and_assoc]
  exact hfold s.bindings 0

/-- Exactly the places that the requests bind are bound. -/
theorem Holds.exists_mem_iff (hs : s.Holds binds) (place : Int) :
    (∃ binding ∈ s.bindings, binding.1 = place) ↔ ∃ b ∈ binds, placeBound? b = some place := by
  have hnone : Entries.get? place s.bindings = none ↔
      ∀ b ∈ binds, placeBound? b ≠ some place := by
    rw [hs, valueAt_eq_none_iff]
  simpa using not_congr (Entries.get?_eq_none_iff.symm.trans hnone)

/-- The last place that is bound is the last one that the requests bind. -/
theorem Holds.lastBound_eq (hs : s.Holds binds) (hlast : IsLastPlace binds n) :
    s.lastBound = n := by
  refine Int.le_antisymm (lastBound_le_iff.mpr ⟨by omega, fun binding hbinding => ?_⟩) ?_
  · obtain ⟨b, hb, hplace⟩ := (hs.exists_mem_iff binding.1).mp ⟨binding, hbinding, rfl⟩
    exact hlast.le b hb _ hplace
  · obtain ⟨hnonneg, hall⟩ := (lastBound_le_iff (s := s)).mp (Int.le_refl _)
    rcases hlast.isBound with rfl | hbound
    · exact hnonneg
    · obtain ⟨binding, hbinding, hn⟩ := (hs.exists_mem_iff n).mpr hbound
      exact hn ▸ hall binding hbinding

/-- Each place up to the last one has the value that was bound to it last. -/
theorem Holds.slots_eq (hs : s.Holds binds) (hlast : IsLastPlace binds n) :
    s.slots = (List.range' 1 n).map fun place : Nat => (place, valueAt binds place) := by
  rw [slots, hs.lastBound_eq hlast, Int.toNat_natCast]
  exact List.map_congr_left fun place _ => congrArg (place, ·) (hs place)

theorem Holds.missing_eq (hs : s.Holds binds) (hlast : IsLastPlace binds n) :
    s.missing = gaps binds n := by
  rw [missing, hs.slots_eq hlast, List.filterMap_map, gaps, ← List.filterMap_eq_filter]
  rfl

/-- Without a gap the values are sent in the order of their places. -/
theorem Holds.exists_arguments (hs : s.Holds binds) (hlast : IsLastPlace binds n)
    (hgaps : gaps binds n = []) :
    ∃ values : List Value,
      values.map some = (List.range' 1 n).map (fun place : Nat => valueAt binds place) ∧
      s.arguments = .ok (sentValues values) := by
  have hfull : ((List.range' 1 n).map fun place : Nat => valueAt binds place).filter
      Option.isSome = (List.range' 1 n).map fun place : Nat => valueAt binds place := by
    have hsome := List.filter_eq_nil_iff.mp hgaps
    refine List.filter_eq_self.mpr (List.forall_mem_map.mpr fun place hplace => ?_)
    simpa [← Option.isSome_iff_ne_none] using hsome place hplace
  refine ⟨(List.range' 1 n).filterMap fun place : Nat => valueAt binds place, ?_, ?_⟩
  · rw [List.map_filterMap_some_eq_filter_map_isSome, hfull]
  · rw [arguments, hs.missing_eq hlast, hgaps, List.isEmpty_nil, if_pos rfl, hs.slots_eq hlast,
      List.filterMap_map]
    rfl

theorem Holds.arguments_eq_error (hs : s.Holds binds) (hlast : IsLastPlace binds n)
    (hgaps : gaps binds n ≠ []) :
    s.arguments = .error (.tool .input ("Parameters not bound: " ++ ", ".intercalate
      ((gaps binds n).map fun place : Nat => String.ofList (Numeral.text place)))) := by
  rw [arguments, hs.missing_eq hlast, if_neg (by simpa using hgaps)]

end CallState

namespace Call

/-- An execution hands the client the call text with these values, once, and ends as the statement
does. Its result is kept, and is a result set of the call's own if it has columns and no output was
announced. -/
def Sends (c : Call σ) (values : List Value) (w : World σ) : Prop :=
  ∀ {r v j}, c.execute.Ends w r v j → queries j = [(c.text, sentValues values)] ∧
    ∃ result w₁, c.client.Exchange c.text (sentValues values) w result w₁ (messages j) ∧
      r = result.map (fun q => w.call.registered.isEmpty && !q.columns.isEmpty) ∧
      v = w₁.withCall (result.toOption.elim w.call w.call.finish)

theorem sends_of_arguments {values : List Value}
    (h : w.call.arguments = .ok (sentValues values)) : c.Sends values w := by
  intro r v j hends
  refine ⟨queries_execute h hends, ?_⟩
  obtain ⟨j₁, h₁, rfl⟩ := (Gives.ends_bind (state_gives w)).mp hends
  rw [h] at h₁
  obtain ⟨j₂, h₂, rfl⟩ := (Gives.ends_bind (ends_ofExcept.mpr ⟨rfl, rfl, rfl⟩)).mp h₁
  rcases ends_bind.mp h₂ with ⟨fault, rfl, hfails⟩ | ⟨result, w₁, j₃, j₄, hgives, hdone, rfl⟩
  · have hcall : v.call = w.call := (c.client.does_query _ _ _ _ _ _ hfails).2.call
    exact ⟨.error fault, v, Client.query_ends hfails, rfl, by rw [← hcall]; rfl⟩
  · have hcall : w₁.call = w.call := (c.client.does_query _ _ _ _ _ _ hgives).2.call
    obtain ⟨rfl, rfl, rfl⟩ := Ends.unique hdone ((state_gives w₁).bind
      ((update_gives (w₁.call.finish result) w₁).bind ((state_gives _).bind (pure_gives _ _))))
    refine ⟨.ok result, w₁, ?_, ?_, by rw [hcall]; rfl⟩
    · simpa using Client.query_ends hgives
    · rw [hcall]
      rfl

theorem execute_fails {fault : Fault} (h : w.call.arguments = .error fault) :
    c.execute.Fails w fault w [] :=
  (Gives.ends_bind (state_gives w)).mpr
    ⟨[], ends_bind.mpr (Or.inl ⟨_, rfl, ends_ofExcept.mpr ⟨h.symm, rfl, rfl⟩⟩), rfl⟩

/-- **What was bound last is what is sent.** For a call to which nothing is bound and any requests
to bind: one whose key is no place from 1 on is refused and changes nothing, however the call
stands. If every place up to the last one is bound, an execution sends the values that were bound
last, in the order of their places, and none if none is bound. If not, it names the gaps in
ascending order, sends nothing and leaves everything as it is; and once the gaps are bound as well,
it sends the values. -/
theorem bound_values_sent (c : Call σ) (hfresh : w.call.bindings = [])
    (h : c.driverCall.Takes w binds w') :
    (∀ b u, placeBound? b = none → (c.driverCall.ask b.request).Fails u (.tool .input
      ("Parameters are bound by 1-based position, got " ++ String.ofList b.key.literal)) u []) ∧
    ∃ n, IsLastPlace binds n ∧
      (gaps binds n = [] → ∃ values : List Value,
        values.map some = (List.range' 1 n).map (fun place : Nat => valueAt binds place) ∧
        c.Sends values w') ∧
      (gaps binds n ≠ [] →
        c.execute.Fails w' (.tool .input ("Parameters not bound: " ++ ", ".intercalate
          ((gaps binds n).map fun place : Nat => String.ofList (Numeral.text place)))) w' [] ∧
        ∀ more v, c.driverCall.Takes w' more v →
          (∀ place ∈ gaps binds n, ∃ b ∈ more, placeBound? b = some (place : Int)) →
          (∀ b ∈ more, ∀ place ∈ placeBound? b, place ≤ n) →
          ∃ values : List Value,
            values.map some =
              (List.range' 1 n).map (fun place : Nat => valueAt (binds ++ more) place) ∧
            c.Sends values v) := by
  have hholds : w'.call.Holds binds := CallState.holds_of_takes hfresh h
  obtain ⟨n, hlast⟩ := exists_isLastPlace binds
  refine ⟨fun b u hb => ask_bind_fails c hb u, n, hlast, fun hgaps => ?_, fun hgaps => ⟨?_, ?_⟩⟩
  · obtain ⟨values, hvalues, harguments⟩ := hholds.exists_arguments hlast hgaps
    exact ⟨values, hvalues, sends_of_arguments harguments⟩
  · exact execute_fails (hholds.arguments_eq_error hlast hgaps)
  · -- The binds before and after count as one history, which has the same last place.
    intro more v hmore hfilled hwithin
    have hholds' : v.call.Holds (binds ++ more) :=
      CallState.holds_of_takes hfresh (h.append hmore)
    obtain ⟨values, hvalues, harguments⟩ :=
      hholds'.exists_arguments (hlast.append_of_le hwithin) (gaps_append_eq_nil hfilled)
    exact ⟨values, hvalues, sends_of_arguments harguments⟩

/-- A call on a server that takes everything. -/
def obliged : Call Unit where
  client := ⟨{}, ⟨fun _ => pure (), pure true, fun _ _ => pure {}, pure ()⟩⟩
  text := "CALL p(%s, %s)"

/-- The second place is bound and the first is not; after it was bound as well, also by a key that
only counts as the number 1, the execution succeeds. -/
theorem gap_bound_later :
    ∃ v w' : World Unit,
      obliged.driverCall.Takes { outside := () }
        [.value (.int 2) (.text "x"), .value (.text "a") (.int 1)] v ∧
      obliged.execute.Fails v (.tool .input "Parameters not bound: 1") v [] ∧
      obliged.driverCall.Takes v [.absence (.bool true) 4] w' ∧
      obliged.Sends [.null, .text "x"] w' ∧ ∃ x j, obliged.execute.Gives w' false x j := by
  have htakes : ∃ v w' x : World Unit, ∃ j, obliged.driverCall.Takes { outside := () }
      [.value (.int 2) (.text "x"), .value (.text "a") (.int 1)] v ∧
      obliged.driverCall.Takes v [.absence (.bool true) 4] w' ∧
      obliged.execute.Gives w' false x j :=
    ⟨_, _, _, _, .cons rfl (.cons rfl (.nil _)), .cons rfl (.nil _), rfl⟩
  obtain ⟨v, w', x, j, hfirst, hmore, hgives⟩ := htakes
  obtain ⟨-, n, hlast, -, hgap⟩ := bound_values_sent obliged rfl hfirst
  obtain rfl : n = 2 := hlast.unique ⟨by decide, by decide⟩
  obtain ⟨hfails, hfilled⟩ := hgap (by decide)
  obtain ⟨values, hvalues, hsends⟩ := hfilled _ w' hmore (by decide) (by decide)
  obtain rfl : values = [.null, .text "x"] := by
    refine (List.map_inj_right fun _ _ => Option.some.inj).mp ?_
    exact hvalues
  exact ⟨v, w', hfirst, hfails, hmore, hsends, x, j, hgives⟩

end Call

end ProcedureCall.Postgres
