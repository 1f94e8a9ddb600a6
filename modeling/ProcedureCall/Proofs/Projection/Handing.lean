import ProcedureCall.Proofs.Projection.Histories

/-!
# Handing out the row

The row is to be handed out once: to the first who asks for it and is not turned away by a fetch
that failed (`HandedOnce`). But who asks first marks the row as handed out before it is read
(`fetchOne_cases`), and the mark stays when a fetch fails. From then on the row is withheld
(`Runs.withheld`), so whoever asks again is not handed what could be fetched by now.
-/

namespace ProcedureCall

open ProcedureCall.Action

namespace Projector

/-- What an operation that hands out the row replies with the row, or without it if it is
withheld. -/
def Operation.replyOf (op : Operation) (values? : Option (List Value)) : Reply :=
  match op with
  | .fetchAll => .rows values?.toList
  | _ => .handed values?

theorem Operation.replyOf_none_ne (op : Operation) (values : List Value) :
    op.replyOf none ≠ op.replyOf (some values) := by
  cases op <;> simp [replyOf]

/-- The first of some operations that is not turned away is given a whole row, and all after it are
given none. -/
def HandedOnce (IsWhole : List Value → Prop) (steps : List (Operation × Except Fault Reply)) :
    Prop :=
  ∀ before op reply after, steps = before ++ (op, .ok reply) :: after →
    ((∀ s ∈ before, ∃ fault, s.2 = .error fault) →
      ∃ values, IsWhole values ∧ reply = op.replyOf (some values)) ∧
    ((∃ s ∈ before, ∃ given, s.2 = .ok given) → reply = op.replyOf none)

/-- If nobody is given the row after the first operation, then it is handed out once exactly if the
first operation was given it, or was turned away and none came after it. -/
theorem handedOnce_cons_iff {IsWhole : List Value → Prop} {op : Operation}
    {r : Except Fault Reply} {later : List (Operation × Except Fault Reply)}
    (hlater : ∀ s ∈ later, s.2 = .ok (s.1.replyOf none)) :
    HandedOnce IsWhole ((op, r) :: later) ↔
      (∀ reply, r = .ok reply → ∃ values, IsWhole values ∧ reply = op.replyOf (some values)) ∧
        ((∃ fault, r = .error fault) → later = []) := by
  constructor
  · intro h
    refine ⟨fun reply hr => ?_, fun hfailed => ?_⟩
    · subst hr
      exact (h [] op reply later rfl).1 (by simp)
    · cases later with
      | nil => rfl
      | cons next rest =>
        obtain ⟨hnext, -⟩ := List.forall_mem_cons.mp hlater
        obtain ⟨values, -, hgiven⟩ := (h [(op, r)] next.1 (next.1.replyOf none) rest (by
          rw [← hnext]
          rfl)).1 (by simpa using hfailed)
        exact absurd hgiven (next.1.replyOf_none_ne values)
  · rintro ⟨hfirst, hfailed⟩ before op' reply after hsteps
    cases before with
    | nil =>
      obtain ⟨⟨rfl, rfl⟩, rfl⟩ : (op = op' ∧ r = .ok reply) ∧ later = after := by
        simpa using hsteps
      exact ⟨fun _ => hfirst reply rfl, by simp⟩
    | cons s before =>
      obtain ⟨rfl, rfl⟩ := List.cons.inj hsteps
      have hwithheld : Except.ok reply = .ok (op'.replyOf none) := hlater (op', .ok reply) (by simp)
      refine ⟨fun hall => ?_, fun _ => Except.ok.inj hwithheld⟩
      obtain ⟨hturned, -⟩ := List.forall_mem_cons.mp hall
      simpa using hfailed hturned

section

variable {σ ε : Type} {fetch : Fetch σ ε} {u v : Projector × σ} {cells : List Cell} {j : List ε}

theorem perform_eq_of_isHanding {op : Operation} (hop : op.isHanding = true) :
    op.perform fetch = op.replyOf <$> fetchOne fetch := by
  cases op with
  | fetchOne => rfl
  | fetchAll => exact (comp_map Option.toList Reply.rows (fetchOne fetch)).symm
  | _ => cases hop

/-- Who is to be handed the row is given none if the row is marked; else the row gets marked, and
is read. -/
theorem handing_cases {op : Operation} {r : Except Fault Reply} (hop : op.isHanding = true)
    (hrow : u.1.row = .ok cells) (h : (op.perform fetch).Ends u r v j) :
    (u.1.isRead = true ∧ r = .ok (op.replyOf none) ∧ v = u ∧ j = []) ∨
      (u.1.isRead = false ∧ v.1.isRead = true ∧
        ReadsTo fetch (List.range cells.length)
          (fun reply cells' => ∃ values, IsRow cells.length (keptAt cells') values ∧
            reply = op.replyOf (some values))
          cells u r v j) := by
  rw [perform_eq_of_isHanding hop] at h
  obtain ⟨result, hends, rfl⟩ := ends_map.mp h
  rcases fetchOne_cases hrow hends with ⟨hread, rfl, rfl, rfl⟩ | ⟨hunread, hmarked, hreads⟩
  · exact Or.inl ⟨hread, rfl, rfl, rfl⟩
  · refine Or.inr ⟨hunread, hmarked, hreads.map fun values? cells' _ hshown => ?_⟩
    obtain ⟨values, rfl, hvalues⟩ := hshown
    exact ⟨values, hvalues, rfl⟩

/-- A row that is marked is given to nobody, and nothing is fetched. -/
theorem Runs.withheld {steps : List (Operation × Except Fault Reply)}
    (hread : u.1.isRead = true) (hrow : u.1.row = .ok cells)
    (hops : ∀ s ∈ steps, s.1.isHanding = true) (h : Runs fetch u steps j v) :
    (∀ s ∈ steps, s.2 = .ok (s.1.replyOf none)) ∧ v = u ∧ j = [] := by
  induction h with
  | start => exact ⟨by simp, rfl, rfl⟩
  | @step _ op _ _ _ _ _ _ hlast ih =>
    obtain ⟨hbefore, hlasts⟩ := List.forall_mem_append.mp hops
    have hop : op.isHanding = true := hlasts _ (List.mem_singleton_self _)
    obtain ⟨hreplies, rfl, rfl⟩ := ih hbefore
    rcases handing_cases hop hrow hlast with
      ⟨-, rfl, rfl, rfl⟩ | ⟨hunread, -⟩
    · exact ⟨List.forall_mem_append.mpr ⟨hreplies, by simp⟩, rfl, rfl⟩
    · simp [hread] at hunread

/-- **When the row is handed out once.** For a row that is there and a sequence of operations that
are to hand it out, whatever comes of the fetches: only the first operation fetches anything, the
row is marked as handed out after it in any case, and all later ones are given no row. So the first
operation that is not turned away is given the whole row, and only those after it none, exactly if
the row was not marked before and either all fetches of the first operation gave a value or the
first operation was the only one. -/
theorem handed_once_iff {op : Operation} {r : Except Fault Reply}
    {later : List (Operation × Except Fault Reply)} (hrow : u.1.row = .ok cells)
    (hops : ∀ s ∈ (op, r) :: later, s.1.isHanding = true)
    (h : Runs fetch u ((op, r) :: later) j v) :
    ∃ attempts cells', Reads fetch (List.range cells.length) cells u attempts j cells' v ∧
      v.1.isRead = true ∧ (∀ s ∈ later, s.2 = .ok (s.1.replyOf none)) ∧
      (HandedOnce (IsRow cells.length (keptAt cells')) ((op, r) :: later) ↔
        u.1.isRead = false ∧ (Succeed attempts ∨ later = [])) := by
  obtain ⟨hop, hothers⟩ : op.isHanding = true ∧ ∀ s ∈ later, s.1.isHanding = true :=
    List.forall_mem_cons.mp hops
  obtain ⟨w, j₁, j₂, hfirst, hrest, rfl⟩ := h.uncons
  rcases handing_cases hop hrow hfirst with
    ⟨hread, rfl, rfl, rfl⟩ | ⟨hunread, hmarked, attempts, cells', hreads, hshown, hfault⟩
  · obtain ⟨hlater, rfl, rfl⟩ := hrest.withheld hread hrow hothers
    refine ⟨[], cells, .refl hrow _, hread, hlater, (handedOnce_cons_iff hlater).trans ?_⟩
    refine iff_of_false (fun honce => ?_) (by simp [hread])
    obtain ⟨values, -, hgiven⟩ := honce.1 _ rfl
    exact op.replyOf_none_ne values hgiven
  · obtain ⟨hlater, rfl, rfl⟩ := hrest.withheld hmarked hreads.row hothers
    rw [List.append_nil]
    refine ⟨attempts, cells', hreads, hmarked, hlater, (handedOnce_cons_iff hlater).trans ?_⟩
    cases r with
    | ok reply =>
      obtain ⟨hgiven, hsucceed⟩ := hshown reply rfl
      refine iff_of_true ⟨fun other hother => ?_, by simp⟩ ⟨hunread, Or.inl hsucceed⟩
      exact Except.ok.inj hother ▸ hgiven
    | error fault =>
      have hfailed : ¬ Succeed attempts := (hfault fault rfl).not_succeed
      simp [hunread, hfailed]

end

/-- A row with one cell that nothing was fetched for. -/
def freshRow : Projector where
  columns := [numericColumn "a" 1]
  cells := some [⟨numericColumn "a" 1, none⟩]

/-- A row is handed out once to three who ask: what was fetched gave a value. -/
theorem row_handed_once :
    freshRow.row = .ok [⟨numericColumn "a" 1, none⟩] ∧
      ∃ (v : Projector × Nat) (attempts : List Attempt) (cells' : List Cell),
        Runs fetchCounting (freshRow, 1)
          [(.fetchOne, .ok (.handed (some [.int 1]))), (.fetchAll, .ok (.rows [])),
            (.fetchOne, .ok (.handed none))] [] v ∧
        Succeed attempts ∧
        HandedOnce (IsRow 1 (keptAt cells'))
          [(.fetchOne, .ok (.handed (some [.int 1]))), (.fetchAll, .ok (.rows [])),
            (.fetchOne, .ok (.handed none))] := by
  have hruns : ∃ v : Projector × Nat,
      v.1.row = .ok [⟨numericColumn "a" 1, some (.int 1)⟩] ∧
      Runs fetchCounting (freshRow, 1)
        [(.fetchOne, .ok (.handed (some [.int 1]))), (.fetchAll, .ok (.rows [])),
          (.fetchOne, .ok (.handed none))] [] v :=
    ⟨_, rfl, .cons rfl (.cons rfl (.cons rfl .start))⟩
  obtain ⟨v, hrow, hruns⟩ := hruns
  have hfresh : freshRow.row = .ok [⟨numericColumn "a" 1, none⟩] := rfl
  obtain ⟨attempts, cells', hreads, -, hlater, honce⟩ :=
    handed_once_iff hfresh (by decide) hruns
  obtain rfl := Except.ok.inj (hrow.symm.trans hreads.row)
  have hhanded : HandedOnce (IsRow 1 (keptAt [⟨numericColumn "a" 1, some (.int 1)⟩]))
      [(.fetchOne, .ok (.handed (some [.int 1]))), (.fetchAll, .ok (.rows [])),
        (.fetchOne, .ok (.handed none))] :=
    (handedOnce_cons_iff hlater).mpr
      ⟨fun reply hr => ⟨[.int 1], rfl, (Except.ok.inj hr).symm⟩, by simp⟩
  exact ⟨hfresh, v, attempts, _, hruns, (honce.mp hhanded).2.resolve_right (by simp), hhanded⟩

/-- A fetch fails the first time: who asked is turned away, and who asks then is given no row. -/
theorem row_lost :
    freshRow.row = .ok [⟨numericColumn "a" 1, none⟩] ∧ freshRow.isRead = false ∧
      ∃ (v : Projector × Nat) (j : List Unit), Runs fetchCounting (freshRow, 0)
        [(.fetchOne, .error (.tool .driver "Call returned no output row")),
          (.fetchOne, .ok (.handed none)), (.fetchAll, .ok (.rows []))] j v ∧
      ∀ IsWhole, ¬ HandedOnce IsWhole
        [(.fetchOne, .error (.tool .driver "Call returned no output row")),
          (.fetchOne, .ok (.handed none)), (.fetchAll, .ok (.rows []))] := by
  refine ⟨rfl, rfl, _, _, .cons rfl (.cons rfl (.cons rfl .start)), fun IsWhole honce => ?_⟩
  obtain ⟨values, -, hgiven⟩ :=
    (honce [_] .fetchOne (.handed none) _ rfl).1 (by simp)
  exact Operation.replyOf_none_ne .fetchOne values hgiven

end Projector

end ProcedureCall
