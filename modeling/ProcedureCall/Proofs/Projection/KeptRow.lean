import ProcedureCall.Proofs.Projection.Histories

/-!
# A row that is kept

Whoever asks the projector for its row may keep it. Until the projector is closed it makes no
difference through which of the two the row is read, since both have the same one. After that the
projector refuses every reading; but the row that is kept is not closed and goes on fetching what it
lacks, as if there had been no close.

So what is asked of the two comes to one history of a projector (`reaching`): the requests that
reached the row, without the close and without what the closed projector was asked for. A request
lets that history go on by itself or not at all (`Bears.ask`), so that all that is known of a history
holds of it (`kept_row_outlives_close`).
-/

namespace ProcedureCall

open ProcedureCall.Action

namespace Projector

variable {σ ε : Type} {fetch : Fetch σ ε} {w : σ} {j k : List ε} {history : List Step}
  {u v : Projector × σ}

theorem isOpen_concat (hopen : isOpen history = true) {s : Step} (hs : s.op ≠ .close) :
    isOpen (history ++ [s]) = true := by
  simp only [isOpen, Bool.and_eq_true, Bool.not_eq_true'] at hopen
  simp [isOpen, hopen, hs]

/-- A row that is there goes on by its cells alone. -/
theorem Follows.alone (h : Follows fetch w history j u) (hopen : isOpen history = true)
    {cells : List Cell} (hcells : u.1.cells = some cells) :
    Follows fetch w history j ({ columns := cells.map (·.column), cells := some cells }, u.2) := by
  obtain ⟨there, hthere, hmap, hkept⟩ := h.kept hopen
  obtain rfl := Option.some.inj (hcells.symm.trans hthere)
  exact
    { outside := by rw [hmap]; exact h.outside
      once := h.once
      kept := fun _ => ⟨cells, rfl, rfl, hkept⟩
      dropped := fun hnot => absurd hopen (by simp [hnot])
      lawful := h.lawful
      columns := hmap.trans h.columns
      isClosed := (h.isClosed_eq_false hopen).symm.trans h.isClosed
      early := h.early
      isRead := fun hread => by cases hread }

/-- Whatever is done with a closed projector, it stays closed and has no row, and nothing is done
outside. What reads is refused. -/
theorem perform_closed {op : Operation} {r : Except Fault Reply} (hclosed : u.1.isClosed = true)
    (hcells : u.1.cells = none) (h : (op.perform fetch).Ends u r v k) :
    (v.1.isClosed = true ∧ v.1.cells = none) ∧ (v.2 = u.2 ∧ k = []) ∧
      (op.isReading = true → r = .error (misuse "Result is closed")) := by
  have huncommitted : u.1.isCommitted = false := by simp [isCommitted, hcells]
  cases hreading : op.isReading with
  | true =>
    have hrow : u.1.row = .error (misuse "Result is closed") := by simp [row, hclosed]
    obtain ⟨rfl, rfl, rfl⟩ := Ends.unique h (perform_refused hreading hrow)
    exact ⟨⟨hclosed, hcells⟩, ⟨rfl, rfl⟩, fun _ => rfl⟩
  | false =>
    cases op with
    | addColumn column =>
      obtain ⟨rfl, rfl, rfl⟩ := (edit_ends (f := fun p => p.addColumn column)).mp h
      simp [Projector.addColumn, huncommitted, hclosed, hcells, Except.toOption]
    | addColumns columns =>
      obtain ⟨rfl, rfl, rfl⟩ := (edit_ends (f := fun p => p.addColumns columns)).mp h
      simp [addColumns_eq huncommitted, hclosed, hcells, Except.toOption]
    | addRow =>
      obtain ⟨rfl, rfl, rfl⟩ := (edit_ends (f := fun p => p.addRow)).mp h
      simp [Projector.addRow, hclosed, hcells, Except.toOption]
    | close =>
      obtain ⟨rfl, rfl, rfl⟩ := (edit_ends (f := fun p => .ok p.close)).mp h
      simp [Projector.close, Except.toOption]
    | _ => cases hreading

end Projector

namespace Custody

open Projector

/-! ### Requests -/

/-- What can be asked for while the row is kept. -/
inductive Request where
  /-- Something of the projector. -/
  | ofProjector (op : Operation)
  /-- The value at an index of the row. -/
  | readAt (index : Int)
  /-- All values of the row. -/
  | readRow
  /-- All values of the row by the names of their columns. -/
  | readNamed
  deriving DecidableEq, Repr

namespace Request

/-- What a projector that has the row does when it is asked for the same. -/
def operation : Request → Operation
  | ofProjector op => op
  | readAt index => .readAt index
  | readRow => .readRow
  | readNamed => .readNamed

/-- Is the projector asked, and not the row? -/
def isOfProjector : Request → Bool
  | ofProjector _ => true
  | _ => false

/-- Is the projector asked to close? -/
def isClose (q : Request) : Bool := q = .ofProjector .close

/-- Does what is asked for. -/
def perform {σ ε : Type} (fetch : Fetch σ ε) : Request → Action (Custody × σ) ε Reply
  | ofProjector op => onProjector (op.perform fetch)
  | readAt index => .value <$> Custody.readAt fetch index
  | readRow => .row <$> Custody.readRow fetch
  | readNamed => .named <$> Custody.readNamed fetch

end Request

/-- Who keeps a row asks for some things one after the other, with these results, which leave a
journal. -/
inductive Runs {σ ε : Type} (fetch : Fetch σ ε) :
    Custody × σ → List (Request × Except Fault Reply) → List ε → Custody × σ → Prop where
  /-- Nothing is asked for. -/
  | done (x : Custody × σ) : Runs fetch x [] [] x
  /-- One thing is asked for, and then the others. -/
  | ask {q : Request} {r : Except Fault Reply} {requests : List (Request × Except Fault Reply)}
      {x y z : Custody × σ} {j k : List ε} : (q.perform fetch).Ends x r y j →
      Runs fetch y requests k z → Runs fetch x ((q, r) :: requests) (j ++ k) z

/-- What some requests come to for the row, as operations of the projector: all that was asked of
the row, and what was asked of the projector until it was closed. -/
def reaching : Bool → List (Request × Except Fault Reply) → List (Operation × Except Fault Reply)
  | _, [] => []
  | isClosed, (q, r) :: requests =>
    (if q.isOfProjector && (isClosed || q.isClose) then [] else [(q.operation, r)]) ++
      reaching (isClosed || q.isClose) requests

/-! ### One request -/

section

variable {σ ε : Type} {fetch : Fetch σ ε} {w : σ} {j k : List ε} {history : List Projector.Step}
  {c : Custody} {u v : Projector × σ} {x y z : Custody × σ} {q : Request}
  {r : Except Fault Reply}

/-- A projector that is not closed has the row that is kept, and a closed one has none. -/
structure Intact (c : Custody) : Prop where
  /-- The row is one and the same. -/
  shared : c.projector.isClosed = false → c.projector.cells = some c.row
  /-- The row is left to who keeps it. -/
  dropped : c.projector.isClosed = true → c.projector.cells = none

/-- What was done to the row follows a history of a projector in which the row is there. -/
structure Bears (fetch : Fetch σ ε) (w : σ) (history : List Projector.Step) (j : List ε)
    (x : Custody × σ) : Prop where
  /-- The bearer of the row followed the history. -/
  follows : Follows fetch w history j (x.1.bearer, x.2)
  /-- The row is there. -/
  isOpen : isOpen history = true
  /-- The row is not lost. -/
  intact : x.1.Intact

theorem bearer_of_closed (h : c.projector.isClosed = true) :
    c.bearer = { columns := c.row.map (·.column), cells := some c.row } := if_pos h

theorem bearer_of_open (h : c.projector.isClosed = false) : c.bearer = c.projector :=
  if_neg (by simp [h])

theorem Intact.cells_bearer (h : c.Intact) : c.bearer.cells = some c.row := by
  cases hclosed : c.projector.isClosed with
  | true => rw [bearer_of_closed hclosed]
  | false => rw [bearer_of_open hclosed, h.shared hclosed]

/-- A projector bears the row that it has. -/
theorem Bears.of_open (h : Follows fetch w history j v) (hopen : Projector.isOpen history = true) :
    Bears fetch w history j ({ projector := v.1, row := v.1.cells.getD c.row }, v.2) := by
  have hclosed := h.isClosed_eq_false hopen
  obtain ⟨cells, hcells, -⟩ := h.kept hopen
  refine ⟨?_, hopen, fun _ => ?_, fun htrue => absurd htrue (by simp [hclosed])⟩
  · rw [bearer_of_open hclosed]
    exact h
  · rw [hcells]
    rfl

/-- The row bears itself when the projector is closed. -/
theorem Bears.of_closed (h : Follows fetch w history j v)
    (hopen : Projector.isOpen history = true) {p : Projector} (hclosed : p.isClosed = true)
    (hdropped : p.cells = none) :
    Bears fetch w history j ({ projector := p, row := v.1.cells.getD c.row }, v.2) := by
  obtain ⟨cells, hcells, -⟩ := h.kept hopen
  refine ⟨?_, hopen, fun hfalse => absurd hfalse (by simp [hclosed]), fun _ => hdropped⟩
  rw [bearer_of_closed hclosed, hcells]
  exact h.alone hopen hcells

theorem perform_ends_of_projector {op : Operation}
    (h : ((Request.ofProjector op).perform fetch).Ends x r y k) :
    ∃ v, (op.perform fetch).Ends (x.1.projector, x.2) r v k ∧
      y = ({ projector := v.1, row := v.1.cells.getD x.1.row }, v.2) := by
  have hends : (onProjector (op.perform fetch)).Ends x r y k := h
  exact ends_within.mp hends

/-- What is asked of the row is what its bearer is asked for. -/
theorem perform_ends_of_row (hq : q.isOfProjector = false) (h : (q.perform fetch).Ends x r y k) :
    ∃ v, (q.operation.perform fetch).Ends (x.1.bearer, x.2) r v k ∧
      y = ({ projector := if x.1.projector.isClosed then x.1.projector else v.1
             row := v.1.cells.getD x.1.row }, v.2) := by
  have hmap : ∀ {α : Type} {f : α → Reply} {a : Action (Projector × σ) ε α},
      (f <$> onRow a).Ends x r y k → (onRow (f <$> a)).Ends x r y k := by
    intro α f a h
    obtain ⟨result, hends, rfl⟩ := ends_map.mp h
    obtain ⟨v, hv, rfl⟩ := ends_within.mp hends
    exact ends_within.mpr ⟨v, ends_map.mpr ⟨result, hv, rfl⟩, rfl⟩
  cases q with
  | ofProjector op => cases hq
  | readAt index => exact ends_within.mp (hmap h)
  | readRow => exact ends_within.mp (hmap h)
  | readNamed => exact ends_within.mp (hmap h)

/-- What is asked of the row reaches it, whether the projector is closed or not. -/
theorem Bears.ask_row (hx : Bears fetch w history j x) (hq : q.isOfProjector = false)
    (h : (q.perform fetch).Ends x r y k) :
    (∃ attempts, Bears fetch w (history ++ [⟨q.operation, attempts, r⟩]) (j ++ k) y) ∧
      y.1.projector.isClosed = x.1.projector.isClosed := by
  have hclose : q.operation ≠ .close := by
    cases q with
    | ofProjector op => cases hq
    | _ => exact Operation.noConfusion
  obtain ⟨v, hends, rfl⟩ := perform_ends_of_row hq h
  obtain ⟨attempts, hnext⟩ := hx.follows.step hends
  have hopen := isOpen_concat hx.isOpen (s := ⟨q.operation, attempts, r⟩) hclose
  cases hclosed : x.1.projector.isClosed with
  | true =>
    exact ⟨⟨attempts, .of_closed hnext hopen hclosed (hx.intact.dropped hclosed)⟩, hclosed⟩
  | false => exact ⟨⟨attempts, .of_open hnext hopen⟩, hnext.isClosed_eq_false hopen⟩

/-- What is asked of a projector that is not closed reaches the row, and a close leaves it. -/
theorem Bears.ask_open (hx : Bears fetch w history j x)
    (hclosed : x.1.projector.isClosed = false) {op : Operation}
    (h : ((Request.ofProjector op).perform fetch).Ends x r y k) :
    (op = .close ∧ Bears fetch w history (j ++ k) y ∧ y.1.projector.isClosed = true) ∨
      (op ≠ .close ∧ y.1.projector.isClosed = false ∧
        ∃ attempts, Bears fetch w (history ++ [⟨op, attempts, r⟩]) (j ++ k) y) := by
  obtain ⟨v, hends, rfl⟩ := perform_ends_of_projector h
  have hfollows := hx.follows
  rw [bearer_of_open hclosed] at hfollows
  by_cases hop : op = .close
  · subst hop
    obtain ⟨rfl, rfl, rfl⟩ := (edit_ends (f := fun p => .ok p.close)).mp hends
    have hleft := Bears.of_closed (c := x.1) (p := x.1.projector.close) hfollows hx.isOpen rfl rfl
    rw [hx.intact.shared hclosed] at hleft
    rw [List.append_nil]
    exact Or.inl ⟨rfl, hleft, rfl⟩
  · obtain ⟨attempts, hnext⟩ := hfollows.step hends
    have hopen := isOpen_concat hx.isOpen (s := ⟨op, attempts, r⟩) hop
    exact Or.inr ⟨hop, hnext.isClosed_eq_false hopen, attempts, .of_open hnext hopen⟩

/-- What is asked of a closed projector does not reach the row. -/
theorem Bears.ask_closed (hx : Bears fetch w history j x)
    (hclosed : x.1.projector.isClosed = true) {op : Operation}
    (h : ((Request.ofProjector op).perform fetch).Ends x r y k) :
    Bears fetch w history (j ++ k) y ∧ y.1.projector.isClosed = true := by
  obtain ⟨v, hends, rfl⟩ := perform_ends_of_projector h
  obtain ⟨⟨hstill, hnone⟩, ⟨houtside, rfl⟩, -⟩ :=
    perform_closed hclosed (hx.intact.dropped hclosed) hends
  have hleft := Bears.of_closed (c := x.1) (p := v.1) hx.follows hx.isOpen hstill hnone
  rw [hx.intact.cells_bearer] at hleft
  rw [hnone, houtside, List.append_nil]
  exact ⟨hleft, hstill⟩

/-- Whatever is asked for, the history of the row goes on by what reaches the row. -/
theorem Bears.ask (hx : Bears fetch w history j x) (h : (q.perform fetch).Ends x r y k) :
    ∃ more, more.map (fun s => (s.op, s.result)) = reaching x.1.projector.isClosed [(q, r)] ∧
      Bears fetch w (history ++ more) (j ++ k) y ∧
      y.1.projector.isClosed = (x.1.projector.isClosed || q.isClose) := by
  cases q with
  | ofProjector op =>
    cases hclosed : x.1.projector.isClosed with
    | true =>
      obtain ⟨hleft, hstill⟩ := hx.ask_closed hclosed h
      exact ⟨[], rfl, by rwa [List.append_nil], hstill⟩
    | false =>
      rcases hx.ask_open hclosed h with ⟨rfl, hleft, hnow⟩ | ⟨hop, hstill, attempts, hnext⟩
      · exact ⟨[], rfl, by rwa [List.append_nil], hnow⟩
      · refine ⟨_, ?_, hnext, ?_⟩
        · simp [reaching, Request.isClose, Request.operation, hop]
        · simp [Request.isClose, hop, hstill]
  | _ =>
    obtain ⟨⟨attempts, hnext⟩, hstill⟩ := hx.ask_row rfl h
    exact ⟨_, rfl, hnext, by simp [Request.isClose, hstill]⟩

/-! ### All requests -/

/-- What one request does to the history of the row, all do one after the other. -/
theorem Runs.bears {requests : List (Request × Except Fault Reply)}
    (h : Runs fetch x requests k z) (hx : Bears fetch w history j x) :
    ∃ more, more.map (fun s => (s.op, s.result)) = reaching x.1.projector.isClosed requests ∧
      Bears fetch w (history ++ more) (j ++ k) z := by
  induction h generalizing history j with
  | done x => exact ⟨[], rfl, by rwa [List.append_nil, List.append_nil]⟩
  | ask hfirst _ ih =>
    obtain ⟨more, hmore, hy, hclosed⟩ := hx.ask hfirst
    obtain ⟨others, hothers, hz⟩ := ih hy
    refine ⟨more ++ others, ?_, by rwa [← List.append_assoc, ← List.append_assoc]⟩
    rw [List.map_append, hmore, hothers, hclosed]
    simp [reaching]

/-- **A row that is kept outlives the projector.** Somebody asks a projector, whatever was done with
it before, for its row and keeps that; then the row and the projector are asked for one thing after
the other, the projector perhaps to close. What reaches the row is what is asked of it, and what is
asked of the projector before the close; and this is a history of the row in which the row is there
to the end. So no value is fetched again that was fetched through either of the two, before the close
or after it, each reading shows the first value fetched for each of its places, and a reading of the
row that is kept fails only for an index out of range or with its last fetch. -/
theorem kept_row_outlives_close {steps : List (Operation × Except Fault Reply)}
    (h : Projector.Runs fetch ({}, w) steps j u) (hkept : ofProjector u.1 = .ok c)
    {requests : List (Request × Except Fault Reply)} (hrequests : Runs fetch (c, u.2) requests k z) :
    ∃ history, history.map (fun s => (s.op, s.result)) = steps ++ reaching false requests ∧
      FetchedOnce fetch w history (j ++ k) (z.1.bearer, z.2) ∧
      Projector.isOpen history = true ∧ z.1.bearer.cells = some z.1.row := by
  obtain ⟨before, hbefore, hfollows⟩ := h.follows
  obtain ⟨cells, hrow, rfl⟩ : ∃ cells, u.1.row = .ok cells ∧ c = ⟨u.1, cells⟩ := by
    unfold ofProjector at hkept
    cases hrow : u.1.row with
    | error fault =>
      rw [hrow] at hkept
      cases hkept
    | ok cells =>
      rw [hrow] at hkept
      exact ⟨cells, rfl, (Except.ok.inj hkept).symm⟩
  obtain ⟨hclosed, hcells⟩ := row_eq_ok_iff.mp hrow
  have hopen : Projector.isOpen before = true := by
    rw [← hfollows.isCommitted, isCommitted, hcells, Option.isSome_some]
  have hstart : Bears fetch w before j (⟨u.1, cells⟩, u.2) := by
    have hhas := Bears.of_open (c := ⟨u.1, cells⟩) hfollows hopen
    rwa [hcells] at hhas
  obtain ⟨more, hmore, hz⟩ := hrequests.bears hstart
  refine ⟨before ++ more, ?_, hz.follows.toFetchedOnce, hz.isOpen, hz.intact.cells_bearer⟩
  rw [List.map_append, hbefore, hmore, hclosed]

/-- The row is kept, the projector closed, and the value fetched after that. -/
example :
    ((do
      let _ ← (Request.ofProjector .close).perform fetchCounting
      Custody.readAt fetchCounting 0).run
        ({ projector :=
             { columns := [numericColumn "a" 1], cells := some [⟨numericColumn "a" 1, none⟩] }
           row := [⟨numericColumn "a" 1, none⟩] }, 1)).result = .ok (.int 1) := rfl

/-- A closed projector refuses every reading, and nothing is fetched by that. -/
theorem reading_refused_after_close (hclosed : x.1.projector.isClosed = true) (hx : x.1.Intact)
    {op : Operation} (hop : op.isReading = true)
    (h : ((Request.ofProjector op).perform fetch).Ends x r y k) :
    r = .error (misuse "Result is closed") ∧ y.2 = x.2 ∧ k = [] := by
  obtain ⟨v, hends, rfl⟩ := perform_ends_of_projector h
  obtain ⟨-, ⟨houtside, hk⟩, hrefused⟩ := perform_closed hclosed (hx.dropped hclosed) hends
  exact ⟨hrefused hop, houtside, hk⟩

end

end Custody

end ProcedureCall
