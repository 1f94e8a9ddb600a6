import ProcedureCall.Proofs.Projection.Fetches

/-!
# What a row shows in the course of time

A history of the row of output values is told with the fetches that each operation attempted.
`FetchedOnce` says what such a history comes to: which fetches the outside saw, what the row holds,
and of every operation when it fetches, for which places, and what it shows. It is kept by each
operation (`Follows.step`), so it holds of every history that begins with an empty projector
(`fetched_once_and_kept`).
-/

namespace ProcedureCall

open ProcedureCall.Action

namespace Projector

/-! ### What an operation reads -/

/-- The places that an operation reads in a row of some length. -/
def Operation.places (length : Nat) : Operation → List Nat
  | .readAt index => (placeOf? length index).toList
  | .readRow | .readNamed | .fetchOne | .fetchAll | .projectedResult => List.range length
  | _ => []

/-- The operation reads at an index that is out of range. -/
def Operation.Misses (length : Nat) (op : Operation) : Prop :=
  ∃ index, op = .readAt index ∧ placeOf? length index = none

/-- What the reply to an operation shows of a row is what is known of its places: one value, or the
whole row in the form that was asked for. -/
def Reply.Shows (columns : List OutputColumn) (known : Nat → Option Value) :
    Operation → Reply → Prop
  | .readAt index, .value shown =>
    ∃ place, placeOf? columns.length index = some place ∧ known place = some shown
  | .readRow, .row values => IsRow columns.length known values
  | .readNamed, .named pairs =>
    ∃ values, IsRow columns.length known values ∧
      pairs = Entries.ofPairs ((columns.map (·.name)).zip values)
  | .fetchOne, .handed values? => ∀ values ∈ values?, IsRow columns.length known values
  | .fetchAll, .rows lists => ∀ values ∈ lists, IsRow columns.length known values
  | .projectedResult, .result shown =>
    ∃ values, IsRow columns.length known values ∧
      shown = ⟨columns.map fun column => ⟨column.name, column.dataType.name⟩, [values], 1, "CALL"⟩
  | .addColumn _, .done | .addColumns _, .done | .addRow, .done | .close, .done => True
  | _, _ => False

/-- The row is handed out by the operation, unless it was before. -/
def Operation.isHanding : Operation → Bool
  | .fetchOne | .fetchAll => true
  | _ => false

/-- The row is there but not handed out. -/
def Reply.isWithheld : Reply → Bool
  | .handed none | .rows [] => true
  | _ => false

section

variable {σ ε : Type} {fetch : Fetch σ ε} {u v : Projector × σ} {cells : List Cell} {j : List ε}

theorem lt_of_placeOf?_eq_some {length place : Nat} {index : Int}
    (h : placeOf? length index = some place) : place < length := by
  unfold placeOf? at h
  grind

/-- A reading of a row that is not there is refused. -/
theorem perform_refused {fault : Fault} {op : Operation} (hop : op.isReading = true)
    (hrow : u.1.row = .error fault) : (op.perform fetch).Fails u fault u [] := by
  cases op with
  | readAt index => exact fails_map.mpr (fails_of_row hrow)
  | readRow => exact fails_map.mpr (fails_of_row hrow)
  | readNamed => exact fails_map.mpr (fails_of_row hrow)
  | fetchOne => exact fails_map.mpr (fails_of_row hrow)
  | fetchAll => exact fails_map.mpr (fails_map.mpr (fails_of_row hrow))
  | projectedResult => exact fails_map.mpr (fails_of_row hrow)
  | addColumn column => cases hop
  | addColumns columns => cases hop
  | addRow => cases hop
  | close => cases hop

theorem readAt_ends {index : Int} {r : Except Fault Value} (hrow : u.1.row = .ok cells)
    (h : (readAt fetch index).Ends u r v j) :
    (placeOf? cells.length index = none ∧ (∃ fault, r = .error fault) ∧ v = u ∧ j = []) ∨
      ReadsTo fetch (placeOf? cells.length index).toList
        (fun value cells' => ∃ place, placeOf? cells.length index = some place ∧
          keptAt cells' place = some value) cells u r v j := by
  have hrest := ends_of_row hrow h
  cases hplace : placeOf? cells.length index with
  | none =>
    rw [hplace] at hrest
    obtain ⟨rfl, rfl, rfl⟩ := Ends.unique hrest (fails_fail.mpr ⟨rfl, rfl, rfl⟩)
    exact Or.inl ⟨rfl, ⟨_, rfl⟩, rfl, rfl⟩
  | some place =>
    rw [hplace] at hrest
    have hreads := readCell_ends hrow (lt_of_placeOf?_eq_some hplace) hrest
    obtain ⟨attempts, cells', hcells, hvalue, hfault⟩ := hreads
    refine Or.inr ⟨attempts, cells', hcells, fun value hr => ?_, hfault⟩
    obtain ⟨hshown, hsucceed⟩ := hvalue value hr
    exact ⟨⟨place, rfl, hshown⟩, hsucceed⟩

theorem readNamed_ends {r : Except Fault (List (String × Value))} (hrow : u.1.row = .ok cells)
    (h : (readNamed fetch).Ends u r v j) :
    ReadsTo fetch (List.range cells.length)
      (fun pairs cells' => ∃ values, IsRow cells.length (keptAt cells') values ∧
        pairs = Entries.ofPairs ((cells.map fun c => c.column.name).zip values)) cells u r v j := by
  obtain ⟨result, hends, rfl⟩ := ends_map.mp (ends_of_row hrow h)
  exact (readRow_ends hrow hends).map fun values _ _ hvalues => ⟨values, hvalues, rfl⟩

theorem projectedResult_ends {r : Except Fault QueryResult} (hrow : u.1.row = .ok cells)
    (h : (projectedResult fetch).Ends u r v j) :
    ReadsTo fetch (List.range cells.length)
      (fun result cells' => ∃ values, IsRow cells.length (keptAt cells') values ∧
        result = ⟨cells.map fun c => ⟨c.column.name, c.column.dataType.name⟩, [values], 1, "CALL"⟩)
      cells u r v j := by
  obtain ⟨result, hends, rfl⟩ := ends_map.mp (ends_of_row hrow h)
  exact (readRow_ends hrow hends).map fun values _ _ hvalues => ⟨values, hvalues, rfl⟩

/-- Only who asks to be handed the row marks it as read. -/
theorem isRead_of_reading {op : Operation} (hop : op.isReading = true)
    (hhanding : op.isHanding = false) :
    Does (fun u _ v => v.1.isRead = u.1.isRead) (op.perform fetch) := by
  have hP : Chains fun (u : Projector × σ) (_ : List ε) v => v.1.isRead = u.1.isRead :=
    ⟨fun _ => rfl, fun h₁ h₂ => h₂.trans h₁⟩
  have hfetch : ∀ ordinal, Does (fun (u : Projector × σ) _ v => v.1.isRead = u.1.isRead)
      ((fetch ordinal).within (·.2) fun outside w => (w.1, outside)) := fun _ =>
    Does.within (P := fun _ _ _ => True) (fun _ _ _ _ _ => trivial) fun _ _ _ _ => rfl
  have hremember : ∀ (w : Projector × σ) place value,
      (w.1.remember place value).isRead = w.1.isRead := fun _ _ _ => rfl
  cases op with
  | readAt index => exact (does_readAt hP hfetch hremember index).map hP
  | readRow => exact (does_readRow hP hfetch hremember).map hP
  | readNamed =>
    exact Does.map hP ((does_world hP).bind hP fun _ => (does_ofExcept hP _).bind hP fun _ =>
      (does_readRow hP hfetch hremember).bind hP fun _ => does_pure hP _)
  | projectedResult => exact (does_projectedResult hP hfetch hremember).map hP
  | fetchOne => cases hhanding
  | fetchAll => cases hhanding
  | addColumn column => cases hop
  | addColumns columns => cases hop
  | addRow => cases hop
  | close => cases hop

/-- The row is withheld if it was to be handed out before. Else it is marked as handed out, and then
read. -/
theorem fetchOne_cases {r : Except Fault (Option (List Value))} (hrow : u.1.row = .ok cells)
    (h : (fetchOne fetch).Ends u r v j) :
    (u.1.isRead = true ∧ r = .ok none ∧ v = u ∧ j = []) ∨
      (u.1.isRead = false ∧ v.1.isRead = true ∧
        ReadsTo fetch (List.range cells.length)
          (fun values? cells' =>
            ∃ values, values? = some values ∧ IsRow cells.length (keptAt cells') values)
          cells u r v j) := by
  have hrest := ends_of_row hrow h
  dsimp only at hrest
  split at hrest
  case isTrue hread => exact Or.inl ⟨hread, Ends.unique hrest (pure_gives none u)⟩
  case isFalse hunread =>
    obtain ⟨j, hmap, rfl⟩ := (Gives.ends_bind (change_gives _ u)).mp hrest
    obtain ⟨result, hends, rfl⟩ := ends_map.mp hmap
    have hsame : ({ u.1 with isRead := true } : Projector).row = .ok cells := hrow
    have hperformed : (Operation.readRow.perform fetch).Ends ({ u.1 with isRead := true }, u.2)
        (result.map .row) v j := ends_map.mpr ⟨result, hends, rfl⟩
    have hmarked : v.1.isRead = true := isRead_of_reading rfl rfl _ _ _ _ hperformed
    have hreads : ReadsTo fetch (List.range cells.length)
        (fun values? cells' =>
          ∃ values, values? = some values ∧ IsRow cells.length (keptAt cells') values)
        cells ({ u.1 with isRead := true }, u.2) (result.map some) v j :=
      (readRow_ends (u := ({ u.1 with isRead := true }, u.2)) hsame hends).map
        fun values _ _ hvalues => ⟨values, rfl, hvalues⟩
    obtain ⟨attempts, cells', ⟨hfills, hplaces, hkeeps, hcolumns⟩, hshown⟩ := hreads
    exact Or.inr ⟨Bool.eq_false_iff.mpr hunread, hmarked, attempts, cells',
      ⟨hfills, hplaces, hkeeps, hcolumns⟩, hshown⟩

/-- The row is read when it is handed out for the first time. -/
theorem fetchOne_ends {r : Except Fault (Option (List Value))} (hrow : u.1.row = .ok cells)
    (h : (fetchOne fetch).Ends u r v j) :
    ReadsTo fetch (List.range cells.length)
      (fun values? cells' => (∀ values ∈ values?, IsRow cells.length (keptAt cells') values) ∧
        (values? = none → u.1.isRead = true))
      cells u r v j := by
  rcases fetchOne_cases hrow h with
    ⟨hread, rfl, rfl, rfl⟩ | ⟨-, -, attempts, cells', hreads, hshown, hfault⟩
  · exact ⟨[], cells, .refl hrow _, by simp [hread, Succeed], by simp⟩
  · refine ⟨attempts, cells', hreads, fun values? hr => ?_, hfault⟩
    obtain ⟨⟨values, rfl, hvalues⟩, hsucceed⟩ := hshown values? hr
    exact ⟨⟨by simpa using hvalues, by simp⟩, hsucceed⟩

/-- A reading of a row that is there misses it, or reads it. -/
theorem perform_reads {op : Operation} {r : Except Fault Reply} (hop : op.isReading = true)
    (hrow : u.1.row = .ok cells) (h : (op.perform fetch).Ends u r v j) :
    (op.Misses cells.length ∧ (∃ fault, r = .error fault) ∧ v = u ∧ j = []) ∨
      ReadsTo fetch (op.places cells.length)
        (fun reply cells' => reply.Shows (cells.map (·.column)) (keptAt cells') op ∧
          (reply.isWithheld = true → u.1.isRead = true))
        cells u r v j := by
  cases op with
  | readAt index =>
    obtain ⟨result, hends, rfl⟩ := ends_map.mp h
    rcases readAt_ends hrow hends with ⟨hmiss, ⟨fault, rfl⟩, rfl, rfl⟩ | hreads
    · exact Or.inl ⟨⟨index, rfl, hmiss⟩, ⟨fault, rfl⟩, rfl, rfl⟩
    · exact Or.inr (hreads.map fun value cells' _ hvalue => by
        simpa [Reply.Shows, Reply.isWithheld] using hvalue)
  | readRow =>
    obtain ⟨result, hends, rfl⟩ := ends_map.mp h
    exact Or.inr ((readRow_ends hrow hends).map fun values cells' _ hvalues => by
      simpa [Reply.Shows, Reply.isWithheld] using hvalues)
  | readNamed =>
    obtain ⟨result, hends, rfl⟩ := ends_map.mp h
    exact Or.inr ((readNamed_ends hrow hends).map fun pairs cells' _ hpairs => by
      simpa [Reply.Shows, Reply.isWithheld, Function.comp_def] using hpairs)
  | fetchOne =>
    obtain ⟨result, hends, rfl⟩ := ends_map.mp h
    refine Or.inr ((fetchOne_ends hrow hends).map fun values? cells' _ hvalues => ?_)
    refine ⟨by simpa [Reply.Shows] using hvalues.1, fun hwithheld => hvalues.2 ?_⟩
    cases values? with
    | none => rfl
    | some values => cases hwithheld
  | fetchAll =>
    obtain ⟨result, hends, rfl⟩ := ends_map.mp h
    obtain ⟨handed, hone, rfl⟩ := ends_map.mp
      (show (Option.toList <$> ProcedureCall.fetchOne fetch).Ends u result v j from hends)
    have hlists : ReadsTo fetch (List.range cells.length)
        (fun lists cells' => (∀ values ∈ lists, IsRow cells.length (keptAt cells') values) ∧
          (lists = [] → u.1.isRead = true))
        cells u (handed.map Option.toList) v j :=
      (fetchOne_ends hrow hone).map fun values? _ _ hvalues => by simpa using hvalues
    refine Or.inr (hlists.map fun lists cells' _ hvalues => ?_)
    refine ⟨by simpa [Reply.Shows] using hvalues.1, fun hwithheld => hvalues.2 ?_⟩
    cases lists with
    | nil => rfl
    | cons values lists => cases hwithheld
  | projectedResult =>
    obtain ⟨result, hends, rfl⟩ := ends_map.mp h
    exact Or.inr ((projectedResult_ends hrow hends).map fun shown cells' _ hshown => by
      simpa [Reply.Shows, Reply.isWithheld, Function.comp_def] using hshown)
  | addColumn column => cases hop
  | addColumns columns => cases hop
  | addRow => cases hop
  | close => cases hop

end

/-! ### Histories -/

/-- An operation that was done, with the fetches that it attempted and its result. -/
structure Step where
  /-- The operation. -/
  op : Operation
  /-- The fetches, in order. -/
  attempts : List Attempt
  /-- The reply, or why there is none. -/
  result : Except Fault Reply

/-- The columns that a history has added. -/
def columnsOf (history : List Step) : List OutputColumn :=
  history.flatMap fun s => if s.result.toBool then s.op.newColumns else []

/-- All fetches of a history, in order. -/
def attemptsOf (history : List Step) : List Attempt := history.flatMap (·.attempts)

/-- Was the row committed? -/
def hasCommitted (history : List Step) : Bool :=
  history.any fun s => s.op = .addRow && s.result.toBool

/-- Was the row closed? -/
def hasClosed (history : List Step) : Bool := history.any (·.op = .close)

/-- The row is there from the commit to the close. -/
def isOpen (history : List Step) : Bool := hasCommitted history && !hasClosed history

@[simp] theorem columnsOf_append (before after : List Step) :
    columnsOf (before ++ after) = columnsOf before ++ columnsOf after := List.flatMap_append

@[simp] theorem attemptsOf_append (before after : List Step) :
    attemptsOf (before ++ after) = attemptsOf before ++ attemptsOf after := List.flatMap_append

@[simp] theorem attemptsOf_singleton (s : Step) : attemptsOf [s] = s.attempts :=
  List.append_nil s.attempts

@[simp] theorem columnsOf_singleton (s : Step) :
    columnsOf [s] = if s.result.toBool then s.op.newColumns else [] :=
  List.append_nil _

@[simp] theorem hasCommitted_append (before after : List Step) :
    hasCommitted (before ++ after) = (hasCommitted before || hasCommitted after) :=
  List.any_append

@[simp] theorem hasCommitted_singleton (s : Step) :
    hasCommitted [s] = (s.op = .addRow && s.result.toBool) := Bool.or_false _

@[simp] theorem hasClosed_append (before after : List Step) :
    hasClosed (before ++ after) = (hasClosed before || hasClosed after) := List.any_append

@[simp] theorem hasClosed_singleton (s : Step) : hasClosed [s] = decide (s.op = .close) :=
  Bool.or_false _

/-- What a step may do after a history. -/
structure Step.Lawful (before : List Step) (s : Step) : Prop where
  /-- Unless the row is there, nothing is fetched. -/
  unfetched : isOpen before = false → s.attempts = []
  /-- Unless the row is there, it is not read. -/
  refused : isOpen before = false → s.op.isReading = true → ∃ fault, s.result = .error fault
  /-- Nothing is fetched but for the places that the operation reads. -/
  places : ∀ a ∈ s.attempts, a.place ∈ s.op.places (columnsOf before).length
  /-- What is shown of a place is the first value that was fetched for it. -/
  shows : ∀ reply, s.result = .ok reply →
    reply.Shows (columnsOf before) (fetched (attemptsOf before ++ s.attempts)) s.op
  /-- A reading of a row that is there fails because the index is out of range, or with the fetch
  that was attempted last. -/
  fails : ∀ fault, s.result = .error fault → isOpen before = true → s.op.isReading = true →
    s.op.Misses (columnsOf before).length ∨ FailsLast s.attempts fault
  /-- The row is withheld only if it was to be handed out before. -/
  withheld : ∀ reply, s.result = .ok reply → reply.isWithheld = true →
    ∃ earlier ∈ before, earlier.op.isHanding = true

section

variable {σ ε : Type} {fetch : Fetch σ ε} {u v : Projector × σ} {w : σ} {j k : List ε}
  {history : List Step} {s : Step}

/-- Each value is fetched once, and kept: what a history has done outside and what it has left in
the row. -/
structure FetchedOnce (fetch : Fetch σ ε) (w : σ) (history : List Step) (j : List ε)
    (u : Projector × σ) : Prop where
  /-- Outside, the attempts were made and nothing else was done. -/
  outside : Fetches fetch u.1.columns w (attemptsOf history) j u.2
  /-- Of two attempts for one place the earlier one failed. -/
  once : (attemptsOf history).Pairwise fun a b =>
    a.place = b.place → ∃ fault, a.result = .error fault
  /-- While the row is there, it holds for each column what was fetched. -/
  kept : isOpen history = true → ∃ cells, u.1.cells = some cells ∧
    cells.map (·.column) = u.1.columns ∧
    ∀ place, keptAt cells place = fetched (attemptsOf history) place
  /-- Otherwise there is no row. -/
  dropped : isOpen history = false → u.1.cells = none
  /-- Each operation did what it may do after those before it. -/
  lawful : ∀ before s, before ++ [s] <+: history → s.Lawful before

/-- A history that began with an empty projector, with what it comes to and what is needed to go
on. -/
structure Follows (fetch : Fetch σ ε) (w : σ) (history : List Step) (j : List ε)
    (u : Projector × σ) : Prop extends FetchedOnce fetch w history j u where
  /-- The columns are those that were added. -/
  columns : u.1.columns = columnsOf history
  /-- The projector is closed if it was asked to. -/
  isClosed : u.1.isClosed = hasClosed history
  /-- Before the commit nothing was fetched. -/
  early : hasCommitted history = false → attemptsOf history = []
  /-- The row is marked as read only if it was to be handed out. -/
  isRead : u.1.isRead = true → ∃ s ∈ history, s.op.isHanding = true

theorem Follows.start (fetch : Fetch σ ε) (w : σ) : Follows fetch w [] [] ({}, w) where
  outside := .nil w
  once := .nil
  kept h := by cases h
  dropped _ := rfl
  lawful before s h := by simpa using h.length_le
  columns := rfl
  isClosed := rfl
  early _ := rfl
  isRead h := by cases h

/-- A history goes on with a lawful step if it fetches only for what is missing, and if the columns,
the row and its state are afterwards as they should be. -/
theorem Follows.concat (h : Follows fetch w history j u) (hs : s.Lawful history)
    (houtside : Fetches fetch v.1.columns u.2 s.attempts k v.2)
    (honce : s.attempts.Pairwise fun a b => a.place = b.place → ∃ fault, a.result = .error fault)
    (hmissing : ∀ a ∈ s.attempts, fetched (attemptsOf history) a.place = none)
    (hcolumns : v.1.columns = u.1.columns ++ columnsOf [s])
    (hclosed : v.1.isClosed = (u.1.isClosed || hasClosed [s]))
    (hread : v.1.isRead = true → u.1.isRead = true ∨ s.op.isHanding = true)
    (hkept : isOpen (history ++ [s]) = true → ∃ cells, v.1.cells = some cells ∧
      cells.map (·.column) = v.1.columns ∧
      ∀ place, keptAt cells place = fetched (attemptsOf history ++ s.attempts) place)
    (hdropped : isOpen (history ++ [s]) = false → v.1.cells = none) :
    Follows fetch w (history ++ [s]) (j ++ k) v where
  outside := by
    rw [attemptsOf_append, attemptsOf_singleton]
    exact (hcolumns ▸ h.outside.append_columns (columnsOf [s])).append houtside
  once := by
    rw [attemptsOf_append, attemptsOf_singleton, List.pairwise_append]
    exact ⟨h.once, honce, fun a ha b hb hplace =>
      fetched_eq_none_iff.mp (hmissing b hb) a ha hplace⟩
  kept := by simpa using hkept
  dropped := hdropped
  lawful before s' hprefix := by
    rcases List.prefix_concat_iff.mp hprefix with heq | hprefix
    · obtain ⟨rfl, hlast⟩ := List.append_inj' heq rfl
      obtain rfl := List.singleton_inj.mp hlast
      exact hs
    · exact h.lawful before s' hprefix
  columns := by rw [hcolumns, h.columns, columnsOf_append]
  isClosed := by rw [hclosed, h.isClosed, hasClosed_append]
  early hnot := by
    rw [hasCommitted_append, Bool.or_eq_false_iff] at hnot
    have hunfetched : s.attempts = [] := hs.unfetched (by simp [isOpen, hnot.1])
    rw [attemptsOf_append, attemptsOf_singleton, h.early hnot.1, hunfetched, List.append_nil]
  isRead hmarked := by
    rcases hread hmarked with hbefore | hnow
    · obtain ⟨earlier, hearlier, hhanding⟩ := h.isRead hbefore
      exact ⟨earlier, List.mem_append_left [s] hearlier, hhanding⟩
    · exact ⟨s, by simp, hnow⟩

/-- The same for a step that fetches nothing. -/
theorem Follows.concat_unfetched (h : Follows fetch w history j u) {op : Operation}
    {r : Except Fault Reply} {p : Projector} (hs : Step.Lawful history ⟨op, [], r⟩)
    (hcolumns : p.columns = u.1.columns ++ columnsOf [⟨op, [], r⟩])
    (hclosed : p.isClosed = (u.1.isClosed || hasClosed [⟨op, [], r⟩]))
    (hread : p.isRead = u.1.isRead)
    (hkept : isOpen (history ++ [⟨op, [], r⟩]) = true → ∃ cells, p.cells = some cells ∧
      cells.map (·.column) = p.columns ∧
      ∀ place, keptAt cells place = fetched (attemptsOf history) place)
    (hdropped : isOpen (history ++ [⟨op, [], r⟩]) = false → p.cells = none) :
    Follows fetch w (history ++ [⟨op, [], r⟩]) j (p, u.2) := by
  rw [← List.append_nil j]
  exact h.concat (v := (p, u.2)) hs (.nil u.2) .nil (by simp) hcolumns hclosed
    (fun hmarked => Or.inl (hread ▸ hmarked)) (by simpa using hkept) hdropped

theorem Follows.isCommitted (h : Follows fetch w history j u) :
    u.1.isCommitted = isOpen history := by
  unfold Projector.isCommitted
  cases hopen : isOpen history with
  | false => rw [h.dropped hopen, Option.isSome_none]
  | true =>
    obtain ⟨cells, hcells, -⟩ := h.kept hopen
    rw [hcells, Option.isSome_some]

/-- A projector whose row is there is not closed. -/
theorem Follows.isClosed_eq_false (h : Follows fetch w history j u)
    (hopen : isOpen history = true) : u.1.isClosed = false := by
  simp only [isOpen, Bool.and_eq_true, Bool.not_eq_true'] at hopen
  exact h.isClosed.trans hopen.2

/-- An operation that fails without an attempt changes nothing. -/
theorem Follows.refuse (h : Follows fetch w history j u) {op : Operation} {fault : Fault}
    (hclose : op ≠ .close) (hmiss : isOpen history = true → op.isReading = true →
      op.Misses (columnsOf history).length) :
    Follows fetch w (history ++ [⟨op, [], .error fault⟩]) j u := by
  have hopen : isOpen (history ++ [⟨op, [], .error fault⟩]) = isOpen history := by
    simp [isOpen, hclose, Except.toBool]
  have hlawful : Step.Lawful history ⟨op, [], .error fault⟩ :=
    ⟨fun _ => rfl, fun _ _ => ⟨fault, rfl⟩, by simp, fun _ hr => (by cases hr),
      fun _ _ hisOpen hop => Or.inl (hmiss hisOpen hop), fun _ hr => by cases hr⟩
  exact h.concat_unfetched hlawful (by simp [Except.toBool]) (by simp [hclose]) rfl
    (fun hisOpen => h.kept (hopen ▸ hisOpen)) (fun hisOpen => h.dropped (hopen ▸ hisOpen))

/-- A reading of a row that is there fills some of it. -/
theorem Follows.read (h : Follows fetch w history j u) {op : Operation} {r : Except Fault Reply}
    (hop : op.isReading = true) (hopen : isOpen history = true)
    (hends : (op.perform fetch).Ends u r v k) :
    ∃ attempts, Follows fetch w (history ++ [⟨op, attempts, r⟩]) (j ++ k) v := by
  obtain ⟨cells, hcells, hmap, hkept⟩ := h.kept hopen
  have hclosed := h.isClosed_eq_false hopen
  have hlength : cells.length = (columnsOf history).length := by
    rw [← h.columns, ← hmap, List.length_map]
  have hclose : op ≠ .close := fun h => by simp [h, Operation.isReading] at hop
  rcases perform_reads hop (row_eq_ok_iff.mpr ⟨hclosed, hcells⟩) hends with
    ⟨hmiss, ⟨fault, rfl⟩, rfl, rfl⟩ | ⟨attempts, cells', hreads, hshows, hfails⟩
  · rw [List.append_nil]
    exact ⟨[], h.refuse hclose fun _ _ => hlength ▸ hmiss⟩
  · obtain ⟨hstillOpen, hstill⟩ := row_eq_ok_iff.mp hreads.row
    have hknown : ∀ place, keptAt cells' place =
        fetched (attemptsOf history ++ attempts) place := fun place => by
      rw [hreads.fills.keptAt, hkept, fetched_append]
    have hlawful : Step.Lawful history ⟨op, attempts, r⟩ := by
      refine ⟨fun hnot => absurd hopen (by simp [hnot]), fun hnot => absurd hopen (by simp [hnot]),
        hlength ▸ hreads.places, fun reply hr => ?_, fun fault hr _ _ => Or.inr (hfails fault hr),
        fun reply hr hwithheld => h.isRead ((hshows reply hr).1.2 hwithheld)⟩
      have hshown := (hshows reply hr).1.1
      rwa [hmap, h.columns, funext hknown] at hshown
    have hfetches := hreads.fills.fetches
    rw [hmap, ← hreads.columns] at hfetches
    -- A place that is fetched for holds nothing, so nothing was fetched for it before.
    refine ⟨attempts, h.concat hlawful hfetches hreads.fills.pairwise
      (fun a ha => by rw [← hkept, hreads.fills.keptAt_eq_none a ha]) ?_ ?_ ?_ ?_ ?_⟩
    · simp [newColumns_of_isReading hop, hreads.columns]
    · simp [hclosed, hclose, hstillOpen]
    · intro hmarked
      cases hhanding : op.isHanding with
      | true => exact Or.inr rfl
      | false =>
        exact Or.inl ((isRead_of_reading hop hhanding _ _ _ _ hends).symm.trans hmarked)
    · exact fun _ => ⟨cells', hstill, by rw [hreads.fills.map_column, hmap, hreads.columns], hknown⟩
    · intro hnot
      simp only [isOpen, Bool.and_eq_true, Bool.not_eq_true'] at hopen
      simp [isOpen, hopen, hclose] at hnot

/-- Columns are taken into a row in the making. While there is a row, none are. -/
theorem Follows.take (h : Follows fetch w history j u) {op : Operation}
    (hop : (∃ column, op = .addColumn column) ∨ ∃ columns, op = .addColumns columns)
    (hnone : isOpen history = true → op.newColumns = []) :
    Follows fetch w (history ++ [⟨op, [], .ok .done⟩]) j
      ({ u.1 with columns := u.1.columns ++ op.newColumns }, u.2) := by
  have hcommit : op ≠ .addRow := by rcases hop with ⟨_, rfl⟩ | ⟨_, rfl⟩ <;> simp
  have hclose : op ≠ .close := by rcases hop with ⟨_, rfl⟩ | ⟨_, rfl⟩ <;> simp
  have hopen : isOpen (history ++ [⟨op, [], .ok .done⟩]) = isOpen history := by
    simp [isOpen, hcommit, hclose]
  have hlawful : Step.Lawful history ⟨op, [], .ok .done⟩ := by
    refine ⟨fun _ => rfl, fun _ hreading => ?_, by simp, fun reply hr => ?_,
      fun _ hr => (by cases hr), fun _ hr hwithheld => by cases hr; cases hwithheld⟩
    · rcases hop with ⟨column, rfl⟩ | ⟨columns, rfl⟩ <;> cases hreading
    · cases hr
      rcases hop with ⟨column, rfl⟩ | ⟨columns, rfl⟩ <;> trivial
  refine h.concat_unfetched hlawful (by simp [Except.toBool]) (by simp [hclose]) rfl ?_
    fun hisOpen => h.dropped (hopen ▸ hisOpen)
  intro hisOpen
  rw [hopen] at hisOpen
  simpa [hnone hisOpen] using h.kept hisOpen

/-- The row is committed, with nothing in it. -/
theorem Follows.commit (h : Follows fetch w history j u) (hclosed : hasClosed history = false)
    (hcommitted : hasCommitted history = false) :
    Follows fetch w (history ++ [⟨.addRow, [], .ok .done⟩]) j
      ({ u.1 with cells := some (u.1.columns.map fun column => ⟨column, none⟩) }, u.2) := by
  have hlawful : Step.Lawful history ⟨.addRow, [], .ok .done⟩ :=
    ⟨fun _ => rfl, fun _ hreading => (by cases hreading), by simp,
      fun _ hr => (by cases hr; trivial), fun _ hr => (by cases hr),
      fun _ hr hwithheld => by cases hr; cases hwithheld⟩
  refine h.concat_unfetched hlawful (by simp [Operation.newColumns]) (by simp) rfl ?_ ?_
  · refine fun _ => ⟨_, rfl, by simp [Function.comp_def], fun place => ?_⟩
    simp only [h.early hcommitted, keptAt, List.getElem?_map, fetched, List.findSome?_nil]
    cases u.1.columns[place]? <;> rfl
  · simp [isOpen, hclosed, Except.toBool]

/-- The row is dropped. -/
theorem Follows.close (h : Follows fetch w history j u) :
    Follows fetch w (history ++ [⟨.close, [], .ok .done⟩]) j (u.1.close, u.2) := by
  have hlawful : Step.Lawful history ⟨.close, [], .ok .done⟩ :=
    ⟨fun _ => rfl, fun _ hreading => (by cases hreading), by simp,
      fun _ hr => (by cases hr; trivial), fun _ hr => (by cases hr),
      fun _ hr hwithheld => by cases hr; cases hwithheld⟩
  refine h.concat_unfetched hlawful (by simp [Projector.close, Operation.newColumns])
    (by simp [Projector.close]) rfl ?_ fun _ => rfl
  simp [isOpen]

/-- Adding columns, the commit and the close fetch nothing. -/
theorem Follows.edit (h : Follows fetch w history j u) {op : Operation} {r : Except Fault Reply}
    (hop : op.isReading = false) (hends : (op.perform fetch).Ends u r v k) :
    k = [] ∧ Follows fetch w (history ++ [⟨op, [], r⟩]) j v := by
  have hmiss : isOpen history = true → op.isReading = true →
      op.Misses (columnsOf history).length := fun _ hreading => absurd hop (by simp [hreading])
  cases op with
  | addColumn column =>
    obtain ⟨⟨-, rfl, rfl⟩ | ⟨huncommitted, rfl, rfl⟩, rfl⟩ := addColumn_ends.mp hends
    · exact ⟨rfl, h.refuse (by simp) hmiss⟩
    · rw [h.isCommitted] at huncommitted
      exact ⟨rfl, h.take (Or.inl ⟨column, rfl⟩) (by simp [huncommitted])⟩
  | addColumns columns =>
    obtain ⟨rfl, rfl, rfl⟩ := (edit_ends (f := fun p => p.addColumns columns)).mp hends
    refine ⟨rfl, ?_⟩
    cases hcommitted : u.1.isCommitted with
    | false =>
      rw [addColumns_eq hcommitted]
      rw [h.isCommitted] at hcommitted
      exact h.take (Or.inr ⟨columns, rfl⟩) (by simp [hcommitted])
    | true =>
      cases columns with
      | nil =>
        have htaken := h.take (Or.inr ⟨[], rfl⟩) fun _ => rfl
        rwa [show (Operation.addColumns []).newColumns = [] from rfl, List.append_nil] at htaken
      | cons column columns =>
        have hrefused : u.1.addColumns (column :: columns) =
            .error (misuse "Cannot add columns after the row is committed") := by
          simp [Projector.addColumns, addColumn, hcommitted, Except.bind]
        rw [hrefused]
        exact h.refuse (by simp) hmiss
  | addRow =>
    obtain ⟨rfl, rfl, rfl⟩ := (edit_ends (f := fun p => p.addRow)).mp hends
    refine ⟨rfl, ?_⟩
    unfold Projector.addRow
    split
    case isTrue => exact h.refuse (by simp) hmiss
    case isFalse hnotClosed =>
      split
      case isTrue => exact h.refuse (by simp) hmiss
      case isFalse huncommitted =>
        rw [h.isClosed, Bool.not_eq_true] at hnotClosed
        rw [h.isCommitted] at huncommitted
        exact h.commit hnotClosed (by simpa [isOpen, hnotClosed] using huncommitted)
  | close =>
    obtain ⟨rfl, rfl, rfl⟩ := (edit_ends (f := fun p => .ok p.close)).mp hends
    exact ⟨rfl, h.close⟩
  | _ => cases hop

/-- Every operation lets a history go on. -/
theorem Follows.step (h : Follows fetch w history j u) {op : Operation} {r : Except Fault Reply}
    (hends : (op.perform fetch).Ends u r v k) :
    ∃ attempts, Follows fetch w (history ++ [⟨op, attempts, r⟩]) (j ++ k) v := by
  cases hreading : op.isReading with
  | false =>
    obtain ⟨rfl, hedited⟩ := h.edit hreading hends
    exact ⟨[], by rwa [List.append_nil]⟩
  | true =>
    cases hopen : isOpen history with
    | true => exact h.read hreading hopen hends
    | false =>
      obtain ⟨fault, hrow⟩ : ∃ fault, u.1.row = .error fault := by
        unfold row
        rw [h.dropped hopen]
        split <;> exact ⟨_, rfl⟩
      obtain ⟨rfl, rfl, rfl⟩ := Ends.unique hends (perform_refused hreading hrow)
      refine ⟨[], ?_⟩
      rw [List.append_nil]
      refine h.refuse ?_ fun hisOpen => absurd hopen (by simp [hisOpen])
      rintro rfl
      cases hreading

theorem Runs.follows {steps : List (Operation × Except Fault Reply)}
    (h : Runs fetch ({}, w) steps j u) :
    ∃ history, history.map (fun s => (s.op, s.result)) = steps ∧ Follows fetch w history j u := by
  induction h with
  | start => exact ⟨[], rfl, .start fetch w⟩
  | step _ hop ih =>
    obtain ⟨history, rfl, hfollows⟩ := ih
    obtain ⟨attempts, hnext⟩ := hfollows.step hop
    exact ⟨_, List.map_append, hnext⟩

/-- **Each value is fetched once, and kept.** Whatever is done with a row of output values, from its
first column on, and whatever comes of the fetches: the operations can be told with the fetches that
each of them attempted so that nothing else was done outside, nothing was fetched or read unless the
row was there, nor for any other place than those that the operation reads, no place was fetched for
again after a fetch for it gave a value, the row holds what was fetched, each reading shows the
first value that was fetched for each of its places, or nothing where the row was handed out before,
and it fails only for an index out of range or with the fetch that was attempted last. -/
theorem fetched_once_and_kept {steps : List (Operation × Except Fault Reply)}
    (h : Runs fetch ({}, w) steps j u) :
    ∃ history, history.map (fun s => (s.op, s.result)) = steps ∧
      FetchedOnce fetch w history j u := by
  obtain ⟨history, hsteps, hfollows⟩ := h.follows
  exact ⟨history, hsteps, hfollows.toFetchedOnce⟩

end

/-- A fetch that fails the first time, and then finds another number each time. -/
def fetchCounting : Fetch Nat Unit := fun _ => do
  let count ← Action.world
  Action.change fun count => count + 1
  if count = 0 then Action.fail (.tool .driver "Call returned no output row")
  else pure (.int count)

/-- A value is fetched for until there is one, which is then shown from either end and as the whole
row; the index behind it shows nothing, and neither does the row before it is committed or after it
was closed. -/
theorem number_fetched_once :
    ∃ (history : List Step) (j : List Unit) (u : Projector × Nat),
      history.map (fun s => (s.op, s.result)) =
        [(.addColumn (numericColumn "a" 1), .ok .done),
          (.readAt 0, .error (misuse "No row committed; execute the call first")),
          (.addRow, .ok .done),
          (.readAt 0, .error (.tool .driver "Call returned no output row")),
          (.readAt 0, .ok (.value (.int 1))),
          (.readAt (-1), .ok (.value (.int 1))),
          (.readAt 1, .error (.mishap .badIndex "list index out of range")),
          (.fetchAll, .ok (.rows [[.int 1]])),
          (.close, .ok .done),
          (.readRow, .error (misuse "Result is closed"))] ∧
      FetchedOnce fetchCounting 0 history j u ∧ u.2 = 2 := by
  have hruns : ∃ j u, u.2 = 2 ∧ Runs fetchCounting ({}, 0)
      [(.addColumn (numericColumn "a" 1), .ok .done),
        (.readAt 0, .error (misuse "No row committed; execute the call first")),
        (.addRow, .ok .done),
        (.readAt 0, .error (.tool .driver "Call returned no output row")),
        (.readAt 0, .ok (.value (.int 1))),
        (.readAt (-1), .ok (.value (.int 1))),
        (.readAt 1, .error (.mishap .badIndex "list index out of range")),
        (.fetchAll, .ok (.rows [[.int 1]])),
        (.close, .ok .done),
        (.readRow, .error (misuse "Result is closed"))] j u := by
    refine ⟨_, _, ?_, .cons rfl (.cons rfl (.cons rfl (.cons rfl (.cons rfl (.cons rfl (.cons rfl
      (.cons rfl (.cons rfl (.cons rfl .start)))))))))⟩
    rfl
  obtain ⟨j, u, hcount, h⟩ := hruns
  obtain ⟨history, hsteps, honce⟩ := fetched_once_and_kept h
  exact ⟨history, j, u, hsteps, honce, hcount⟩

end Projector

end ProcedureCall
