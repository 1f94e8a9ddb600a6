import Mathlib.Data.List.TakeWhile
import ProcedureCall.Proofs.Projection

/-!
# The columns of a committed row

Whatever is done with the row of output values, one operation after another, only three operations
touch its columns or its state: columns are added, the row is committed, the row is closed. All
others are readings, which keep the shape of the projector (`does_reading`).

The columns are fixed from the commit to the close, and no longer. A column is refused because there
is a row; closing drops the row, and after that a column is taken again (`columns_fixed_iff`,
`column_added_after_close`).
-/

namespace ProcedureCall

open ProcedureCall.Action

namespace Projector

/-! ### Operations -/

/-- What can be done with the row of output values. Whoever reads asks the projector for the row
first; who keeps the row asks it itself. -/
inductive Operation where
  /-- A column is added. -/
  | addColumn (column : OutputColumn)
  /-- Columns are added, one after another. -/
  | addColumns (columns : List OutputColumn)
  /-- The row is committed. -/
  | addRow
  /-- The value at an index is read. -/
  | readAt (index : Int)
  /-- All values are read. -/
  | readRow
  /-- All values are read by the names of their columns. -/
  | readNamed
  /-- The row is handed out. -/
  | fetchOne
  /-- The rows that were not handed out yet are handed out. -/
  | fetchAll
  /-- The row is reported as a result. -/
  | projectedResult
  /-- The row is closed. -/
  | close
  deriving DecidableEq, Repr

/-- What an operation gives. -/
inductive Reply where
  /-- Nothing. -/
  | done
  /-- One value. -/
  | value (value : Value)
  /-- The values of the row. -/
  | row (values : List Value)
  /-- The values of the row by the names of their columns. -/
  | named (values : List (String × Value))
  /-- The row, if it was not handed out before. -/
  | handed (row : Option (List Value))
  /-- The rows that were not handed out before. -/
  | rows (rows : List (List Value))
  /-- The row as a result. -/
  | result (result : QueryResult)
  deriving Repr

section

variable {σ ε : Type}

/-- Changes the projector, unless the change is refused. -/
def edit (f : Projector → Except Fault Projector) : Action (Projector × σ) ε Reply := do
  let p ← Action.ofExcept (f (← Action.world).1)
  Action.change fun w => (p, w.2)
  pure .done

/-- Does what an operation says. -/
def Operation.perform (fetch : Fetch σ ε) : Operation → Action (Projector × σ) ε Reply
  | .addColumn column => edit fun p => p.addColumn column
  | .addColumns columns => edit fun p => p.addColumns columns
  | .addRow => edit fun p => p.addRow
  | .readAt index => .value <$> ProcedureCall.readAt fetch index
  | .readRow => .row <$> ProcedureCall.readRow fetch
  | .readNamed => .named <$> ProcedureCall.readNamed fetch
  | .fetchOne => .handed <$> ProcedureCall.fetchOne fetch
  | .fetchAll => .rows <$> ProcedureCall.fetchAll fetch
  | .projectedResult => .result <$> ProcedureCall.projectedResult fetch
  | .close => edit fun p => .ok p.close

/-- Is the operation a reading? -/
def Operation.isReading : Operation → Bool
  | .addColumn _ | .addColumns _ | .addRow | .close => false
  | _ => true

/-- The columns that the operation adds, if it is not refused. -/
def Operation.newColumns : Operation → List OutputColumn
  | .addColumn column => [column]
  | .addColumns columns => columns
  | _ => []

/-- From its start a projector goes through some operations, each with its result, which leave a
journal. -/
inductive Runs (fetch : Fetch σ ε) (start : Projector × σ) :
    List (Operation × Except Fault Reply) → List ε → Projector × σ → Prop where
  /-- Nothing was done yet. -/
  | start : Runs fetch start [] [] start
  /-- One more operation is done. -/
  | step {steps : List (Operation × Except Fault Reply)} {op : Operation} {j k : List ε}
      {u v : Projector × σ} {r : Except Fault Reply} : Runs fetch start steps j u →
      (op.perform fetch).Ends u r v k → Runs fetch start (steps ++ [(op, r)]) (j ++ k) v

variable {fetch : Fetch σ ε} {u v : Projector × σ} {r : Except Fault Reply} {j : List ε}

/-- The first of some operations may be done on its own. -/
theorem Runs.cons {x : Projector × σ} {op : Operation} {k : List ε}
    {steps : List (Operation × Except Fault Reply)} (hop : (op.perform fetch).Ends u r v j)
    (h : Runs fetch v steps k x) : Runs fetch u ((op, r) :: steps) (j ++ k) x := by
  induction h with
  | start =>
    have hone := Runs.start.step hop
    rwa [List.nil_append, List.nil_append, ← List.append_nil j] at hone
  | step _ hlast ih =>
    rw [← List.append_assoc]
    exact ih.step hlast

theorem Runs.of_nil {x : Projector × σ} (h : Runs fetch u [] j x) : x = u ∧ j = [] := by
  generalize hnone : [] = steps at h
  cases h with
  | start => exact ⟨rfl, rfl⟩
  | step _ _ => simp at hnone

/-- What was done begins with its first operation. -/
theorem Runs.uncons {x : Projector × σ} {op : Operation}
    {steps : List (Operation × Except Fault Reply)} (h : Runs fetch u ((op, r) :: steps) j x) :
    ∃ v j₁ j₂, (op.perform fetch).Ends u r v j₁ ∧ Runs fetch v steps j₂ x ∧ j = j₁ ++ j₂ := by
  generalize hall : (op, r) :: steps = all at h
  induction h generalizing steps with
  | start => cases hall
  | @step before last _ _ _ _ _ hbefore hlast ih =>
    cases before with
    | nil =>
      obtain ⟨⟨rfl, rfl⟩, rfl⟩ : (op = last ∧ _ = _) ∧ steps = [] := by simpa using hall
      obtain ⟨rfl, rfl⟩ := hbefore.of_nil
      exact ⟨_, _, _, hlast, .start, by simp⟩
    | cons first before =>
      obtain ⟨rfl, rfl⟩ := List.cons.inj hall
      obtain ⟨v, j₁, j₂, hfirst, hrest, rfl⟩ := ih rfl
      exact ⟨v, j₁, _, hfirst, hrest.step hlast, List.append_assoc _ _ _⟩

theorem newColumns_of_isReading {op : Operation} (h : op.isReading = true) :
    op.newColumns = [] := by
  cases op <;> first | rfl | cases h

/-- A change is made in whole or not at all, and leaves nothing in the journal. -/
theorem edit_ends {f : Projector → Except Fault Projector} :
    (edit f : Action (Projector × σ) ε Reply).Ends u r v j ↔
      r = (f u.1).map (fun _ => .done) ∧ v = ((f u.1).toOption.getD u.1, u.2) ∧ j = [] := by
  have hworld : (world : Action (Projector × σ) ε (Projector × σ)).Gives u u u [] := world_gives u
  cases hf : f u.1 with
  | error fault =>
    have hfails : (edit f : Action (Projector × σ) ε Reply).Fails u fault u [] :=
      ends_bind.mpr (Or.inr ⟨u, u, [], [], hworld,
        ends_bind.mpr (Or.inl ⟨fault, rfl, ends_ofExcept.mpr ⟨hf.symm, rfl, rfl⟩⟩), rfl⟩)
    exact ⟨fun h => Ends.unique h hfails, fun ⟨hr, hv, hj⟩ => by rw [hr, hv, hj]; exact hfails⟩
  | ok p =>
    have hgives : (edit f : Action (Projector × σ) ε Reply).Gives u .done (p, u.2) [] :=
      hworld.bind (Gives.bind (ends_ofExcept.mpr ⟨hf.symm, rfl, rfl⟩)
        ((change_gives _ u).bind (pure_gives _ _)))
    exact ⟨fun h => Ends.unique h hgives, fun ⟨hr, hv, hj⟩ => by rw [hr, hv, hj]; exact hgives⟩

/-! ### Readings -/

/-- The columns are the same, and the row is committed or not and closed or not as it was. -/
structure SameShape (p q : Projector) : Prop where
  /-- The columns. -/
  columns : q.columns = p.columns
  /-- Committed or not. -/
  isCommitted : q.isCommitted = p.isCommitted
  /-- Closed or not. -/
  isClosed : q.isClosed = p.isClosed

theorem SameShape.refl (p : Projector) : p.SameShape p := ⟨rfl, rfl, rfl⟩

theorem SameShape.trans {p q r : Projector} (h₁ : p.SameShape q) (h₂ : q.SameShape r) :
    p.SameShape r :=
  ⟨h₂.columns.trans h₁.columns, h₂.isCommitted.trans h₁.isCommitted,
    h₂.isClosed.trans h₁.isClosed⟩

theorem sameShape_remember (p : Projector) (place : Nat) (value : Value) :
    p.SameShape (p.remember place value) :=
  ⟨rfl, p.isCommitted_remember place value, rfl⟩

/-- Of a reading nothing need be known but what a fetch does, what keeping a value does, and what
handing out the row does. -/
theorem does_reading {P : Projector × σ → List ε → Projector × σ → Prop} (hP : Chains P)
    (hfetch : ∀ ordinal, Does P ((fetch ordinal).within (·.2) fun outside w => (w.1, outside)))
    (hremember : ∀ w place value, P w [] (w.1.remember place value, w.2))
    (hread : ∀ w, P w [] ({ w.1 with isRead := true }, w.2)) {op : Operation}
    (hop : op.isReading = true) : Does P (op.perform fetch) := by
  cases op with
  | readAt index => exact (does_readAt hP hfetch hremember index).map hP
  | readRow => exact (does_readRow hP hfetch hremember).map hP
  | readNamed =>
    exact Does.map hP ((does_world hP).bind hP fun _ => (does_ofExcept hP _).bind hP fun _ =>
      (does_readRow hP hfetch hremember).bind hP fun _ => does_pure hP _)
  | fetchOne => exact (does_fetchOne hP hfetch hremember hread).map hP
  | fetchAll =>
    exact Does.map hP ((does_fetchOne hP hfetch hremember hread).bind hP fun _ => does_pure hP _)
  | projectedResult => exact (does_projectedResult hP hfetch hremember).map hP
  | addColumn column => cases hop
  | addColumns columns => cases hop
  | addRow => cases hop
  | close => cases hop

theorem sameShape_reading {op : Operation} (hop : op.isReading = true) :
    Does (fun u _ v => u.1.SameShape v.1) (op.perform fetch) :=
  does_reading ⟨fun w => .refl w.1, fun h₁ h₂ => h₁.trans h₂⟩
    (fun _ => Does.within (P := fun _ _ _ => True) (fun _ _ _ _ _ => trivial)
      fun w _ _ _ => .refl w.1)
    (fun w place value => sameShape_remember w.1 place value) (fun _ => ⟨rfl, rfl, rfl⟩) hop

/-! ### After the commit -/

/-- The columns that some operations add after the first of them that closes the row. -/
def lateColumns (ops : List Operation) : List OutputColumn :=
  (ops.dropWhile (· ≠ .close)).flatMap Operation.newColumns

/-- Before the close nothing counts, and after it each column does. -/
theorem lateColumns_append_singleton (ops : List Operation) (op : Operation) :
    lateColumns (ops ++ [op]) =
      lateColumns ops ++ if .close ∈ ops then op.newColumns else [] := by
  unfold lateColumns
  rw [List.dropWhile_append]
  by_cases hclose : .close ∈ ops
  · have hrest : ops.dropWhile (· ≠ .close) ≠ [] := by
      intro h
      exact absurd (List.dropWhile_eq_nil_iff.mp h _ hclose) (by simp)
    rw [if_neg (by simpa using hrest), List.flatMap_append, if_pos hclose]
    simp
  · have hrest : ops.dropWhile (· ≠ .close) = [] := by
      refine List.dropWhile_eq_nil_iff.mpr fun other hother => ?_
      have hne : other ≠ .close := fun h => hclose (h ▸ hother)
      simpa using hne
    rw [hrest, List.isEmpty_nil, if_pos rfl, if_neg hclose]
    by_cases hop : op = .close
    · subst hop
      rfl
    · simp [hop]

/-- Columns are refused, all of them, while there is a row. -/
theorem addColumns_of_isCommitted {p : Projector} (h : p.isCommitted = true)
    (columns : List OutputColumn) : (p.addColumns columns).toOption.getD p = p := by
  cases columns with
  | nil => rfl
  | cons column columns => simp [Projector.addColumns, addColumn, h, Except.bind, Except.toOption]

/-- A column is added to a row in the making, and to no other. -/
theorem addColumn_ends {column : OutputColumn} :
    ((Operation.addColumn column).perform fetch).Ends u r v j ↔
      (u.1.isCommitted = true ∧
        r = .error (misuse "Cannot add columns after the row is committed") ∧ v = u ∨
      u.1.isCommitted = false ∧ r = .ok .done ∧
        v = ({ u.1 with columns := u.1.columns ++ [column] }, u.2)) ∧ j = [] := by
  refine (edit_ends (f := fun p => p.addColumn column)).trans ?_
  cases h : u.1.isCommitted <;> simp [addColumn, h, Except.map, Except.toOption, and_assoc]

theorem addRow_of_isCommitted {p : Projector} (h : p.isCommitted = true) :
    p.addRow.toOption.getD p = p := by
  unfold addRow
  rw [if_pos h]
  split <;> rfl

/-- While there is a row, nothing but a close changes its shape. -/
theorem edit_of_isCommitted {op : Operation} (hop : op.isReading = false) (hclose : op ≠ .close)
    (hcommitted : u.1.isCommitted = true) (h : (op.perform fetch).Ends u r v j) :
    v = u ∧ j = [] := by
  cases op with
  | addColumn column =>
    obtain ⟨⟨-, -, rfl⟩ | ⟨huncommitted, -⟩, rfl⟩ := addColumn_ends.mp h
    · exact ⟨rfl, rfl⟩
    · simp [huncommitted] at hcommitted
  | addColumns columns =>
    obtain ⟨-, rfl, rfl⟩ := (edit_ends (f := fun p => p.addColumns columns)).mp h
    exact ⟨by rw [addColumns_of_isCommitted hcommitted], rfl⟩
  | addRow =>
    obtain ⟨-, rfl, rfl⟩ := (edit_ends (f := fun p => p.addRow)).mp h
    exact ⟨by rw [addRow_of_isCommitted hcommitted], rfl⟩
  | close => exact absurd rfl hclose
  | _ => cases hop

/-- The row was committed with these columns, and these operations were done since. -/
structure CommittedWith (columns : List OutputColumn) (ops : List Operation) (p : Projector) :
    Prop where
  /-- Columns came in only after a close. -/
  columns : p.columns = columns ++ lateColumns ops
  /-- The row is closed if it was asked to. -/
  isClosed : p.isClosed = decide (.close ∈ ops)
  /-- The row is there until it is closed. -/
  isCommitted : p.isCommitted = !decide (.close ∈ ops)

variable {columns : List OutputColumn} {ops : List Operation}

/-- What leaves the shape alone and adds no column keeps a row committed as it was. -/
theorem CommittedWith.of_sameShape {p q : Projector} (h : CommittedWith columns ops p)
    (hsame : p.SameShape q) {op : Operation} (hclose : op ≠ .close)
    (hnew : .close ∈ ops → op.newColumns = []) : CommittedWith columns (ops ++ [op]) q where
  columns := by
    rw [hsame.columns, h.columns, lateColumns_append_singleton]
    split
    case isTrue hmem => rw [hnew hmem, List.append_nil]
    case isFalse => rw [List.append_nil]
  isClosed := by simp [hsame.isClosed, h.isClosed, hclose.symm]
  isCommitted := by simp [hsame.isCommitted, h.isCommitted, hclose.symm]

/-- Adding columns is refused as long as the row is there; once it is closed, they are taken. -/
theorem CommittedWith.addColumns {p : Projector} (h : CommittedWith columns ops p)
    {op : Operation} (hclose : op ≠ .close) :
    CommittedWith columns (ops ++ [op]) ((p.addColumns op.newColumns).toOption.getD p) := by
  have hcommitted := h.isCommitted
  by_cases hmem : .close ∈ ops
  · have huncommitted : p.isCommitted = false := by simp [hcommitted, hmem]
    rw [addColumns_eq huncommitted]
    refine ⟨?_, by simp [Except.toOption, h.isClosed, hmem], ?_⟩
    · simp [Except.toOption, h.columns, lateColumns_append_singleton, hmem]
    · change p.isCommitted = _
      simp [huncommitted, hmem]
  · rw [addColumns_of_isCommitted (by simp [hcommitted, hmem])]
    exact h.of_sameShape (.refl p) hclose fun hmem' => absurd hmem' hmem

/-- Every operation keeps a row committed as it was. -/
theorem CommittedWith.step {op : Operation} (h : CommittedWith columns ops u.1)
    (hop : (op.perform fetch).Ends u r v j) : CommittedWith columns (ops ++ [op]) v.1 := by
  cases hreading : op.isReading with
  | true =>
    refine h.of_sameShape (sameShape_reading hreading _ _ _ _ hop) ?_ fun _ =>
      newColumns_of_isReading hreading
    rintro rfl
    cases hreading
  | false =>
    cases op with
    | addColumn column =>
      obtain ⟨-, rfl, -⟩ := (edit_ends (f := fun p => p.addColumn column)).mp hop
      have hone : u.1.addColumn column = u.1.addColumns [column] := by
        rw [Projector.addColumns]
        cases u.1.addColumn column <;> rfl
      dsimp only
      rw [hone]
      exact h.addColumns (by simp)
    | addColumns more =>
      obtain ⟨-, rfl, -⟩ := (edit_ends (f := fun p => p.addColumns more)).mp hop
      exact h.addColumns (by simp)
    | addRow =>
      obtain ⟨-, rfl, -⟩ := (edit_ends (f := fun p => p.addRow)).mp hop
      have hrefused : (addRow u.1).toOption.getD u.1 = u.1 := by
        have hclosed := h.isClosed
        have hcommitted := h.isCommitted
        by_cases hmem : .close ∈ ops <;>
          simp [addRow, hclosed, hcommitted, hmem, Except.toOption]
      refine h.of_sameShape ?_ (by simp) fun _ => rfl
      rw [hrefused]
      exact .refl u.1
    | close =>
      obtain ⟨-, rfl, -⟩ := (edit_ends (f := fun p => .ok p.close)).mp hop
      refine ⟨?_, by simp [Except.toOption, Projector.close], ?_⟩
      · simp [Except.toOption, Projector.close, h.columns, lateColumns_append_singleton,
          Operation.newColumns]
      · have hdropped : u.1.close.isCommitted = false := rfl
        simp [Except.toOption, hdropped]
    | _ => cases hreading

theorem CommittedWith.run {steps : List (Operation × Except Fault Reply)}
    (hstart : CommittedWith columns [] u.1) (h : Runs fetch u steps j v) :
    CommittedWith columns (steps.map (·.1)) v.1 := by
  induction h with
  | start => exact hstart
  | step _ hop ih =>
    rw [List.map_append]
    exact ih.step hop

/-- The row is committed with the columns that were gathered, unless it was committed or closed
before. -/
theorem addRow_gives {reply : Reply} (h : (Operation.addRow.perform fetch).Gives u reply v j) :
    CommittedWith u.1.columns [] v.1 := by
  obtain ⟨hreply, rfl, -⟩ := (edit_ends (f := fun p => p.addRow)).mp h
  cases hrow : u.1.addRow with
  | error fault =>
    rw [hrow] at hreply
    cases hreply
  | ok p =>
    unfold addRow at hrow
    split at hrow
    case isTrue => cases hrow
    case isFalse hopen =>
      split at hrow
      case isTrue => cases hrow
      case isFalse =>
        cases hrow
        rw [Bool.not_eq_true] at hopen
        exact ⟨(List.append_nil _).symm, hopen, rfl⟩

/-- **The columns are fixed from the commit to the close.** Once the row was committed, whatever is
done and whatever comes of the fetches, the columns are those of the commit and, after them, those
that were added after a close. A further column is refused, and nothing changes, exactly as long as
the row was not closed; after a close it is taken. -/
theorem columns_fixed_iff {x : Projector × σ} {reply : Reply} {k : List ε}
    {steps : List (Operation × Except Fault Reply)}
    (hcommit : (Operation.addRow.perform fetch).Gives u reply v k)
    (hlater : Runs fetch v steps j x) :
    x.1.columns = v.1.columns ++ lateColumns (steps.map (·.1)) ∧
    ∀ column,
      (((Operation.addColumn column).perform fetch).Fails x
        (misuse "Cannot add columns after the row is committed") x [] ↔
          .close ∉ steps.map (·.1)) ∧
      (((Operation.addColumn column).perform fetch).Gives x .done
        ({ x.1 with columns := x.1.columns ++ [column] }, x.2) [] ↔
          .close ∈ steps.map (·.1)) := by
  have hstart := addRow_gives hcommit
  have hcolumns : v.1.columns = u.1.columns := hstart.columns.trans (List.append_nil _)
  have hend := hstart.run hlater
  refine ⟨by rw [hend.columns, hcolumns], fun column => ?_⟩
  have hcommitted := hend.isCommitted
  unfold Gives Fails
  rw [addColumn_ends, addColumn_ends, hcommitted]
  by_cases hclose : .close ∈ steps.map (·.1) <;> simp [hclose]

end

/-- A column of numbers. -/
def numericColumn (name : String) (ordinal : Int) : OutputColumn :=
  ⟨name, ⟨"integer", 4, .numeric⟩, ordinal - 1, ordinal⟩

/-- A fetch that finds the absence of a value everywhere. -/
def fetchNull : Fetch Unit Unit := fun _ => pure .null

/-- A row that was read is still there, so it takes no further column. -/
theorem column_refused_after_commit :
    ∃ v x : Projector × Unit,
      (Operation.addRow.perform fetchNull).Gives ({ columns := [numericColumn "a" 1] }, ()) .done
        v [] ∧
      Runs fetchNull v [(.readRow, .ok (.row [.null]))] [] x ∧
      x.1.columns = v.1.columns ∧
      ((Operation.addColumn (numericColumn "b" 2)).perform fetchNull).Fails x
        (misuse "Cannot add columns after the row is committed") x [] := by
  have hcommit : (Operation.addRow.perform fetchNull).Gives
      ({ columns := [numericColumn "a" 1] }, ()) .done
      ({ columns := [numericColumn "a" 1], cells := some [⟨numericColumn "a" 1, none⟩] }, ()) [] :=
    rfl
  have hread : (Operation.readRow.perform fetchNull).Gives
      ({ columns := [numericColumn "a" 1], cells := some [⟨numericColumn "a" 1, none⟩] }, ())
      (.row [.null])
      ({ columns := [numericColumn "a" 1],
         cells := some [⟨numericColumn "a" 1, some .null⟩] }, ()) [] :=
    rfl
  have hlater := Runs.start.step hread
  obtain ⟨hcolumns, hadd⟩ := columns_fixed_iff hcommit hlater
  exact ⟨_, _, hcommit, hlater, hcolumns, (hadd (numericColumn "b" 2)).1.mpr (by decide)⟩

/-- After the row was committed and closed, a column is added to those that it was committed
with. -/
theorem column_added_after_close :
    ∃ v x y : Projector × Unit,
      (Operation.addRow.perform fetchNull).Gives ({ columns := [numericColumn "a" 1] }, ()) .done
        v [] ∧
      Runs fetchNull v [(.close, .ok .done)] [] x ∧
      ((Operation.addColumn (numericColumn "b" 2)).perform fetchNull).Gives x .done y [] ∧
      y.1.columns ≠ v.1.columns := by
  have hclose : (Operation.close.perform fetchNull).Gives
      ({ columns := [numericColumn "a" 1], cells := some [⟨numericColumn "a" 1, none⟩] }, ()) .done
      ({ columns := [numericColumn "a" 1], isClosed := true }, ()) [] :=
    rfl
  exact ⟨_, _, _, rfl, Runs.start.step hclose, rfl, by decide⟩

end Projector

end ProcedureCall
