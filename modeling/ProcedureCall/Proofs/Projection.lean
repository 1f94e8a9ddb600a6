import ProcedureCall.Projection
import ProcedureCall.Proofs.Effects

/-!
# Reading the row of output values

Whatever is read from the committed row, only two things happen: a value is fetched, or a fetched
value is kept. What these do, every way of reading the row does.
-/

namespace ProcedureCall

open ProcedureCall.Action

variable {σ ε : Type} {fetch : Fetch σ ε}

/-! ### What may be known of a projector -/

namespace Projector

@[simp] theorem columns_remember (p : Projector) (place : Nat) (value : Value) :
    (p.remember place value).columns = p.columns := rfl

@[simp] theorem isClosed_remember (p : Projector) (place : Nat) (value : Value) :
    (p.remember place value).isClosed = p.isClosed := rfl

@[simp] theorem isCommitted_remember (p : Projector) (place : Nat) (value : Value) :
    (p.remember place value).isCommitted = p.isCommitted := by
  simp [isCommitted, remember]

/-- Columns that are added to an open projector come after those that it has. -/
theorem addColumns_eq {p : Projector} (h : p.isCommitted = false) (columns : List OutputColumn) :
    p.addColumns columns = .ok { p with columns := p.columns ++ columns } := by
  induction columns generalizing p with
  | nil => simp [addColumns]
  | cons column columns ih =>
    have hcolumn : p.addColumn column = .ok { p with columns := p.columns ++ [column] } := by
      simp [addColumn, h]
    rw [addColumns, hcolumn]
    have hopen : ({ p with columns := p.columns ++ [column] } : Projector).isCommitted = false := h
    change addColumns _ columns = _
    rw [ih hopen, List.append_assoc]
    rfl

end Projector

/-! ### What reading does -/

section

variable {P : Projector × σ → List ε → Projector × σ → Prop}

theorem does_readCell (hP : Chains P)
    (hfetch : ∀ ordinal, Does P ((fetch ordinal).within (·.2) fun outside w => (w.1, outside)))
    (hremember : ∀ w place value, P w [] (w.1.remember place value, w.2)) (place : Nat) :
    Does P (readCell fetch place) := by
  refine (does_world hP).bind hP fun w => (does_ofExcept hP _).bind hP fun cells => ?_
  rcases cells[place]? with _ | ⟨column, _ | value⟩
  · exact does_fail hP _
  · exact (hfetch _).bind hP fun value =>
      (does_change fun w => hremember w place value).bind hP fun _ => does_pure hP _
  · exact does_pure hP _

theorem does_readAt (hP : Chains P)
    (hfetch : ∀ ordinal, Does P ((fetch ordinal).within (·.2) fun outside w => (w.1, outside)))
    (hremember : ∀ w place value, P w [] (w.1.remember place value, w.2)) (index : Int) :
    Does P (readAt fetch index) := by
  refine (does_world hP).bind hP fun w => (does_ofExcept hP _).bind hP fun cells => ?_
  cases placeOf? cells.length index with
  | none => exact does_fail hP _
  | some place => exact does_readCell hP hfetch hremember place

theorem does_readRow (hP : Chains P)
    (hfetch : ∀ ordinal, Does P ((fetch ordinal).within (·.2) fun outside w => (w.1, outside)))
    (hremember : ∀ w place value, P w [] (w.1.remember place value, w.2)) :
    Does P (readRow fetch) :=
  (does_world hP).bind hP fun _ => (does_ofExcept hP _).bind hP fun _ =>
    does_forEach hP (does_readCell hP hfetch hremember) _

theorem does_fetchOne (hP : Chains P)
    (hfetch : ∀ ordinal, Does P ((fetch ordinal).within (·.2) fun outside w => (w.1, outside)))
    (hremember : ∀ w place value, P w [] (w.1.remember place value, w.2))
    (hread : ∀ w, P w [] ({ w.1 with isRead := true }, w.2)) : Does P (fetchOne fetch) := by
  refine (does_world hP).bind hP fun w => (does_ofExcept hP _).bind hP fun _ => ?_
  split
  · exact does_pure hP _
  · exact (does_change hread).bind hP fun _ => (does_readRow hP hfetch hremember).map hP

theorem does_projectedResult (hP : Chains P)
    (hfetch : ∀ ordinal, Does P ((fetch ordinal).within (·.2) fun outside w => (w.1, outside)))
    (hremember : ∀ w place value, P w [] (w.1.remember place value, w.2)) :
    Does P (projectedResult fetch) :=
  (does_world hP).bind hP fun _ => (does_ofExcept hP _).bind hP fun _ =>
    (does_readRow hP hfetch hremember).bind hP fun _ => does_pure hP _

end

/-! ### Reading a row for the first time -/

section

variable {columns : List OutputColumn} {values : List Value}

/-- The row is committed with the columns, and from `place` on nothing was fetched. -/
structure Projector.FreshFrom (p : Projector) (columns : List OutputColumn) (place : Nat) :
    Prop where
  /-- The row was not closed. -/
  isOpen : p.isClosed = false
  /-- The row is committed, and its cells from `place` on are empty. -/
  cells : ∃ cells, p.cells = some cells ∧
    ∀ k, place ≤ k → cells[k]? = columns[k]?.map fun column => ⟨column, none⟩

theorem readCell_gives {p : Projector} {place : Nat} {column : OutputColumn} {value : Value}
    {w w' : σ} {j : List ε} (hp : p.FreshFrom columns place)
    (hcolumn : columns[place]? = some column)
    (hfetch : (fetch column.sourceOrdinal).Gives w value w' j) :
    ∃ j', (readCell fetch place).Gives (p, w) value (p.remember place value, w') j' ∧
      (p.remember place value).FreshFrom columns (place + 1) := by
  obtain ⟨hopen, cells, hcells, hempty⟩ := hp
  have hrow : p.row = .ok cells := by simp [Projector.row, hopen, hcells]
  have hcell : cells[place]? = some ⟨column, none⟩ := by
    rw [hempty place (Nat.le_refl _), hcolumn]
    rfl
  have hfetched : ((fetch column.sourceOrdinal).within (τ := Projector × σ) (·.2)
      fun outside w => (w.1, outside)).Gives (p, w) value (p, w') j :=
    ends_within.mpr ⟨w', hfetch, rfl⟩
  refine ⟨[] ++ ([] ++ (j ++ ([] ++ []))), (world_gives (p, w)).bind
    (Gives.bind (ends_ofExcept.mpr ⟨hrow.symm, rfl, rfl⟩) ?_), hopen,
    cells.modify place fun c => { c with value := some value }, ?_, fun k hk => ?_⟩
  · rw [hcell]
    exact hfetched.bind ((change_gives _ _).bind (pure_gives _ _))
  · rw [Projector.remember, hcells]
    rfl
  · have hne : place ≠ k := by omega
    simp [hne, hempty k (by omega)]

/-- If every column's value can be fetched, the cells that are left are read one after another. -/
theorem forEach_readCell_gives {I : σ → Prop} (hlength : values.length = columns.length)
    (hfetch : ∀ (place : Nat) (column : OutputColumn) value w, columns[place]? = some column →
      values[place]? = some value → I w →
        ∃ w' j, (fetch column.sourceOrdinal).Gives w value w' j ∧ I w')
    {count place : Nat} (hplace : place + count = columns.length) {p : Projector} {w : σ}
    (hp : p.FreshFrom columns place) (hw : I w) :
    ∃ u j, (forEach (readCell fetch) (List.range' place count)).Gives (p, w)
      (values.drop place) u j := by
  induction count generalizing place p w with
  | zero =>
    refine ⟨(p, w), [], ?_⟩
    rw [List.drop_of_length_le (by omega)]
    exact pure_gives [] (p, w)
  | succ count ih =>
    have hcolumns : place < columns.length := by omega
    have hvalues : place < values.length := by omega
    obtain ⟨w₁, j₁, hfetched, hw₁⟩ := hfetch place columns[place] values[place] w
      (List.getElem?_eq_getElem hcolumns) (List.getElem?_eq_getElem hvalues) hw
    obtain ⟨j₁', hread, hfresh⟩ :=
      readCell_gives hp (List.getElem?_eq_getElem hcolumns) hfetched
    obtain ⟨u, j₂, hrest⟩ := ih (by omega) hfresh hw₁
    rw [List.drop_eq_getElem_cons hvalues]
    exact ⟨u, _, hread.bind (hrest.bind (pure_gives _ u))⟩

/-- A row that was just committed is reported with the values that its columns' places have. -/
theorem projectedResult_gives {I : σ → Prop} (hlength : values.length = columns.length)
    (hfetch : ∀ (place : Nat) (column : OutputColumn) value w, columns[place]? = some column →
      values[place]? = some value → I w →
        ∃ w' j, (fetch column.sourceOrdinal).Gives w value w' j ∧ I w')
    {p : Projector} {w : σ} (hopen : p.isClosed = false)
    (hcells : p.cells = some (columns.map fun column => ⟨column, none⟩)) (hw : I w) :
    ∃ u j, (projectedResult fetch).Gives (p, w)
      { columns := columns.map fun column => ⟨column.name, column.dataType.name⟩
        rows := [values]
        rowCount := 1
        status := "CALL" } u j := by
  have hfresh : p.FreshFrom columns 0 := ⟨hopen, _, hcells, fun k _ => List.getElem?_map ..⟩
  have hrow : p.row = .ok (columns.map fun column => ⟨column, none⟩) := by
    simp [Projector.row, hopen, hcells]
  have hcommitted : (ofExcept p.row : Action (Projector × σ) ε (List Cell)).Gives (p, w)
      (columns.map fun column => ⟨column, none⟩) (p, w) [] :=
    ends_ofExcept.mpr ⟨hrow.symm, rfl, rfl⟩
  obtain ⟨u, j, hcellsRead⟩ :=
    forEach_readCell_gives hlength hfetch (Nat.zero_add columns.length) hfresh hw
  have hread : (readRow fetch).Gives (p, w) values u ([] ++ ([] ++ j)) := by
    refine (world_gives (p, w)).bind (hcommitted.bind ?_)
    rw [List.length_map, List.range_eq_range']
    exact hcellsRead
  refine ⟨u, _, (world_gives (p, w)).bind (hcommitted.bind (hread.bind (gives_pure.mpr ⟨?_, rfl,
    rfl⟩)))⟩
  simp

end

end ProcedureCall
