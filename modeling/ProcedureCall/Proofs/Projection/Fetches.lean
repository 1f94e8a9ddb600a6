import ProcedureCall.Proofs.Projection.Columns

/-!
# Each value is fetched once

Reading the row of output values goes through six operations, and each of them may stop in the
middle of the row because a fetch failed. What all of them do to the row is one thing: some places
that hold no value are fetched for, one after another, and what comes is put there (`Fills`).

From a filling it can be read off which fetches were attempted and what the row holds: for each
place there are fetches that fail until one does not, and none after that (`Fills.pairwise`); and
the row holds what was fetched and nothing else (`Fills.keptAt`).
-/

namespace ProcedureCall

open ProcedureCall.Action

namespace Projector

variable {σ ε : Type} {fetch : Fetch σ ε}

/-! ### Attempts -/

/-- A fetch for a place of the row, and what came of it. -/
structure Attempt where
  /-- The place among the columns, from 0. -/
  place : Nat
  /-- The value, or why there is none. -/
  result : Except Fault Value

/-- The value that the attempts gave for a place, which is that of the first that gave one. -/
def fetched (attempts : List Attempt) (place : Nat) : Option Value :=
  attempts.findSome? fun a => if a.place = place then a.result.toOption else none

theorem fetched_cons (a : Attempt) (attempts : List Attempt) (place : Nat) :
    fetched (a :: attempts) place =
      (if a.place = place then a.result.toOption else none).or (fetched attempts place) := by
  rw [fetched, List.findSome?_cons]
  cases (if a.place = place then a.result.toOption else none) <;> rfl

theorem fetched_append (before after : List Attempt) (place : Nat) :
    fetched (before ++ after) place = (fetched before place).or (fetched after place) :=
  List.findSome?_append

/-- No value came for a place if every attempt for it failed. -/
theorem fetched_eq_none_iff {attempts : List Attempt} {place : Nat} :
    fetched attempts place = none ↔
      ∀ a ∈ attempts, a.place = place → ∃ fault, a.result = .error fault := by
  rw [fetched, List.findSome?_eq_none_iff]
  refine forall₂_congr fun a _ => ?_
  split
  case isTrue hplace =>
    cases a.result <;> simp [Except.toOption, hplace]
  case isFalse hplace => simp [hplace]

/-- The last of the attempts failed with this fault. -/
def FailsLast (attempts : List Attempt) (fault : Fault) : Prop :=
  ∃ place, attempts.getLast? = some ⟨place, .error fault⟩

/-- Each of the attempts gave a value. -/
def Succeed (attempts : List Attempt) : Prop := ∀ a ∈ attempts, ∃ value, a.result = .ok value

theorem Succeed.append {before after : List Attempt} (h₁ : Succeed before) (h₂ : Succeed after) :
    Succeed (before ++ after) :=
  List.forall_mem_append.mpr ⟨h₁, h₂⟩

/-- Attempts of which the last failed did not all give a value. -/
theorem FailsLast.not_succeed {attempts : List Attempt} {fault : Fault}
    (h : FailsLast attempts fault) : ¬ Succeed attempts := by
  obtain ⟨place, hlast⟩ := h
  intro hsucceed
  obtain ⟨value, hvalue⟩ := hsucceed _ (List.mem_of_getLast? hlast)
  cases hvalue

/-- The outside goes on by these attempts and by nothing else, one after another, each with the
ordinal of its place's column. -/
inductive Fetches (fetch : Fetch σ ε) (columns : List OutputColumn) :
    σ → List Attempt → List ε → σ → Prop where
  /-- Nothing was attempted. -/
  | nil (w : σ) : Fetches fetch columns w [] [] w
  /-- One fetch, and then the others. -/
  | cons {a : Attempt} {column : OutputColumn} {attempts : List Attempt} {w w₁ w₂ : σ}
      {j₁ j₂ : List ε} : columns[a.place]? = some column →
      (fetch column.sourceOrdinal).Ends w a.result w₁ j₁ →
      Fetches fetch columns w₁ attempts j₂ w₂ →
      Fetches fetch columns w (a :: attempts) (j₁ ++ j₂) w₂

theorem Fetches.append {columns : List OutputColumn} {before after : List Attempt} {w w₁ w₂ : σ}
    {j₁ j₂ : List ε} (h₁ : Fetches fetch columns w before j₁ w₁)
    (h₂ : Fetches fetch columns w₁ after j₂ w₂) :
    Fetches fetch columns w (before ++ after) (j₁ ++ j₂) w₂ := by
  induction h₁ with
  | nil => exact h₂
  | cons hcolumn hfetch _ ih =>
    rw [List.append_assoc]
    exact .cons hcolumn hfetch (ih h₂)

/-- Columns that come in later change nothing about the attempts made. -/
theorem Fetches.append_columns {columns : List OutputColumn} {attempts : List Attempt} {w w' : σ}
    {j : List ε} (h : Fetches fetch columns w attempts j w') (more : List OutputColumn) :
    Fetches fetch (columns ++ more) w attempts j w' := by
  induction h with
  | nil w => exact .nil w
  | cons hcolumn hfetch _ ih =>
    refine .cons ?_ hfetch ih
    rw [List.getElem?_append_left (List.getElem?_eq_some_iff.mp hcolumn).1, hcolumn]

/-! ### Filling the cells -/

/-- The value that is kept at a place. -/
def keptAt (cells : List Cell) (place : Nat) : Option Value := cells[place]?.bind (·.value)

/-- The cells after an attempt: a value that came is put at its place. -/
def Attempt.fill (a : Attempt) (cells : List Cell) : List Cell :=
  match a.result with
  | .ok value => cells.modify a.place fun c => { c with value := some value }
  | .error _ => cells

/-- Some places that hold no value are fetched for, one after another, and filled. -/
inductive Fills (fetch : Fetch σ ε) :
    List Cell → σ → List Attempt → List ε → List Cell → σ → Prop where
  /-- Nothing was attempted. -/
  | nil (cells : List Cell) (w : σ) : Fills fetch cells w [] [] cells w
  /-- One place is fetched for, and then the others. -/
  | cons {a : Attempt} {column : OutputColumn} {attempts : List Attempt} {cells cells' : List Cell}
      {w w₁ w₂ : σ} {j₁ j₂ : List ε} : cells[a.place]? = some ⟨column, none⟩ →
      (fetch column.sourceOrdinal).Ends w a.result w₁ j₁ →
      Fills fetch (a.fill cells) w₁ attempts j₂ cells' w₂ →
      Fills fetch cells w (a :: attempts) (j₁ ++ j₂) cells' w₂

@[simp] theorem Attempt.map_column_fill (a : Attempt) (cells : List Cell) :
    (a.fill cells).map (·.column) = cells.map (·.column) := by
  unfold Attempt.fill
  cases a.result with
  | error fault => rfl
  | ok value =>
    refine List.ext_getElem? fun k => ?_
    simp only [List.getElem?_map, List.getElem?_modify]
    cases cells[k]? <;> simp
    split <;> rfl

/-- An attempt for an empty place fills it, if a value came, and leaves all others alone. -/
theorem keptAt_fill {a : Attempt} {cells : List Cell} {column : OutputColumn}
    (h : cells[a.place]? = some ⟨column, none⟩) (place : Nat) :
    keptAt (a.fill cells) place =
      (keptAt cells place).or (if a.place = place then a.result.toOption else none) := by
  unfold keptAt Attempt.fill
  by_cases hplace : a.place = place
  · subst hplace
    cases a.result <;> simp [h, Except.toOption]
  · cases a.result <;> simp [hplace]

variable {cells cells' : List Cell} {w w' : σ} {attempts : List Attempt} {j : List ε}

theorem Fills.append {cells₁ cells₂ : List Cell} {before after : List Attempt} {w₁ w₂ : σ}
    {j₁ j₂ : List ε} (h₁ : Fills fetch cells w before j₁ cells₁ w₁)
    (h₂ : Fills fetch cells₁ w₁ after j₂ cells₂ w₂) :
    Fills fetch cells w (before ++ after) (j₁ ++ j₂) cells₂ w₂ := by
  induction h₁ with
  | nil => exact h₂
  | cons hcell hfetch _ ih =>
    rw [List.append_assoc]
    exact .cons hcell hfetch (ih h₂)

theorem Fills.map_column (h : Fills fetch cells w attempts j cells' w') :
    cells'.map (·.column) = cells.map (·.column) := by
  induction h with
  | nil => rfl
  | cons _ _ _ ih => rw [ih, Attempt.map_column_fill]

theorem Fills.length_eq (h : Fills fetch cells w attempts j cells' w') :
    cells'.length = cells.length := by
  simpa using congrArg List.length h.map_column

theorem Fills.fetches (h : Fills fetch cells w attempts j cells' w') :
    Fetches fetch (cells.map (·.column)) w attempts j w' := by
  induction h with
  | nil cells w => exact .nil w
  | cons hcell hfetch _ ih =>
    rw [Attempt.map_column_fill] at ih
    exact .cons (by rw [List.getElem?_map, hcell]; rfl) hfetch ih

/-- A place holds what it held, or else what was fetched for it. -/
theorem Fills.keptAt (h : Fills fetch cells w attempts j cells' w') (place : Nat) :
    Projector.keptAt cells' place = (Projector.keptAt cells place).or (fetched attempts place) := by
  induction h with
  | nil => rw [fetched, List.findSome?_nil, Option.or_none]
  | cons hcell _ _ ih => rw [ih, keptAt_fill hcell, fetched_cons, Option.or_assoc]

/-- Only what is missing is fetched for. -/
theorem Fills.keptAt_eq_none (h : Fills fetch cells w attempts j cells' w') :
    ∀ a ∈ attempts, Projector.keptAt cells a.place = none := by
  induction h with
  | nil => simp
  | cons hcell _ _ ih =>
    refine List.forall_mem_cons.mpr ⟨by simp [Projector.keptAt, hcell], fun b hb => ?_⟩
    have hlater := ih b hb
    rw [keptAt_fill hcell, Option.or_eq_none_iff] at hlater
    exact hlater.1

/-- Of two attempts for one place the earlier one failed. -/
theorem Fills.pairwise (h : Fills fetch cells w attempts j cells' w') :
    attempts.Pairwise fun a b => a.place = b.place → ∃ fault, a.result = .error fault := by
  induction h with
  | nil => exact .nil
  | @cons a _ _ _ _ _ _ _ _ _ hcell _ hrest ih =>
    refine .cons (fun b hb hplace => ?_) ih
    have hlater := hrest.keptAt_eq_none b hb
    rw [keptAt_fill hcell, Option.or_eq_none_iff, if_pos hplace] at hlater
    cases hresult : a.result with
    | error fault => exact ⟨fault, rfl⟩
    | ok value => simp [hresult, Except.toOption] at hlater

/-! ### Readings of a row that is there -/

/-- The row is there if it is committed and the projector is not closed. -/
theorem row_eq_ok_iff {p : Projector} :
    p.row = .ok cells ↔ p.isClosed = false ∧ p.cells = some cells := by
  unfold row
  cases p.isClosed <;> cases p.cells <;> simp

variable {α β : Type} {places : List Nat} {u v x : Projector × σ} {k : List ε}

/-- What begins with asking for a row that is there goes on with its cells. -/
theorem ends_of_row {f : Projector × σ → List Cell → Action (Projector × σ) ε α}
    {r : Except Fault α} (hrow : u.1.row = .ok cells)
    (h : (do
      let w ← Action.world
      let cells ← Action.ofExcept w.1.row
      f w cells : Action (Projector × σ) ε α).Ends u r v j) : (f u cells).Ends u r v j := by
  obtain ⟨j₁, h₁, rfl⟩ := (Gives.ends_bind (world_gives u)).mp h
  obtain ⟨j₂, h₂, rfl⟩ := (Gives.ends_bind (ends_ofExcept.mpr ⟨hrow.symm, rfl, rfl⟩)).mp h₁
  exact h₂

/-- What begins with asking for a row that is not there fails, and nothing else happens. -/
theorem fails_of_row {f : Projector × σ → List Cell → Action (Projector × σ) ε α} {fault : Fault}
    (hrow : u.1.row = .error fault) :
    (do
      let w ← Action.world
      let cells ← Action.ofExcept w.1.row
      f w cells : Action (Projector × σ) ε α).Fails u fault u [] :=
  ends_bind.mpr (Or.inr ⟨u, u, [], [], world_gives u,
    ends_bind.mpr (Or.inl ⟨fault, rfl, ends_ofExcept.mpr ⟨hrow.symm, rfl, rfl⟩⟩), rfl⟩)

/-- Between two states of a projector whose row is there, some of the places are filled and nothing
else is done. -/
structure Reads (fetch : Fetch σ ε) (places : List Nat) (cells : List Cell) (u : Projector × σ)
    (attempts : List Attempt) (j : List ε) (cells' : List Cell) (v : Projector × σ) : Prop where
  /-- The cells are filled. -/
  fills : Fills fetch cells u.2 attempts j cells' v.2
  /-- Only these places are fetched for. -/
  places : ∀ a ∈ attempts, a.place ∈ places
  /-- The row is there with the cells as they were filled. -/
  row : v.1.row = .ok cells'
  /-- The columns stay. -/
  columns : v.1.columns = u.1.columns

theorem Reads.refl {p : Projector} {w : σ} (h : p.row = .ok cells) (places : List Nat) :
    Reads fetch places cells (p, w) [] [] cells (p, w) :=
  ⟨.nil cells w, by simp, h, rfl⟩

theorem Reads.trans {cells₁ cells₂ : List Cell} {more : List Nat} {before after : List Attempt}
    (h₁ : Reads fetch places cells u before j cells₁ v)
    (h₂ : Reads fetch more cells₁ v after k cells₂ x) :
    Reads fetch (places ++ more) cells u (before ++ after) (j ++ k) cells₂ x where
  fills := h₁.fills.append h₂.fills
  places a ha := by
    rcases List.mem_append.mp ha with ha | ha
    · exact List.mem_append_left _ (h₁.places a ha)
    · exact List.mem_append_right _ (h₂.places a ha)
  row := h₂.row
  columns := h₂.columns.trans h₁.columns

/-- A run that reads: places are filled; if it gives a value, all attempts did, and the value shows
what the cells hold then; and if it fails, the last attempt did. -/
def ReadsTo (fetch : Fetch σ ε) (places : List Nat) (shows : α → List Cell → Prop)
    (cells : List Cell) (u : Projector × σ) (r : Except Fault α) (v : Projector × σ) (j : List ε) :
    Prop :=
  ∃ attempts cells', Reads fetch places cells u attempts j cells' v ∧
    (∀ value, r = .ok value → shows value cells' ∧ Succeed attempts) ∧
    ∀ fault, r = .error fault → FailsLast attempts fault

theorem ReadsTo.map {shows : α → List Cell → Prop} {shows' : β → List Cell → Prop} {f : α → β}
    {r : Except Fault α} (h : ReadsTo fetch places shows cells u r v j)
    (hshows : ∀ value cells', cells'.map (·.column) = cells.map (·.column) →
      shows value cells' → shows' (f value) cells') :
    ReadsTo fetch places shows' cells u (r.map f) v j := by
  obtain ⟨attempts, cells', hreads, hvalue, hfault⟩ := h
  refine ⟨attempts, cells', hreads, fun value hr => ?_, fun fault hr => hfault fault ?_⟩
  · cases r with
    | error fault => cases hr
    | ok value =>
      cases hr
      obtain ⟨hshown, hsucceed⟩ := hvalue value rfl
      exact ⟨hshows value cells' hreads.fills.map_column hshown, hsucceed⟩
  · cases r with
    | error fault =>
      cases hr
      rfl
    | ok value => cases hr

/-- A cell that is there is read: it holds the value, or it is fetched for. -/
theorem readCell_ends {place : Nat} {r : Except Fault Value} (hrow : u.1.row = .ok cells)
    (hplace : place < cells.length) (h : (readCell fetch place).Ends u r v j) :
    ReadsTo fetch [place] (fun value cells' => keptAt cells' place = some value) cells u r v j := by
  have h₂ := ends_of_row hrow h
  have hopen := (row_eq_ok_iff.mp hrow).1
  have hcells := (row_eq_ok_iff.mp hrow).2
  rcases hcell : cells[place]? with _ | ⟨column, _ | value⟩
  · exact absurd (List.getElem?_eq_none_iff.mp hcell) (by omega)
  · rw [hcell] at h₂
    have hfetched : ∀ {result : Except Fault Value} {w : σ} {k : List ε},
        (fetch column.sourceOrdinal).Ends u.2 result w k →
        Fills fetch cells u.2 [⟨place, result⟩] (k ++ [])
          (Attempt.fill ⟨place, result⟩ cells) w :=
      fun hends => .cons hcell hends (.nil _ _)
    rcases ends_bind.mp h₂ with ⟨fault, rfl, hfails⟩ | ⟨value, w₁, k₁, k₂, hgives, hkept, rfl⟩
    · obtain ⟨w, hends, rfl⟩ := ends_within.mp hfails
      have hfills := hfetched hends
      rw [List.append_nil] at hfills
      exact ⟨_, _, ⟨hfills, by simp, hrow, rfl⟩, by simp, fun f hf => ⟨place, by cases hf; rfl⟩⟩
    · obtain ⟨w, hends, rfl⟩ := ends_within.mp hgives
      obtain ⟨rfl, rfl, rfl⟩ := Ends.unique hkept ((change_gives _ _).bind (pure_gives value _))
      refine ⟨_, _, ⟨hfetched hends, by simp, ?_, rfl⟩, ?_, by simp⟩
      · refine row_eq_ok_iff.mpr ⟨hopen, ?_⟩
        simp [remember, hcells, Attempt.fill]
      · rintro _ ⟨⟩
        have hkeeps := keptAt_fill (a := ⟨place, .ok value⟩) hcell place
        rw [if_pos rfl] at hkeeps
        exact ⟨hkeeps.trans (by simp [keptAt, hcell, Except.toOption]), by simp [Succeed]⟩
  · rw [hcell] at h₂
    obtain ⟨rfl, rfl, rfl⟩ := Ends.unique h₂ (pure_gives value u)
    exact ⟨[], cells, .refl hrow _, by simp [keptAt, hcell, Succeed], by simp⟩

/-- Cells that are there are read one after another, up to a fetch that fails. -/
theorem forEach_readCell_ends {r : Except Fault (List Value)} (hrow : u.1.row = .ok cells)
    (hplaces : ∀ place ∈ places, place < cells.length)
    (h : (forEach (readCell fetch) places).Ends u r v j) :
    ReadsTo fetch places (fun values cells' => values.map some = places.map (keptAt cells'))
      cells u r v j := by
  induction places generalizing cells u r v j with
  | nil =>
    obtain ⟨rfl, rfl, rfl⟩ := Ends.unique h (pure_gives [] u)
    exact ⟨[], cells, .refl hrow _, by simp [Succeed], by simp⟩
  | cons place places ih =>
    obtain ⟨hplace, hrest⟩ := List.forall_mem_cons.mp hplaces
    have hcons : (readCell fetch place >>= fun value =>
        (value :: ·) <$> forEach (readCell fetch) places).Ends u r v j := h
    rcases ends_bind.mp hcons with ⟨fault, rfl, hfails⟩ | ⟨value, w₁, j₁, j₂, hgives, hmap, rfl⟩
    · obtain ⟨attempts, cells', hreads, -, hfault⟩ := readCell_ends hrow hplace hfails
      refine ⟨attempts, cells', ⟨hreads.fills, fun a ha => ?_, hreads.row, hreads.columns⟩,
        by simp, fun f hf => hfault f ?_⟩
      · exact List.mem_cons.mpr (Or.inl (List.mem_singleton.mp (hreads.places a ha)))
      · cases hf
        rfl
    · obtain ⟨before, cells₁, hreads₁, hvalue, -⟩ := readCell_ends hrow hplace hgives
      obtain ⟨result, hends, rfl⟩ := ends_map.mp hmap
      obtain ⟨after, cells₂, hreads₂, hvalues, hfault⟩ := ih hreads₁.row
        (by simpa only [hreads₁.fills.length_eq] using hrest) hends
      refine ⟨_, _, hreads₁.trans hreads₂, fun values hr => ?_, fun fault hr => ?_⟩
      · cases result with
        | error fault => cases hr
        | ok others =>
          cases hr
          obtain ⟨hshown, hfirst⟩ := hvalue value rfl
          obtain ⟨hothers, hsucceed⟩ := hvalues others rfl
          have hkept : keptAt cells₂ place = some value := by
            rw [hreads₂.fills.keptAt, hshown, Option.some_or]
          refine ⟨?_, hfirst.append hsucceed⟩
          change some value :: others.map some = _ :: places.map (keptAt cells₂)
          rw [hkept, hothers]
      · cases result with
        | ok others => cases hr
        | error fault =>
          cases hr
          obtain ⟨last, hlast⟩ := hfault _ rfl
          exact ⟨last, by rw [List.getLast?_append, hlast, Option.some_or]⟩

/-- These are all the values of a row of some length. -/
def IsRow (length : Nat) (known : Nat → Option Value) (values : List Value) : Prop :=
  values.map some = (List.range length).map known

theorem readRow_ends {r : Except Fault (List Value)} (hrow : u.1.row = .ok cells)
    (h : (readRow fetch).Ends u r v j) :
    ReadsTo fetch (List.range cells.length)
      (fun values cells' => IsRow cells.length (keptAt cells') values) cells u r v j :=
  forEach_readCell_ends hrow (fun _ hplace => List.mem_range.mp hplace) (ends_of_row hrow h)

end Projector

end ProcedureCall
