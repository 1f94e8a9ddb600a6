import Mathlib.Data.List.Forall2
import ProcedureCall.Proofs.Number.Numeral
import ProcedureCall.Proofs.Plan.Reconciliation

/-!
# The columns of each outcome

`Reconciles` names the columns by the functions that build them. Here they are told place by place:
which places of the sources become columns, in which order, and what each column takes from either
side. The places are ascending lists of numbers (`IsAscending`), so that neither a filter nor a
counter of the program is part of what is said.

## What is proved

* `exists_places` — what a filter keeps stands at an ascending list of places.
* `reportedType_gives` — the type of a reported parameter, by what became of its look-up.
* `Reconciles.merges` — the columns of each outcome are those that `Merges` tells.
* `reconcile_merges` — there is always a reconciliation, and its columns are placed 0, 1, 2, ….
-/

namespace ProcedureCall

open ProcedureCall.Action

variable {σ ν π : Type} {s : Session σ ν π}

/-! ### Places -/

/-- The list holds the numbers with a property, each once, from small to large. -/
structure IsAscending (P : Nat → Prop) (places : List Nat) : Prop where
  /-- Each is less than those after it. -/
  sorted : places.Pairwise (· < ·)
  /-- They are the numbers with the property. -/
  mem_iff : ∀ place, place ∈ places ↔ P place

/-- What is kept of a list stands at an ascending list of places. -/
theorem exists_places {α : Type} (keeps : α → Bool) (items : List α) :
    ∃ places, IsAscending (fun place => ∃ item, items[place]? = some item ∧ keeps item = true)
        places ∧
      List.Forall₂ (fun place item => items[place]? = some item) places (items.filter keeps) := by
  induction items with
  | nil => exact ⟨[], ⟨.nil, by simp⟩, .nil⟩
  | cons first items ih =>
    obtain ⟨places, hplaces, hitems⟩ := ih
    have hlater : List.Forall₂ (fun place item => (first :: items)[place]? = some item)
        (places.map (· + 1)) (items.filter keeps) := by
      rw [List.forall₂_map_left_iff]
      exact hitems.imp fun place item h => by rw [List.getElem?_cons_succ, h]
    have hsorted : (places.map (· + 1)).Pairwise (· < ·) :=
      hplaces.sorted.map _ fun a b hab => Nat.succ_lt_succ hab
    have hmem (place : Nat) : place + 1 ∈ places.map (· + 1) ↔
        ∃ item, (first :: items)[place + 1]? = some item ∧ keeps item = true := by
      rw [List.getElem?_cons_succ, ← hplaces.mem_iff place]
      simp
    cases hfirst : keeps first with
    | true =>
      rw [List.filter_cons_of_pos hfirst]
      refine ⟨0 :: places.map (· + 1), ⟨List.pairwise_cons.mpr ⟨by simp, hsorted⟩, ?_⟩,
        .cons rfl hlater⟩
      rintro (_ | place)
      · simp [hfirst]
      · rw [List.mem_cons, hmem]
        simp
    | false =>
      rw [List.filter_cons_of_neg (by simp [hfirst])]
      refine ⟨places.map (· + 1), ⟨hsorted, ?_⟩, hlater⟩
      rintro (_ | place)
      · simp [hfirst]
      · exact hmem place

/-- What holds of drafts and does not look at their number holds of the columns. -/
theorem forall₂_placed {α : Type} {R : α → OutputColumn → Prop} {S : α → ColumnDraft → Prop}
    (hRS : ∀ a d (index : Nat), S a d → R a ⟨d.name, d.dataType, index, d.sourceOrdinal⟩)
    {items : List α} {drafts : List ColumnDraft} (h : List.Forall₂ S items drafts) :
    List.Forall₂ R items (placed drafts) := by
  unfold placed
  generalize 0 = start
  induction h generalizing start with
  | nil => exact .nil
  | cons hfirst _ ih =>
    rw [List.zipIdx_cons, List.map_cons]
    exact .cons (hRS _ _ _ hfirst) (ih (start + 1))

/-- The columns are placed from 0, one after the other. -/
theorem map_localIndex_placed (drafts : List ColumnDraft) :
    (placed drafts).map (·.localIndex) = (List.range (placed drafts).length).map Int.ofNat := by
  have hlength : (placed drafts).length = drafts.length := by simp [placed]
  calc (placed drafts).map (·.localIndex)
      = (drafts.zipIdx.map Prod.snd).map Int.ofNat := by
        rw [placed, List.map_map, List.map_map]; rfl
    _ = (List.range (placed drafts).length).map Int.ofNat := by
        rw [List.zipIdx_map_snd, hlength, List.range_eq_range']

/-! ### The type of a reported parameter -/

/-- The type is the coarse one of a reported parameter: of the reported name and code, and called
after its kind if there is no name. -/
structure ReportedParameter.IsCoarse (p : ReportedParameter) (t : DataType) : Prop where
  /-- The name. -/
  name_eq : t.name = (p.typeName.filter (!·.isEmpty)).getD t.kind.text
  /-- The code. -/
  code_eq : t.code = p.typeCode
  /-- The kind. -/
  kind_eq : t.kind = reportedKind p.typeName p.typeCode

theorem isCoarse_reported (p : ReportedParameter) :
    p.IsCoarse (DataType.reported p.typeName p.typeCode) where
  name_eq := by
    unfold DataType.reported
    rcases p.typeName with _ | name
    · rfl
    · cases hname : name.isEmpty <;> simp [Option.filter, hname]
  code_eq := rfl
  kind_eq := rfl

variable (s) in
/-- Begun in `w`, the type of a reported parameter is found, which leaves the world `w'`. -/
inductive TypedAs (p : ReportedParameter) (w : σ) : DataType → σ → Prop where
  /-- It has no name to look up. -/
  | unnamed {t : DataType} : p.typeName.getD "" = "" → p.IsCoarse t → TypedAs p w t w
  /-- The data source knows a type of its name. -/
  | known {name : String} {t : DataType} {w' : σ} {notes : List Note} : p.typeName = some name →
      name ≠ "" → (s.localType name).Gives w (some t) w' notes → TypedAs p w t w'
  /-- The data source knows none. -/
  | missed {name : String} {t : DataType} {w' : σ} {notes : List Note} : p.typeName = some name →
      name ≠ "" → (s.localType name).Gives w none w' notes → p.IsCoarse t → TypedAs p w t w'
  /-- The data source fails. -/
  | failed {name : String} {t : DataType} {w' : σ} {notes : List Note} {fault : Fault} :
      p.typeName = some name → name ≠ "" → (s.localType name).Fails w fault w' notes →
      p.IsCoarse t → TypedAs p w t w'

/-- The type of a reported parameter is found in one of these ways. -/
theorem reportedType_gives {p : ReportedParameter} {w w' : σ} {t : DataType}
    {j : List (Event ν π)} (h : (reportedType s p).Gives w t w' j) : TypedAs s p w t w' := by
  have hcoarse := isCoarse_reported p
  unfold reportedType at h
  cases hname : p.typeName with
  | none =>
    rw [hname] at h hcoarse
    obtain ⟨rfl, rfl, -⟩ := gives_pure.mp h
    exact .unnamed (by rw [hname]; rfl) hcoarse
  | some name =>
    rw [hname] at h hcoarse
    dsimp only at h
    split at h
    case isTrue hempty =>
      obtain ⟨rfl, rfl, -⟩ := gives_pure.mp h
      exact .unnamed (by rw [hname]; simpa using hempty) hcoarse
    case isFalse hfull =>
      have hne : name ≠ "" := by simpa using hfull
      obtain ⟨r, w₁, j₁, j₂, hattempt, hrest, -⟩ := gives_bind.mp h
      cases r with
      | error fault =>
        obtain ⟨notes, hfails, -⟩ := ends_asked.mp (gives_attempt_error.mp hattempt).2
        obtain ⟨_, w₂, _, _, hlogged, hpure, -⟩ := gives_bind.mp hrest
        obtain ⟨rfl, -⟩ := gives_record.mp hlogged
        obtain ⟨rfl, rfl, -⟩ := gives_pure.mp hpure
        exact .failed hname hne hfails hcoarse
      | ok found =>
        obtain ⟨notes, hgives, -⟩ := ends_asked.mp (gives_attempt_ok.mp hattempt)
        obtain ⟨rfl, rfl, -⟩ := gives_pure.mp hrest
        cases found with
        | none => exact .missed hname hne hgives hcoarse
        | some t => exact .known hname hne hgives

/-! ### What the columns take from the sources -/

/-- A column of paired sides: the name and the type of what the catalog declares at a place, and the
ordinal of what the driver reports there. -/
def Pairs (catalog : CatalogSource) (report : ReportSource) (place : Nat) (c : OutputColumn) :
    Prop :=
  ∃ declared reported, catalog.items[place]? = some declared ∧
    report.outputs[place]? = some reported ∧ c.name = declared.name ∧
    c.dataType = declared.dataType ∧ c.sourceOrdinal = reported.ordinal

/-- A column of the catalog alone: the name and the type of what it declares at a place, read from
the ordinal after it. -/
def Declares (catalog : CatalogSource) (place : Nat) (c : OutputColumn) : Prop :=
  ∃ declared, catalog.items[place]? = some declared ∧ c.name = declared.name ∧
    c.dataType = declared.dataType ∧ c.sourceOrdinal = place + 1

variable (s) in
/-- Columns of the driver alone, begun in `w`: each is named by the ordinal of what is reported at
its place, read from there, and has the type that is found for it, one after the other. -/
inductive Reports (report : ReportSource) : σ → List Nat → List OutputColumn → Prop where
  /-- There are no more. -/
  | nil (w : σ) : Reports report w [] []
  /-- The type of the first is found before those of the others. -/
  | cons {w w' : σ} {place : Nat} {places : List Nat} {p : ReportedParameter} {c : OutputColumn}
      {columns : List OutputColumn} : report.outputs[place]? = some p →
      c.name = toString p.ordinal → c.sourceOrdinal = p.ordinal → TypedAs s p w c.dataType w' →
      Reports report w' places columns → Reports report w (place :: places) (c :: columns)

/-- The driver reports an output that is no cursor at a place. -/
def PlainAt (d : Dialect) (report : ReportSource) (place : Nat) : Prop :=
  ∃ p, report.outputs[place]? = some p ∧ isCursor d p = false

variable (s) in
/-- Begun in `w`, the two sides go together to columns. -/
inductive Merges (catalog : CatalogSource) (report : ReportSource) (w : σ) :
    ReconcileOutcome → List OutputColumn → Prop where
  /-- Neither side told anything. -/
  | unavailable : catalog.isAvailable = false → report.isAvailable = false →
      Merges catalog report w .unavailable []
  /-- Both sides told of equally many outputs: those that are no cursors are paired. -/
  | matched {places : List Nat} {columns : List OutputColumn} : catalog.isAvailable = true →
      report.isAvailable = true → catalog.items.length = report.outputs.length →
      IsAscending (PlainAt s.dialect report) places →
      List.Forall₂ (Pairs catalog report) places columns →
      Merges catalog report w .matched columns
  /-- Only the catalog told anything. -/
  | catalogOnly {columns : List OutputColumn} : catalog.isAvailable = true →
      report.isAvailable = false →
      List.Forall₂ (Declares catalog) (List.range catalog.items.length) columns →
      Merges catalog report w .catalogOnly columns
  /-- The sides disagree on the number of outputs. -/
  | countMismatch {columns : List OutputColumn} : catalog.isAvailable = true →
      report.isAvailable = true → catalog.items.length ≠ report.outputs.length →
      List.Forall₂ (Declares catalog) (List.range catalog.items.length) columns →
      Merges catalog report w .countMismatch columns
  /-- Only the driver told anything: its outputs that are no cursors are the columns. -/
  | driverOnly {places : List Nat} {columns : List OutputColumn} : catalog.isAvailable = false →
      report.isAvailable = true → IsAscending (PlainAt s.dialect report) places →
      Reports s report w places columns → Merges catalog report w .driverOnly columns

theorem forall₂_pairs {catalog : CatalogSource} {report : ReportSource}
    (h : catalog.items.length = report.outputs.length) :
    ∃ places, IsAscending (PlainAt s.dialect report) places ∧
      List.Forall₂ (Pairs catalog report) places
        (placed (matchedDrafts s.dialect catalog.items report.outputs)) := by
  obtain ⟨places, hplaces, hkept⟩ := exists_places
    (fun pair : Parameter × ReportedParameter => !isCursor s.dialect pair.2)
    (catalog.items.zip report.outputs)
  refine ⟨places, ⟨hplaces.sorted, fun place => (hplaces.mem_iff place).trans ?_⟩, ?_⟩
  · -- the lists are equally long, so what is reported at a place has its partner there
    simp only [List.getElem?_zip_eq_some, Bool.not_eq_true', PlainAt]
    constructor
    · rintro ⟨pair, ⟨-, hreported⟩, hplain⟩
      exact ⟨pair.2, hreported, hplain⟩
    · rintro ⟨p, hreported, hplain⟩
      have hlt : place < catalog.items.length := by
        rw [h]
        exact (List.getElem?_eq_some_iff.mp hreported).1
      exact ⟨(catalog.items[place], p), ⟨List.getElem?_eq_getElem hlt, hreported⟩, hplain⟩
  · refine forall₂_placed (S := fun place d => ∃ declared reported,
      catalog.items[place]? = some declared ∧ report.outputs[place]? = some reported ∧
        d = ⟨declared.name, declared.dataType, reported.ordinal⟩) ?_ ?_
    · rintro place d index ⟨declared, reported, hdeclared, hreported, rfl⟩
      exact ⟨declared, reported, hdeclared, hreported, rfl, rfl, rfl⟩
    · unfold matchedDrafts
      rw [List.forall₂_map_right_iff]
      refine hkept.imp fun place pair hpair => ?_
      obtain ⟨hdeclared, hreported⟩ := List.getElem?_zip_eq_some.mp hpair
      exact ⟨pair.1, pair.2, hdeclared, hreported, rfl⟩

theorem forall₂_declares (catalog : CatalogSource) :
    List.Forall₂ (Declares catalog) (List.range catalog.items.length)
      (placed (catalogDrafts catalog.items)) := by
  refine forall₂_placed (S := fun place d => ∃ declared, catalog.items[place]? = some declared ∧
    d = ⟨declared.name, declared.dataType, (place + 1 : Nat)⟩) ?_ ?_
  · rintro place d index ⟨declared, hdeclared, rfl⟩
    exact ⟨declared, hdeclared, rfl, rfl, by simp⟩
  · refine List.forall₂_iff_get.mpr ⟨by simp [catalogDrafts], fun place hplace hdraft => ?_⟩
    have hlt : place < catalog.items.length := by simpa using hplace
    refine ⟨catalog.items[place], by simp [hlt], ?_⟩
    simp [catalogDrafts, Nat.add_comm]

/-- The types are found one after the other, in the order of the columns. -/
theorem reports_of_types {report : ReportSource} {places : List Nat}
    {plain : List ReportedParameter} {types : List DataType} {w w' : σ} {j : List (Event ν π)}
    (hplain : List.Forall₂ (fun place p => report.outputs[place]? = some p) places plain)
    (htypes : (forEach (reportedType s) plain).Gives w types w' j) :
    Reports s report w places (placed (List.zipWith driverDraft plain types)) := by
  unfold placed
  generalize 0 = start
  induction hplain generalizing w types j start with
  | nil =>
    obtain ⟨rfl, -, -⟩ := gives_pure.mp htypes
    exact .nil w
  | @cons place p places plain hp hrest ih =>
    rw [forEach_cons] at htypes
    obtain ⟨t, w₁, j₁, j₂, htype, hlater, -⟩ := gives_bind.mp htypes
    obtain ⟨rest, w₂, j₃, j₄, hothers, hpure, -⟩ := gives_bind.mp hlater
    obtain ⟨rfl, rfl, -⟩ := gives_pure.mp hpure
    rw [List.zipWith_cons_cons, List.zipIdx_cons, List.map_cons]
    exact .cons hp (Numeral.ofList_text p.ordinal) rfl (reportedType_gives htype)
      (ih hothers (start + 1))

theorem Reconciles.merges {catalog : CatalogSource} {report : ReportSource} {w : σ}
    {r : Reconciliation} (h : Reconciles s catalog report w r) :
    Merges s catalog report w r.outcome r.columns := by
  cases h with
  | unavailable hcatalog hreport => exact .unavailable hcatalog hreport
  | matched hcatalog hreport hlength =>
    obtain ⟨places, hplaces, hcolumns⟩ := forall₂_pairs (s := s) hlength
    exact .matched hcatalog hreport hlength hplaces hcolumns
  | catalogOnly hcatalog hreport => exact .catalogOnly hcatalog hreport (forall₂_declares catalog)
  | driverOnly hcatalog hreport htypes =>
    obtain ⟨places, hplaces, hplain⟩ :=
      exists_places (fun p => !isCursor s.dialect p) report.outputs
    refine .driverOnly hcatalog hreport ⟨hplaces.sorted, fun place => ?_⟩
      (reports_of_types hplain htypes)
    simpa [PlainAt] using hplaces.mem_iff place
  | countMismatch hcatalog hreport hlength =>
    exact .countMismatch hcatalog hreport hlength (forall₂_declares catalog)

/-- The columns of every reconciliation are placed 0, 1, 2, …. -/
theorem Reconciles.map_localIndex {catalog : CatalogSource} {report : ReportSource} {w : σ}
    {r : Reconciliation} (h : Reconciles s catalog report w r) :
    r.columns.map (·.localIndex) = (List.range r.columns.length).map Int.ofNat := by
  cases h with
  | unavailable => rfl
  | _ => exact map_localIndex_placed _

/-- **The columns of every reconciliation.** Whatever the two sides told, and whichever look-ups of
local types fail or find nothing, they go together in the way that `Merges` tells for what is
available and for the numbers of outputs, and the columns are placed 0, 1, 2, … in their order. -/
theorem reconcile_merges (hlocal : ∀ name, (s.localType name).Uninterrupted)
    (catalog : CatalogSource) (report : ReportSource) (w : σ) :
    ∃ outcome columns w' j, (reconcile s catalog report).Gives w ⟨outcome, columns⟩ w' j ∧
      Merges s catalog report w outcome columns ∧
      columns.map (·.localIndex) = (List.range columns.length).map Int.ofNat := by
  obtain ⟨r, w', j, hgives⟩ := completes_reconcile hlocal catalog report w
  have hr := reconcile_gives hgives
  exact ⟨r.outcome, r.columns, w', j, hgives, hr.merges, hr.map_localIndex⟩

/-- A data source with cursors apart that knows one type, fails for a second name and finds nothing
under others. -/
def fewTypes : Session Unit Unit Unit :=
  { Session.refusing ⟨".", "\"", .upper, true⟩ (.tool .catalog "gone") with
    localType := fun name =>
      if name = "money" then pure (some ⟨"numeric", 2, .numeric⟩)
      else if name = "point" then Action.fail (.tool .catalog "gone")
      else pure none }

theorem uninterrupted_fewTypes (name : String) : (fewTypes.localType name).Uninterrupted := by
  unfold fewTypes
  dsimp only
  split
  · exact (completes_pure _).uninterrupted
  · split
    · exact uninterrupted_fail rfl
    · exact (completes_pure _).uninterrupted

/-- A report of five outputs, the second of which is a cursor, and of one input. -/
def fiveOutputs : ReportSource :=
  .available [⟨1, .output, 2, some "money"⟩, ⟨2, .output, 2012, some "refcursor"⟩,
    ⟨4, .both, 1111, some "point"⟩, ⟨5, .input, 4, none⟩, ⟨6, .result, 4, some "int9"⟩,
    ⟨9, .output, 91, none⟩]

/-- The outputs that are no cursors become the columns 0 to 3, typed by a local type, and coarsely
after a failure, after a miss and without a name. -/
theorem reported_columns_merged :
    (∀ name, (fewTypes.localType name).Uninterrupted) ∧
    ∃ columns w' j, (reconcile fewTypes (.unavailable "procedure not resolved") fiveOutputs).Gives ()
        ⟨.driverOnly, columns⟩ w' j ∧
      columns = [⟨"1", ⟨"numeric", 2, .numeric⟩, 0, 1⟩, ⟨"4", ⟨"point", 1111, .object⟩, 1, 4⟩,
        ⟨"6", ⟨"int9", 4, .numeric⟩, 2, 6⟩, ⟨"9", ⟨"datetime", 91, .datetime⟩, 3, 9⟩] ∧
      Merges fewTypes (.unavailable "procedure not resolved") fiveOutputs () .driverOnly columns ∧
      columns.map (·.localIndex) = (List.range columns.length).map Int.ofNat := by
  obtain ⟨outcome, columns, w', j, hgives, hmerges, hindex⟩ := reconcile_merges
    uninterrupted_fewTypes (.unavailable "procedure not resolved") fiveOutputs ()
  have hrun : ((reconcile fewTypes (.unavailable "procedure not resolved") fiveOutputs).run
      ()).result.toOption =
        some ⟨.driverOnly, [⟨"1", ⟨"numeric", 2, .numeric⟩, 0, 1⟩,
          ⟨"4", ⟨"point", 1111, .object⟩, 1, 4⟩, ⟨"6", ⟨"int9", 4, .numeric⟩, 2, 6⟩,
          ⟨"9", ⟨"datetime", 91, .datetime⟩, 3, 9⟩]⟩ := by decide +kernel
  rw [hgives.result] at hrun
  obtain ⟨rfl, rfl⟩ := Reconciliation.mk.inj (Option.some.inj hrun)
  exact ⟨uninterrupted_fewTypes, _, w', j, hgives, rfl, hmerges, hindex⟩

end ProcedureCall
