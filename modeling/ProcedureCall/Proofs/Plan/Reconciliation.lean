import ProcedureCall.Plan.Reconciliation
import ProcedureCall.Proofs.Plan.Source

/-!
# How the two sides go together

The ways in which `reconcile` ends are the constructors of `Reconciles`, one for each outcome, with
the columns that come of it. The columns of the driver alone need a type for each of them, so only
that way asks anything.

## What is proved

* `driverDrafts_gives` — the columns of the driver alone are its outputs that are no cursors, each
  with the type that was found for it.
* `reconcile_gives` — every run of `reconcile` is one of `Reconciles`.
* `Reconciles.map_sourceOrdinal` — the places that the columns are read from, by outcome.
* `completes_reconcile` — `reconcile` always comes to an end.
-/

namespace ProcedureCall

open ProcedureCall.Action

variable {σ ν π : Type} {s : Session σ ν π}

/-! ### Columns and their drafts -/

/-- Placing drafts changes neither their types nor the places they are read from. -/
theorem map_placed {β : Type} (f : DataType → Int → β) (drafts : List ColumnDraft) :
    (placed drafts).map (fun c => f c.dataType c.sourceOrdinal) =
      drafts.map fun d => f d.dataType d.sourceOrdinal := by
  calc (placed drafts).map (fun c => f c.dataType c.sourceOrdinal)
      = (drafts.zipIdx.map Prod.fst).map fun d => f d.dataType d.sourceOrdinal := by
        rw [placed, List.map_map, List.map_map]; rfl
    _ = drafts.map fun d => f d.dataType d.sourceOrdinal := by rw [List.zipIdx_map_fst]

theorem forall_mem_placed {drafts : List ColumnDraft} {P : DataType → Int → Prop} :
    (∀ c ∈ placed drafts, P c.dataType c.sourceOrdinal) ↔
      ∀ d ∈ drafts, P d.dataType d.sourceOrdinal := by
  have h : (∀ p ∈ (placed drafts).map (fun c => P c.dataType c.sourceOrdinal), p) ↔
      ∀ p ∈ drafts.map (fun d => P d.dataType d.sourceOrdinal), p := by rw [map_placed]
  rwa [List.forall_mem_map, List.forall_mem_map] at h

/-! ### One value for each element -/

theorem forEach_cons {ε α β : Type} (f : α → Action σ ε β) (a : α) (as : List α) :
    forEach f (a :: as) = f a >>= fun b => forEach f as >>= fun bs => pure (b :: bs) := rfl

theorem length_of_forEach {ε α β : Type} {f : α → Action σ ε β} {as : List α} {w w' : σ}
    {bs : List β} {j : List ε} (h : (forEach f as).Gives w bs w' j) : bs.length = as.length := by
  induction as generalizing w w' bs j with
  | nil =>
    obtain ⟨rfl, -, -⟩ := gives_pure.mp h
    rfl
  | cons a as ih =>
    rw [forEach_cons] at h
    obtain ⟨b, w₁, j₁, j₂, -, hrest, -⟩ := gives_bind.mp h
    obtain ⟨rest, w₂, j₃, j₄, htail, hpure, -⟩ := gives_bind.mp hrest
    obtain ⟨rfl, -, -⟩ := gives_pure.mp hpure
    rw [List.length_cons, List.length_cons, ih htail]

/-! ### The driver's columns -/

/-- The outputs of a report that become columns of the driver alone. -/
def plainOutputs (d : Dialect) (report : ReportSource) : List ReportedParameter :=
  report.outputs.filter fun p => !isCursor d p

/-- The column of a reported parameter of a type. -/
def driverDraft (p : ReportedParameter) (dataType : DataType) : ColumnDraft :=
  ⟨String.ofList (Numeral.text p.ordinal), dataType, p.ordinal⟩

/-- The columns of the driver alone are its parameters that are no cursors, each with the type that
was found for it. -/
theorem driverDrafts_gives {reported : List ReportedParameter} {w w' : σ}
    {drafts : List ColumnDraft} {j : List (Event ν π)}
    (h : (driverDrafts s reported).Gives w drafts w' j) :
    ∃ types, (forEach (reportedType s) (reported.filter fun p => !isCursor s.dialect p)).Gives
        w types w' j ∧
      drafts =
        List.zipWith driverDraft (reported.filter fun p => !isCursor s.dialect p) types := by
  induction reported generalizing w drafts j with
  | nil =>
    obtain ⟨rfl, rfl, rfl⟩ := gives_pure.mp h
    exact ⟨[], gives_pure.mpr ⟨rfl, rfl, rfl⟩, rfl⟩
  | cons p reported ih =>
    unfold driverDrafts at h
    split at h
    case isTrue hcursor =>
      rw [List.filter_cons_of_neg (by simp [hcursor])]
      exact ih h
    case isFalse hplain =>
      rw [List.filter_cons_of_pos (by simpa using hplain), forEach_cons]
      obtain ⟨dataType, w₁, j₁, j₂, htype, hrest, rfl⟩ := gives_bind.mp h
      obtain ⟨rest, w₂, j₃, j₄, hdrafts, hpure, rfl⟩ := gives_bind.mp hrest
      obtain ⟨rfl, rfl, rfl⟩ := gives_pure.mp hpure
      obtain ⟨types, htypes, rfl⟩ := ih hdrafts
      refine ⟨dataType :: types, ?_, rfl⟩
      exact gives_bind.mpr ⟨_, _, _, _, htype, gives_bind.mpr ⟨_, _, _, _, htypes,
        gives_pure.mpr ⟨rfl, rfl, rfl⟩, rfl⟩, rfl⟩

theorem completes_reportedType (hlocal : ∀ name, (s.localType name).Uninterrupted)
    (p : ReportedParameter) :
    (reportedType s p).Completes := by
  unfold reportedType
  rcases p.typeName with _ | name
  · exact completes_pure _
  · dsimp only
    split
    · exact completes_pure _
    · refine (uninterrupted_asked _ (hlocal name)).completes_attempt.bind fun r => ?_
      cases r with
      | error fault => exact (completes_record _).bind fun _ => completes_pure _
      | ok found => exact completes_pure _

theorem completes_driverDrafts (hlocal : ∀ name, (s.localType name).Uninterrupted)
    (reported : List ReportedParameter) :
    (driverDrafts s reported).Completes := by
  induction reported with
  | nil => exact completes_pure _
  | cons p reported ih =>
    unfold driverDrafts
    split
    · exact ih
    · exact (completes_reportedType hlocal p).bind fun _ => ih.bind fun _ => completes_pure _

theorem does_driverDrafts {P : σ → List (Event ν π) → σ → Prop} (hP : Quiet P)
    (hlocal : ∀ name, Does P (s.askLocalType name)) (reported : List ReportedParameter) :
    Does P (driverDrafts s reported) := by
  have htype : ∀ r, Does P (reportedType s r) := by
    intro r
    unfold reportedType
    rcases r.typeName with _ | name
    · exact does_pure hP.toChains _
    · dsimp only
      split
      · exact does_pure hP.toChains _
      · refine (hlocal name).attempt.bind hP.toChains fun r => ?_
        cases r with
        | error fault =>
          exact (hP.does_remark rfl).bind hP.toChains fun _ => does_pure hP.toChains _
        | ok found => exact does_pure hP.toChains _
  induction reported with
  | nil => exact does_pure hP.toChains _
  | cons r reported ih =>
    unfold driverDrafts
    split
    · exact ih
    · exact (htype r).bind hP.toChains fun _ => ih.bind hP.toChains fun _ =>
        does_pure hP.toChains _

/-! ### The ways the sides go together -/

variable (s) in
/-- Begun in `w`, the two sides go together to a reconciliation. -/
inductive Reconciles (catalog : CatalogSource) (report : ReportSource) (w : σ) :
    Reconciliation → Prop where
  /-- Neither side told anything. -/
  | unavailable : catalog.isAvailable = false → report.isAvailable = false →
      Reconciles catalog report w ⟨.unavailable, []⟩
  /-- Both sides told of equally many outputs. -/
  | matched : catalog.isAvailable = true → report.isAvailable = true →
      catalog.items.length = report.outputs.length →
      Reconciles catalog report w
        ⟨.matched, placed (matchedDrafts s.dialect catalog.items report.outputs)⟩
  /-- Only the catalog told anything. -/
  | catalogOnly : catalog.isAvailable = true → report.isAvailable = false →
      Reconciles catalog report w ⟨.catalogOnly, placed (catalogDrafts catalog.items)⟩
  /-- Only the driver told anything, and a type was found for each of its plain outputs. -/
  | driverOnly {types : List DataType} {w' : σ} {j : List (Event ν π)} :
      catalog.isAvailable = false → report.isAvailable = true →
      (forEach (reportedType s) (plainOutputs s.dialect report)).Gives w types w' j →
      Reconciles catalog report w
        ⟨.driverOnly, placed (List.zipWith driverDraft (plainOutputs s.dialect report) types)⟩
  /-- The sides disagree on the number of outputs. -/
  | countMismatch : catalog.isAvailable = true → report.isAvailable = true →
      catalog.items.length ≠ report.outputs.length →
      Reconciles catalog report w ⟨.countMismatch, placed (catalogDrafts catalog.items)⟩

/-- Every reconciliation comes about in one of these ways. -/
theorem reconcile_gives {catalog : CatalogSource} {report : ReportSource} {w w' : σ}
    {r : Reconciliation} {j : List (Event ν π)}
    (h : (reconcile s catalog report).Gives w r w' j) : Reconciles s catalog report w r := by
  unfold reconcile at h
  rcases catalog with why | declared <;> rcases report with why' | reported
  · obtain ⟨_, w₁, j₁, j₂, -, hpure, -⟩ := gives_bind.mp h
    obtain ⟨rfl, -, -⟩ := gives_pure.mp hpure
    exact .unavailable rfl rfl
  · obtain ⟨drafts, w₁, j₁, j₂, hdrafts, hpure, -⟩ := gives_bind.mp h
    obtain ⟨rfl, -, -⟩ := gives_pure.mp hpure
    obtain ⟨types, htypes, rfl⟩ := driverDrafts_gives hdrafts
    exact .driverOnly rfl rfl htypes
  · obtain ⟨rfl, -, -⟩ := gives_pure.mp h
    exact .catalogOnly rfl rfl
  · dsimp only at h
    split at h
    case isTrue hlength =>
      obtain ⟨rfl, -, -⟩ := gives_pure.mp h
      exact .matched rfl rfl hlength
    case isFalse hlength =>
      obtain ⟨_, w₁, j₁, j₂, -, hpure, -⟩ := gives_bind.mp h
      obtain ⟨rfl, -, -⟩ := gives_pure.mp hpure
      exact .countMismatch rfl rfl hlength

/-- The outcome tells that neither side told anything, exactly when it is so. -/
theorem Reconciles.outcome_eq_unavailable_iff {catalog : CatalogSource} {report : ReportSource}
    {w : σ} {r : Reconciliation} (h : Reconciles s catalog report w r) :
    r.outcome = .unavailable ↔ catalog.isAvailable = false ∧ report.isAvailable = false := by
  cases h <;> simp_all

theorem Reconciles.columns_eq_nil {catalog : CatalogSource} {report : ReportSource} {w : σ}
    {r : Reconciliation} (h : Reconciles s catalog report w r) (hr : r.outcome = .unavailable) :
    r.columns = [] := by
  cases h with
  | unavailable => rfl
  | _ => cases hr

theorem Reconciles.isAvailable_report_of_catalogOnly {catalog : CatalogSource}
    {report : ReportSource} {w : σ} {r : Reconciliation} (h : Reconciles s catalog report w r)
    (hr : r.outcome = .catalogOnly) : report.isAvailable = false := by
  cases h with
  | catalogOnly _ hreport => exact hreport
  | _ => cases hr

/-! ### The places that columns are read from -/

/-- The places in the call that the columns are read from, by outcome. -/
def addressed (d : Dialect) (catalog : CatalogSource) (report : ReportSource) :
    ReconcileOutcome → List Int
  | .unavailable => []
  | .matched | .driverOnly => (plainOutputs d report).map (·.ordinal)
  | .catalogOnly | .countMismatch => numbered catalog.items.length

theorem map_sourceOrdinal_matchedDrafts (d : Dialect) {declared : List Parameter}
    {reported : List ReportedParameter} (h : declared.length = reported.length) :
    (matchedDrafts d declared reported).map (·.sourceOrdinal) =
      (reported.filter fun p => !isCursor d p).map (·.ordinal) := by
  calc (matchedDrafts d declared reported).map (·.sourceOrdinal)
      = (((declared.zip reported).filter ((fun p => !isCursor d p) ∘ Prod.snd)).map Prod.snd).map
          (·.ordinal) := by
        rw [matchedDrafts, List.map_map, List.map_map]; rfl
    _ = (((declared.zip reported).map Prod.snd).filter fun p => !isCursor d p).map (·.ordinal) := by
        rw [List.filter_map]
    _ = (reported.filter fun p => !isCursor d p).map (·.ordinal) := by
        rw [List.map_snd_zip (by omega)]

theorem map_sourceOrdinal_catalogDrafts (declared : List Parameter) :
    (catalogDrafts declared).map (·.sourceOrdinal) = numbered declared.length := by
  rw [← map_zipIdx_one, catalogDrafts, List.map_map]
  rfl

theorem map_sourceOrdinal_driverDrafts {reported : List ReportedParameter}
    {types : List DataType} (h : types.length = reported.length) :
    (List.zipWith driverDraft reported types).map (·.sourceOrdinal) = reported.map (·.ordinal) := by
  calc (List.zipWith driverDraft reported types).map (·.sourceOrdinal)
      = ((reported.zip types).map Prod.fst).map (·.ordinal) := by
        rw [← List.map_uncurry_zip_eq_zipWith, List.map_map, List.map_map]; rfl
    _ = reported.map (·.ordinal) := by rw [List.map_fst_zip (by omega)]

/-- The columns are read from the places of the driver's plain outputs if its report counts, and
from 1, 2, 3, … if the catalog alone does. -/
theorem Reconciles.map_sourceOrdinal {catalog : CatalogSource} {report : ReportSource} {w : σ}
    {r : Reconciliation} (h : Reconciles s catalog report w r) :
    r.columns.map (·.sourceOrdinal) = addressed s.dialect catalog report r.outcome := by
  cases h with
  | unavailable => rfl
  | matched _ _ hlength =>
    exact (map_placed (fun _ slot => slot) _).trans (map_sourceOrdinal_matchedDrafts _ hlength)
  | catalogOnly =>
    exact (map_placed (fun _ slot => slot) _).trans (map_sourceOrdinal_catalogDrafts _)
  | driverOnly _ _ htypes =>
    exact (map_placed (fun _ slot => slot) _).trans
      (map_sourceOrdinal_driverDrafts (length_of_forEach htypes))
  | countMismatch =>
    exact (map_placed (fun _ slot => slot) _).trans (map_sourceOrdinal_catalogDrafts _)

/-! ### The sides always go together -/

theorem completes_reconcile (hlocal : ∀ name, (s.localType name).Uninterrupted)
    (catalog : CatalogSource) (report : ReportSource) : (reconcile s catalog report).Completes := by
  unfold reconcile
  rcases catalog with why | declared <;> rcases report with why' | reported
  · exact (completes_record _).bind fun _ => completes_pure _
  · exact (completes_driverDrafts hlocal _).bind fun _ => completes_pure _
  · exact completes_pure _
  · dsimp only
    split
    · exact completes_pure _
    · exact (completes_record _).bind fun _ => completes_pure _

theorem does_reconcile {P : σ → List (Event ν π) → σ → Prop} (hP : Quiet P)
    (hlocal : ∀ name, Does P (s.askLocalType name)) (catalog : CatalogSource)
    (report : ReportSource) : Does P (reconcile s catalog report) := by
  unfold reconcile
  rcases catalog with why | declared <;> rcases report with why' | reported
  · exact (hP.does_remark rfl).bind hP.toChains fun _ => does_pure hP.toChains _
  · exact (does_driverDrafts hP hlocal _).bind hP.toChains fun _ => does_pure hP.toChains _
  · exact does_pure hP.toChains _
  · dsimp only
    split
    · exact does_pure hP.toChains _
    · exact (hP.does_remark rfl).bind hP.toChains fun _ => does_pure hP.toChains _

end ProcedureCall
