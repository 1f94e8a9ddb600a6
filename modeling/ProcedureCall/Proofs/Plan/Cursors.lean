import ProcedureCall.Proofs.Plan.Reconciliation

/-!
# Cursors among the columns

If cursors come back as result sets of their own, they should get no columns. The driver's report
is asked for them, so where the catalog's types decide a cursor can slip through.
`no_cursor_column_iff` says for each outcome exactly when none does.
-/

namespace ProcedureCall

open ProcedureCall.Action

variable {σ ν π : Type} {s : Session σ ν π}

/-- The driver reports a cursor at a place. -/
def Source.TellsCursor (report : ReportSource) (slot : Int) : Prop :=
  ∃ p ∈ report.outputs, p.ordinal = slot ∧ p.typeCode = TypeCode.refCursor.number

instance (report : ReportSource) (slot : Int) : Decidable (report.TellsCursor slot) :=
  inferInstanceAs (Decidable (∃ p ∈ report.outputs, _ ∧ _))

/-- The column stands for a cursor: it is typed as one, or the driver reports one at the place that
it is read from. -/
def OutputColumn.StandsForCursor (report : ReportSource) (c : OutputColumn) : Prop :=
  c.dataType.code = TypeCode.refCursor.number ∨ report.TellsCursor c.sourceOrdinal

theorem isCursor_iff {d : Dialect} (hd : d.multipleResults = true) {p : ReportedParameter} :
    isCursor d p = true ↔ p.typeCode = TypeCode.refCursor.number := by
  simp [isCursor, hd]

/-- For columns it is enough to look at their drafts. -/
theorem forall_placed_iff {report : ReportSource} {drafts : List ColumnDraft} :
    (∀ column ∈ placed drafts, ¬ column.StandsForCursor report) ↔
      ∀ d ∈ drafts, d.dataType.code ≠ TypeCode.refCursor.number ∧
        ¬ report.TellsCursor d.sourceOrdinal := by
  simp only [OutputColumn.StandsForCursor, not_or]
  exact forall_mem_placed (P := fun t slot => t.code ≠ TypeCode.refCursor.number ∧
    ¬ report.TellsCursor slot)

/-- Paired columns are free of cursors if the catalog types none of them as one, and the driver
reports none at their places. -/
theorem forall_matched_iff {d : Dialect} (hd : d.multipleResults = true) {report : ReportSource}
    {declared : List Parameter} {reported : List ReportedParameter} :
    (∀ column ∈ placed (matchedDrafts d declared reported), ¬ column.StandsForCursor report) ↔
      ∀ pair ∈ declared.zip reported, pair.2.typeCode ≠ TypeCode.refCursor.number →
        pair.1.dataType.code ≠ TypeCode.refCursor.number ∧
          ¬ report.TellsCursor pair.2.ordinal := by
  rw [forall_placed_iff, matchedDrafts, List.forall_mem_map]
  simp only [List.mem_filter, Bool.not_eq_true', ← Bool.not_eq_true, isCursor_iff hd, and_imp,
    ne_eq]

theorem forall_catalog_iff {report : ReportSource} {declared : List Parameter} :
    (∀ column ∈ placed (catalogDrafts declared), ¬ column.StandsForCursor report) ↔
      ∀ pair ∈ declared.zipIdx 1, pair.1.dataType.code ≠ TypeCode.refCursor.number ∧
        ¬ report.TellsCursor pair.2 := by
  rw [forall_placed_iff, catalogDrafts, List.forall_mem_map]

theorem forall_driver_iff {report : ReportSource} {reported : List ReportedParameter}
    {types : List DataType} (h : types.length = reported.length) :
    (∀ column ∈ placed (List.zipWith driverDraft reported types),
        ¬ column.StandsForCursor report) ↔
      (∀ t ∈ types, t.code ≠ TypeCode.refCursor.number) ∧
        ∀ p ∈ reported, ¬ report.TellsCursor p.ordinal := by
  have htypes : (List.zipWith driverDraft reported types).map (·.dataType) = types := by
    calc (List.zipWith driverDraft reported types).map (·.dataType)
        = (reported.zip types).map Prod.snd := by
          rw [← List.map_uncurry_zip_eq_zipWith, List.map_map]; rfl
      _ = types := List.map_snd_zip (by omega)
  have hcode := List.forall_mem_map (l := List.zipWith driverDraft reported types)
    (f := (·.dataType)) (P := fun t => t.code ≠ TypeCode.refCursor.number)
  have hplace := List.forall_mem_map (l := List.zipWith driverDraft reported types)
    (f := (·.sourceOrdinal)) (P := fun slot => ¬ report.TellsCursor slot)
  rw [htypes] at hcode
  rw [map_sourceOrdinal_driverDrafts h, List.forall_mem_map] at hplace
  rw [forall_placed_iff, hcode, hplace]
  exact ⟨fun hall => ⟨fun d hd => (hall d hd).1, fun d hd => (hall d hd).2⟩,
    fun hall d hd => ⟨hall.1 d hd, hall.2 d hd⟩⟩

/-- **When no column stands for a cursor.** If both sides told of equally many outputs: exactly when
the partner in the catalog of an output that is reported as something else is not typed as a cursor,
and no cursor is reported at the place of such an output. If the catalog's columns are used: exactly
when it types no output as a cursor and the driver reports none at the places that it counts. If the
driver's columns are used: exactly when the type found for an output that is no cursor is not a
cursor's, and again no cursor is reported at its place. -/
theorem no_cursor_column_iff (hd : s.dialect.multipleResults = true) {catalog : CatalogSource}
    {report : ReportSource} {w w' : σ} {r : Reconciliation} {j : List (Event ν π)}
    (h : (reconcile s catalog report).Gives w r w' j) :
    (∀ column ∈ r.columns, ¬ column.StandsForCursor report) ↔
      (r.outcome = .matched → ∀ pair ∈ catalog.items.zip report.outputs,
        pair.2.typeCode ≠ TypeCode.refCursor.number →
          pair.1.dataType.code ≠ TypeCode.refCursor.number ∧
            ¬ report.TellsCursor pair.2.ordinal) ∧
      (r.outcome = .catalogOnly ∨ r.outcome = .countMismatch →
        ∀ pair ∈ catalog.items.zipIdx 1,
          pair.1.dataType.code ≠ TypeCode.refCursor.number ∧ ¬ report.TellsCursor pair.2) ∧
      (r.outcome = .driverOnly →
        (∀ types w'' j', (forEach (reportedType s) (plainOutputs s.dialect report)).Gives
            w types w'' j' → ∀ t ∈ types, t.code ≠ TypeCode.refCursor.number) ∧
          ∀ p ∈ report.outputs, p.typeCode ≠ TypeCode.refCursor.number →
            ¬ report.TellsCursor p.ordinal) := by
  cases reconcile_gives h with
  | unavailable => simp
  | matched =>
    rw [forall_matched_iff hd]
    simp
  | catalogOnly =>
    rw [forall_catalog_iff]
    simp
  | countMismatch =>
    rw [forall_catalog_iff]
    simp
  | @driverOnly types w₁ k _ _ htypes =>
    -- the types are found in one way only, so those of the run are those of the statement
    have hfound : (∀ types w'' j', (forEach (reportedType s) (plainOutputs s.dialect report)).Gives
          w types w'' j' → ∀ t ∈ types, t.code ≠ TypeCode.refCursor.number) ↔
        ∀ t ∈ types, t.code ≠ TypeCode.refCursor.number := by
      constructor
      · exact fun hall => hall types w₁ k htypes
      · intro hall others w'' j' hothers
        obtain ⟨rfl, -, -⟩ := htypes.unique hothers
        exact hall
    have hplain : (∀ p ∈ plainOutputs s.dialect report, ¬ report.TellsCursor p.ordinal) ↔
        ∀ p ∈ report.outputs, p.typeCode ≠ TypeCode.refCursor.number →
          ¬ report.TellsCursor p.ordinal := by
      simp only [plainOutputs, List.mem_filter, Bool.not_eq_true', ← Bool.not_eq_true,
        isCursor_iff hd, and_imp, ne_eq]
    rw [forall_driver_iff (length_of_forEach htypes), hfound, hplain]
    simp

/-- A cursor that both sides know of gets no column, and the output beside it gets one. -/
theorem no_cursor_column_of_matched :
    ∃ (r : Reconciliation) (w' : Unit) (j : List (Event Unit Unit)),
      (reconcile (Session.refusing ⟨".", "\"", .upper, true⟩ .interrupt)
        (.available [⟨"a", ⟨"INTEGER", 4, .numeric⟩, .output, 0⟩,
          ⟨"c", ⟨"refcursor", 2012, .object⟩, .output, 1⟩])
        (.available [⟨1, .output, 4, none⟩, ⟨2, .output, 2012, none⟩])).Gives () r w' j ∧
      r.columns.map (·.name) = ["a"] ∧
      ∀ column ∈ r.columns, ¬ column.StandsForCursor
        (.available [⟨1, .output, 4, none⟩, ⟨2, .output, 2012, none⟩]) := by
  have hrun : (reconcile (Session.refusing ⟨".", "\"", .upper, true⟩ .interrupt :
        Session Unit Unit Unit)
      (.available [⟨"a", ⟨"INTEGER", 4, .numeric⟩, .output, 0⟩,
        ⟨"c", ⟨"refcursor", 2012, .object⟩, .output, 1⟩])
      (.available [⟨1, .output, 4, none⟩, ⟨2, .output, 2012, none⟩])).Gives ()
        ⟨.matched, [⟨"a", ⟨"INTEGER", 4, .numeric⟩, 0, 1⟩]⟩ () [] := rfl
  refine ⟨_, _, _, hrun, rfl, (no_cursor_column_iff rfl hrun).mpr ⟨fun _ => ?_, ?_, ?_⟩⟩
  · decide
  · rintro (hcatalogOnly | hmismatch)
    · cases hcatalogOnly
    · cases hmismatch
  · intro hdriverOnly
    cases hdriverOnly

/-- A cursor that only the catalog knows of gets a column. -/
theorem cursor_column_of_catalogOnly :
    ∃ (r : Reconciliation) (w' : Unit) (j : List (Event Unit Unit)),
      (reconcile (Session.refusing ⟨".", "\"", .upper, true⟩ .interrupt)
        (.available [⟨"c", ⟨"refcursor", 2012, .object⟩, .output, 0⟩])
        (.unavailable "driver reports no metadata")).Gives () r w' j ∧
      r.outcome = .catalogOnly ∧
      ¬ ∀ column ∈ r.columns,
        ¬ column.StandsForCursor (.unavailable "driver reports no metadata") := by
  refine ⟨⟨.catalogOnly, [⟨"c", ⟨"refcursor", 2012, .object⟩, 0, 1⟩]⟩, (), [], rfl, rfl, ?_⟩
  intro hnone
  exact hnone _ (List.mem_singleton.mpr rfl) (Or.inl rfl)

end ProcedureCall
