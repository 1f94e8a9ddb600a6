import ProcedureCall.Plan.Source
import ProcedureCall.Proofs.Catalog.LookUp

/-!
# What a source says of the request behind it

Each side is asked once for its source, and the source is a function of how that request ended:
`ReportSource.ofResult` for the driver and `CatalogSource.ofRead` for the catalog. Both are asked to
the end whatever the request does, short of an interrupt.
-/

namespace ProcedureCall

open ProcedureCall.Action

variable {σ ν π : Type} {s : Session σ ν π} {call : DriverCall σ}

/-! ### Numbering -/

/-- The places 1 to `k`. -/
def numbered (k : Nat) : List Int := (List.range' 1 k).map fun slot : Nat => (slot : Int)

theorem mem_numbered {k : Nat} {slot : Int} : slot ∈ numbered k ↔ 1 ≤ slot ∧ slot ≤ k := by
  simp only [numbered, List.mem_map, List.mem_range'_1]
  constructor
  · rintro ⟨i, hi, rfl⟩
    omega
  · rintro ⟨hlow, hhigh⟩
    exact ⟨slot.toNat, by omega, by omega⟩

/-- A list numbered from 1 has these places. -/
theorem map_zipIdx_one {α : Type} (items : List α) :
    (items.zipIdx 1).map (fun x => (x.2 : Int)) = numbered items.length := by
  calc (items.zipIdx 1).map (fun x => (x.2 : Int))
      = ((items.zipIdx 1).map Prod.snd).map fun slot : Nat => (slot : Int) := by
        rw [List.map_map]; rfl
    _ = numbered items.length := by rw [List.zipIdx_map_snd]; rfl

/-! ### The driver's side -/

theorem pairwise_byOrdinal (parameters : List ReportedParameter) :
    (byOrdinal parameters).Pairwise fun p q => p.ordinal ≤ q.ordinal := by
  refine (List.pairwise_mergeSort (fun p q r => ?_) (fun p q => ?_) parameters).imp
    fun h => of_decide_eq_true h
  · simp only [decide_eq_true_eq]
    exact Int.le_trans
  · simp only [Bool.or_eq_true, decide_eq_true_eq]
    exact Int.le_total _ _

/-- The source that an answer of the driver makes. -/
def ReportSource.ofResult : Except Fault (Option (List ReportedParameter)) → ReportSource
  | .error fault => .unavailable fault.message
  | .ok none => .unavailable "driver reports no metadata"
  | .ok (some parameters) => .available (byOrdinal parameters)

/-- The source is the one that the driver's answer makes. -/
theorem reportSource_gives {w w' : σ} {report : ReportSource} {j : List (Event ν π)}
    (h : (reportSource call).Gives w report w' j) :
    report = ReportSource.ofResult (call.report.run w).result := by
  obtain ⟨r, w₁, j₁, j₂, hattempt, hrest, -⟩ := gives_bind.mp h
  cases r with
  | error fault =>
    obtain ⟨notes, hreport, -⟩ := ends_asked.mp (gives_attempt_error.mp hattempt).2
    obtain ⟨_, _, _, _, -, hpure, -⟩ := gives_bind.mp hrest
    rw [hreport.result]
    exact (gives_pure.mp hpure).1
  | ok told =>
    obtain ⟨notes, hreport, -⟩ := ends_asked.mp (gives_attempt_ok.mp hattempt)
    rw [hreport.result]
    cases told with
    | none => exact (gives_pure.mp hrest).1
    | some parameters => exact (gives_pure.mp hrest).1

/-- An answer with parameters becomes their source. -/
theorem reportSource_gives_of_told {w w' : σ} {l : List ReportedParameter} {notes : List Note}
    (h : call.report.Gives w (some l) w' notes) :
    (reportSource call : Action σ (Event ν π) ReportSource).Gives w (.available (byOrdinal l)) w'
      ((notes.map .note ++ [.reportAsked]) ++ []) :=
  (gives_attempt_ok.mpr (ends_asked.mpr ⟨notes, h, rfl⟩)).bind (pure_gives _ w')

theorem ReportSource.isAvailable_ofResult
    (r : Except Fault (Option (List ReportedParameter))) :
    (ReportSource.ofResult r).isAvailable = false ↔ (∃ fault, r = .error fault) ∨ r = .ok none := by
  rcases r with fault | _ | parameters <;> simp [ReportSource.ofResult, Source.isAvailable]

theorem completes_reportSource (hreport : call.report.Uninterrupted) :
    (reportSource call : Action σ (Event ν π) ReportSource).Completes := by
  refine (uninterrupted_asked _ hreport).completes_attempt.bind fun r => ?_
  rcases r with fault | _ | parameters
  · exact (completes_record _).bind fun _ => completes_pure _
  · exact completes_pure _
  · exact completes_pure _

theorem does_reportSource {P : σ → List (Event ν π) → σ → Prop} (hP : Quiet P)
    (hreport : Does P call.askReport) : Does P (reportSource call) := by
  refine hreport.attempt.bind hP.toChains fun r => ?_
  rcases r with fault | _ | parameters
  · exact (hP.does_remark rfl).bind hP.toChains fun _ => does_pure hP.toChains _
  · exact does_pure hP.toChains _
  · exact does_pure hP.toChains _

/-! ### The catalog's side -/

/-- The parameters of a list whose values come out. -/
def declaredOutputs (parameters : List Parameter) : List Parameter :=
  parameters.filter fun p => p.direction.isOutput

/-- The source that a read of the parameters makes. -/
def CatalogSource.ofRead : Except Fault (List Parameter) → CatalogSource
  | .error fault => .unavailable fault.message
  | .ok parameters => .available (declaredOutputs parameters)

/-- Without a procedure there is nothing to read. -/
theorem catalogSource_none {w w' : σ} {catalog : CatalogSource} {j : List (Event ν π)}
    (h : (catalogSource s none).Gives w catalog w' j) :
    catalog = .unavailable "procedure not resolved" :=
  (gives_pure.mp h).1

/-- With one, the source is the one that the read of its parameters makes. -/
theorem catalogSource_some {procedure : π} {w w' : σ} {catalog : CatalogSource}
    {j : List (Event ν π)} (h : (catalogSource s (some procedure)).Gives w catalog w' j) :
    catalog = CatalogSource.ofRead ((s.parameters procedure).run w).result := by
  obtain ⟨r, w₁, j₁, j₂, hattempt, hrest, -⟩ := gives_bind.mp h
  cases r with
  | error fault =>
    obtain ⟨notes, hread, -⟩ := ends_asked.mp (gives_attempt_error.mp hattempt).2
    obtain ⟨_, _, _, _, -, hpure, -⟩ := gives_bind.mp hrest
    rw [hread.result]
    exact (gives_pure.mp hpure).1
  | ok parameters =>
    obtain ⟨notes, hread, -⟩ := ends_asked.mp (gives_attempt_ok.mp hattempt)
    rw [hread.result]
    exact (gives_pure.mp hrest).1

/-- Nothing is told of the catalog's side exactly when there is no procedure or the read of its
parameters fails. -/
theorem isAvailable_catalogSource {procedure : Option π} {w w' : σ} {catalog : CatalogSource}
    {j : List (Event ν π)} (h : (catalogSource s procedure).Gives w catalog w' j) :
    catalog.isAvailable = false ↔ procedure = none ∨
      ∃ found fault, procedure = some found ∧
        ((s.parameters found).run w).result = .error fault := by
  cases procedure with
  | none =>
    rw [catalogSource_none h]
    simp [Source.isAvailable]
  | some found =>
    rw [catalogSource_some h]
    cases hread : ((s.parameters found).run w).result with
    | error fault => simp [CatalogSource.ofRead, Source.isAvailable, hread]
    | ok parameters => simp [CatalogSource.ofRead, Source.isAvailable, hread]

theorem completes_catalogSource (hs : s.Uninterrupted) (procedure : Option π) :
    (catalogSource s procedure).Completes := by
  cases procedure with
  | none => exact completes_pure _
  | some procedure =>
    refine (uninterrupted_asked _ (hs.parameters procedure)).completes_attempt.bind fun r => ?_
    cases r with
    | error fault => exact (completes_record _).bind fun _ => completes_pure _
    | ok parameters => exact completes_pure _

theorem does_catalogSource {P : σ → List (Event ν π) → σ → Prop} (hP : Quiet P)
    (hparameters : ∀ procedure, Does P (s.askParameters procedure)) (procedure : Option π) :
    Does P (catalogSource s procedure) := by
  cases procedure with
  | none => exact does_pure hP.toChains _
  | some procedure =>
    refine (hparameters procedure).attempt.bind hP.toChains fun r => ?_
    cases r with
    | error fault => exact (hP.does_remark rfl).bind hP.toChains fun _ => does_pure hP.toChains _
    | ok parameters => exact does_pure hP.toChains _

end ProcedureCall
