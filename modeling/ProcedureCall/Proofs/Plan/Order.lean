import Mathlib.Data.List.Nodup
import ProcedureCall.Proofs.Plan.Decision

/-!
# The order in which the driver tells its parameters

A driver tells its parameters in an order of its own. What is made of them follows their places, so
that a plan does not depend on that order as long as no two parameters have one place:
`planCall_of_reordered` compares the plan for one report with the plan for the same report in any
other order, from the same world, and finds the same run.
-/

namespace ProcedureCall

open ProcedureCall.Action

variable {σ ν π : Type} {s : Session σ ν π} {call : DriverCall σ}

/-! ### Reports in another order -/

/-- Parameters of which no two have one place are put into one order, whichever they come in. -/
theorem byOrdinal_of_perm {l l' : List ReportedParameter} (hnodup : (l.map (·.ordinal)).Nodup)
    (h : l'.Perm l) : byOrdinal l' = byOrdinal l := by
  have hsorted : ∀ k : List ReportedParameter, (byOrdinal k).Perm k := fun k =>
    List.mergeSort_perm k _
  refine List.Perm.eq_of_pairwise (fun p q hp hq hpq hqp => ?_) (pairwise_byOrdinal l')
    (pairwise_byOrdinal l) ((hsorted l').trans (h.trans (hsorted l).symm))
  -- two parameters that may stand either way have one place, so that they are one
  exact List.inj_on_of_nodup_map hnodup (h.mem_iff.mp ((hsorted l').mem_iff.mp hp))
    ((hsorted l).mem_iff.mp hq) (Int.le_antisymm hpq hqp)

/-- Two answers of drivers differ at most in the order of the parameters, of which no two have one
place. -/
inductive Reordered :
    Outcome σ Note (Option (List ReportedParameter)) →
    Outcome σ Note (Option (List ReportedParameter)) → Prop where
  /-- Both tell the same parameters. -/
  | told {l l' : List ReportedParameter} {w : σ} {notes : List Note} :
      (l.map (·.ordinal)).Nodup → l'.Perm l →
      Reordered ⟨.ok (some l), w, notes⟩ ⟨.ok (some l'), w, notes⟩
  /-- Neither tells any. -/
  | untold {answer : Outcome σ Note (Option (List ReportedParameter))} :
      (∀ l, answer.result ≠ .ok (some l)) → Reordered answer answer

variable {report : Action σ Note (Option (List ReportedParameter))}

/-- The source is the same for both answers, and asking for it leaves the same. -/
theorem run_reportSource_of_reordered {w : σ} (h : Reordered (call.report.run w) (report.run w)) :
    (reportSource { call with report } : Action σ (Event ν π) ReportSource).run w =
      (reportSource call : Action σ (Event ν π) ReportSource).run w := by
  generalize hleft : call.report.run w = answer at h
  generalize hright : report.run w = answer' at h
  cases h with
  | told hnodup hperm =>
    have hcall : (reportSource call : Action σ (Event ν π) ReportSource).Gives w _ _ _ :=
      reportSource_gives_of_told hleft
    have hother : (reportSource { call with report } :
        Action σ (Event ν π) ReportSource).Gives w _ _ _ := reportSource_gives_of_told hright
    rw [byOrdinal_of_perm hnodup hperm] at hother
    exact hother.trans hcall.symm
  | untold =>
    have hasked : ({ call with report }.askReport : Action σ (Event ν π) _).attempt.run w =
        call.askReport.attempt.run w := by
      refine run_eq_of_ends fun r w' j hends => ?_
      obtain ⟨result, hasked, rfl⟩ := ends_attempt.mp hends
      obtain ⟨notes, hreport, rfl⟩ := ends_asked.mp hasked
      exact ends_attempt.mpr
        ⟨result, ends_asked.mpr ⟨notes, hleft.trans (hright.symm.trans hreport), rfl⟩, rfl⟩
    exact run_bind_congr hasked fun _ _ _ _ => rfl

/-! ### The rest of the plan -/

/-- Only the registrations of a call matter for a registration. -/
theorem registerAll_with_report (slots : List (Int × Int)) :
    (registerAll { call with report } slots : Action σ (Event ν π) Unit) =
      registerAll call slots := by
  induction slots with
  | nil => rfl
  | cons place slots ih =>
    rw [registerAll, registerAll, ih]
    rfl

theorem registerOutputs_with_report (source : ReportSource) (procedure : Option π) :
    registerOutputs s { call with report } source procedure =
      registerOutputs s call source procedure := by
  have hreported : (registerReported { call with report } source : Action σ (Event ν π) Nat) =
      registerReported call source := by
    unfold registerReported
    simp only [registerAll_with_report]
  have hcatalog : ∀ error, registerFromCatalog s { call with report } procedure error =
      registerFromCatalog s call procedure error := by
    intro error
    unfold registerFromCatalog registerDeclared
    simp only [registerAll_with_report]
  unfold registerOutputs
  simp only [hreported, hcatalog]

/-- **The order of the report has no influence.** Let a driver be asked, wherever the look-up of the
procedure may lead to, and let it tell its parameters in another order, no two with one place. Then
the call is planned by the very same run: the same is told of the driver, the same places are
registered in the same order with the same answers, also where some are refused, and the same comes
of the registration and of the columns. -/
theorem planCall_of_reordered {text : Option String} {w : σ}
    (h : ∀ found v j, (s.find text).Gives w found v j →
      Reordered (call.report.run v) (report.run v)) :
    (planCall s { call with report } text).run w = (planCall s call text).run w := by
  rw [planCall_eq, planCall_eq]
  refine run_spanning_congr (run_bind_congr rfl fun found v j hfind => ?_)
  unfold planWith
  refine run_bind_congr (run_reportSource_of_reordered (h found v j hfind)) fun source _ _ _ => ?_
  rw [registerOutputs_with_report]

/-- A call that tells these parameters, takes the first place and refuses every other. -/
def DriverCall.telling (parameters : List ReportedParameter) : DriverCall Unit :=
  { DriverCall.takingFirst with report := pure (some parameters) }

/-- A driver that refuses the second of its two outputs is asked the same, whichever of them it
tells first. -/
theorem planned_alike_in_either_order :
    Reordered ((DriverCall.telling [⟨1, .output, 4, none⟩, ⟨2, .output, 12, none⟩]).report.run ())
      ((DriverCall.telling [⟨2, .output, 12, none⟩, ⟨1, .output, 4, none⟩]).report.run ()) ∧
    (planCall (Session.steady [.numeric "a" 0, .numeric "b" 1])
        (DriverCall.telling [⟨2, .output, 12, none⟩, ⟨1, .output, 4, none⟩])
        (some "CALL p(?, ?)")).run () =
      (planCall (Session.steady [.numeric "a" 0, .numeric "b" 1])
        (DriverCall.telling [⟨1, .output, 4, none⟩, ⟨2, .output, 12, none⟩])
        (some "CALL p(?, ?)")).run () := by
  have hreordered : Reordered
      ((DriverCall.telling [⟨1, .output, 4, none⟩, ⟨2, .output, 12, none⟩]).report.run ())
      ((DriverCall.telling [⟨2, .output, 12, none⟩, ⟨1, .output, 4, none⟩]).report.run ()) :=
    .told (by decide) (.swap _ _ _)
  exact ⟨hreordered, @planCall_of_reordered Unit Unit Unit
    (Session.steady [.numeric "a" 0, .numeric "b" 1])
    (DriverCall.telling [⟨1, .output, 4, none⟩, ⟨2, .output, 12, none⟩])
    (DriverCall.telling [⟨2, .output, 12, none⟩, ⟨1, .output, 4, none⟩]).report
    (some "CALL p(?, ?)") () fun _ _ _ _ => hreordered⟩

end ProcedureCall
