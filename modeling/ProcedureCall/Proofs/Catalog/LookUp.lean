import ProcedureCall.Catalog.Session
import ProcedureCall.Proofs.Journal

/-!
# Failures of a look-up

A look-up asks the selection or a chain of containers, and in the end one container for the
procedure. `LookUpFails` lists the requests on that way that can fail; a look-up fails exactly when
one of them does (`lookUp_fails_iff`), so it neither hides a failure of a request nor has one of
its own. To resolve a name is to look it up and to take a failure for a procedure that is not there
(`resolve_gives`).
-/

namespace ProcedureCall.Session

open ProcedureCall.Action

variable {σ ν π : Type} (s : Session σ ν π)

/-- No request of the session is interrupted. -/
structure Uninterrupted : Prop where
  /-- Telling what is selected. -/
  selected : s.selected.Uninterrupted
  /-- Looking up a child. -/
  child : ∀ container name, (s.child container name).Uninterrupted
  /-- Looking up a procedure. -/
  procedure : ∀ container name, (s.procedure container name).Uninterrupted
  /-- Reading the parameters of a procedure. -/
  parameters : ∀ procedure, (s.parameters procedure).Uninterrupted
  /-- Looking up a data type. -/
  localType : ∀ name, (s.localType name).Uninterrupted

/-- A session in which every request fails with one fault. -/
def refusing (dialect : Dialect) (fault : Fault) : Session σ Unit Unit where
  dialect
  root := some ()
  kind _ := .procedureContainer
  procedureName _ := ""
  selected := Action.fail fault
  child _ _ := Action.fail fault
  procedure _ _ := Action.fail fault
  parameters _ := Action.fail fault
  localType _ := Action.fail fault

theorem uninterrupted_refusing {dialect : Dialect} {fault : Fault} (h : fault.isFailure = true) :
    (refusing dialect fault : Session σ Unit Unit).Uninterrupted :=
  ⟨uninterrupted_fail h, fun _ _ => uninterrupted_fail h, fun _ _ => uninterrupted_fail h,
    fun _ => uninterrupted_fail h, fun _ => uninterrupted_fail h⟩

/-- The name that is asked for: a segment without the white space around it, folded. -/
def askedName (segment : List Char) : String :=
  String.ofList (s.dialect.fold (Text.trim segment))

/-! ### The walk -/

/-- On the walk from `container` along `segments`, begun in `w`, a request for a child fails. -/
inductive WalkFails : ν → List (List Char) → σ → Fault → Prop where
  /-- It is the first request. -/
  | here {container : ν} {segment : List Char} {segments : List (List Char)} {w : σ}
      {fault : Fault} : (Text.trim segment).isEmpty = false →
      ((s.child container (s.askedName segment)).run w).result = .error fault →
      WalkFails container (segment :: segments) w fault
  /-- The first request gives a container, and on the walk from there a request fails. -/
  | further {container child : ν} {segment : List Char} {segments : List (List Char)} {w w' : σ}
      {notes : List Note} {fault : Fault} : (Text.trim segment).isEmpty = false →
      (s.child container (s.askedName segment)).Gives w (some child) w' notes →
      (s.kind child).isContainer = true → WalkFails child segments w' fault →
      WalkFails container (segment :: segments) w fault

variable {s}

theorem walk_cons (container : ν) (segment : List Char) (segments : List (List Char)) :
    s.walk container (segment :: segments) =
      if (Text.trim segment).isEmpty then pure none
      else s.askChild container (s.askedName segment) >>= fun
        | some child => if (s.kind child).isContainer then s.walk child segments else pure none
        | none => pure none := rfl

theorem walk_fails_iff {container : ν} {segments : List (List Char)} {w : σ} {fault : Fault} :
    (∃ w' j, (s.walk container segments).Fails w fault w' j) ↔
      s.WalkFails container segments w fault := by
  -- the walk goes on from another container in another world, so both are general
  induction segments generalizing container w with
  | nil =>
    constructor
    · rintro ⟨w', j, h⟩
      exact absurd h not_fails_pure
    · intro h
      cases h
  | cons segment segments ih =>
    rw [walk_cons]
    split
    case isTrue hempty =>
      constructor
      · rintro ⟨w', j, h⟩
        exact absurd h not_fails_pure
      · intro h
        cases h <;> simp_all
    case isFalse hne =>
      rw [Bool.not_eq_true] at hne
      constructor
      · rintro ⟨w', j, h⟩
        rcases fails_bind.mp h with h | ⟨found, w₁, j₁, j₂, h₁, h₂, -⟩
        · obtain ⟨notes, hchild, -⟩ := ends_asked.mp h
          exact .here hne hchild.result
        · obtain ⟨notes, hchild, -⟩ := ends_asked.mp h₁
          cases found with
          | none => exact absurd h₂ not_fails_pure
          | some child =>
            dsimp only at h₂
            split at h₂
            case isTrue hkind => exact .further hne hchild hkind (ih.mp ⟨w', j₂, h₂⟩)
            case isFalse => exact absurd h₂ not_fails_pure
      · intro h
        cases h with
        | here _ hresult =>
          obtain ⟨w', notes, hchild⟩ := exists_ends_of_result hresult
          exact ⟨w', _, fails_bind.mpr (Or.inl (ends_asked.mpr ⟨notes, hchild, rfl⟩))⟩
        | further _ hchild hkind hrest =>
          obtain ⟨w', j, h₂⟩ := ih.mpr hrest
          refine ⟨w', _, fails_bind.mpr (Or.inr ⟨_, _, _, j, ends_asked.mpr ⟨_, hchild, rfl⟩, ?_,
            rfl⟩)⟩
          dsimp only
          rw [if_pos hkind]
          exact h₂

/-! ### The look-up -/

variable (s) in
/-- Looks up the container in which the last segment of a name is looked up. -/
def holder (root : ν) (names : List (List Char)) : Action σ (Event ν π) (Option ν) :=
  if names.length = 1 then some <$> s.innermost root else s.walk root names.dropLast

variable (s) in
/-- Asks the container, if there is one, for the procedure with the last segment of a name. -/
def askHolder (names : List (List Char)) : Option ν → Action σ (Event ν π) (Option π)
  | none => pure none
  | some container =>
    if (Text.trim (names.getLastD [])).isEmpty || !(s.kind container).looksUpProcedures then pure none
    else s.askProcedure container (s.askedName (names.getLastD []))

theorem lookUp_eq {root : ν} (hroot : s.root = some root) (names : List (List Char)) :
    s.lookUp names = s.holder root names >>= s.askHolder names := by
  unfold lookUp holder
  rw [hroot]
  by_cases hone : names.length = 1
  · simp only [hone, if_true]
    rfl
  · simp only [hone, if_false]
    rfl

theorem lookUp_eq_of_no_root (hroot : s.root = none) (names : List (List Char)) :
    s.lookUp names = pure none := by
  unfold lookUp
  rw [hroot]

variable (s) in
/-- In the look-up of a name, begun in `w`, a request fails. -/
inductive LookUpFails (names : List (List Char)) (w : σ) (fault : Fault) : Prop where
  /-- The name has one segment and the selection cannot be told. -/
  | selection {root : ν} : s.root = some root → names.length = 1 →
      (s.selected.run w).result = .error fault → LookUpFails names w fault
  /-- The name has more segments and a request for a child fails. -/
  | walk {root : ν} : s.root = some root → names.length ≠ 1 →
      s.WalkFails root names.dropLast w fault → LookUpFails names w fault
  /-- The container is found, and its request for the procedure fails. -/
  | procedure {root container : ν} {w' : σ} {j : List (Event ν π)} : s.root = some root →
      (s.holder root names).Gives w (some container) w' j →
      (Text.trim (names.getLastD [])).isEmpty = false →
      (s.kind container).looksUpProcedures = true →
      ((s.procedure container (s.askedName (names.getLastD []))).run w').result = .error fault →
      LookUpFails names w fault

theorem innermost_fails_iff {root : ν} {w : σ} {fault : Fault} :
    (∃ w' j, (s.innermost root).Fails w fault w' j) ↔
      (s.selected.run w).result = .error fault := by
  constructor
  · rintro ⟨w', j, h⟩
    rcases fails_bind.mp h with h | ⟨selected, w₁, j₁, j₂, -, h, -⟩
    · obtain ⟨notes, hselected, -⟩ := ends_asked.mp h
      exact hselected.result
    · exact absurd h not_fails_pure
  · intro h
    obtain ⟨w', notes, hselected⟩ := exists_ends_of_result h
    exact ⟨w', _, fails_bind.mpr (Or.inl (ends_asked.mpr ⟨notes, hselected, rfl⟩))⟩

theorem holder_fails_iff {root : ν} {names : List (List Char)} {w : σ} {fault : Fault} :
    (∃ w' j, (s.holder root names).Fails w fault w' j) ↔
      (names.length = 1 ∧ (s.selected.run w).result = .error fault) ∨
        (names.length ≠ 1 ∧ s.WalkFails root names.dropLast w fault) := by
  unfold holder
  by_cases hone : names.length = 1
  · simp only [hone, if_true, fails_map, true_and, ne_eq, not_true, false_and, or_false]
    exact innermost_fails_iff
  · simp only [hone, if_false, false_and, false_or, ne_eq, not_false_eq_true, true_and]
    exact walk_fails_iff

/-- A look-up fails exactly when one of its requests does. -/
theorem lookUp_fails_iff {names : List (List Char)} {w : σ} {fault : Fault} :
    (∃ w' j, (s.lookUp names).Fails w fault w' j) ↔ s.LookUpFails names w fault := by
  constructor
  · rintro ⟨w', j, h⟩
    cases hroot : s.root with
    | none =>
      rw [lookUp_eq_of_no_root hroot] at h
      exact absurd h not_fails_pure
    | some root =>
      rw [lookUp_eq hroot] at h
      rcases fails_bind.mp h with h | ⟨container, w₁, j₁, j₂, h₁, h₂, -⟩
      · rcases holder_fails_iff.mp ⟨w', j, h⟩ with ⟨hone, hfails⟩ | ⟨hmore, hfails⟩
        · exact .selection hroot hone hfails
        · exact .walk hroot hmore hfails
      · cases container with
        | none => exact absurd h₂ not_fails_pure
        | some container =>
          rw [askHolder] at h₂
          split at h₂
          case isTrue => exact absurd h₂ not_fails_pure
          case isFalse hasks =>
            obtain ⟨notes, hprocedure, -⟩ := ends_asked.mp h₂
            simp only [Bool.or_eq_true, Bool.not_eq_true', not_or, Bool.not_eq_true,
              Bool.not_eq_false] at hasks
            exact .procedure hroot h₁ hasks.1 hasks.2 hprocedure.result
  · intro h
    cases h with
    | selection hroot hone hfails =>
      obtain ⟨w', j, h⟩ := holder_fails_iff.mpr (Or.inl ⟨hone, hfails⟩)
      exact ⟨w', j, by rw [lookUp_eq hroot]; exact fails_bind.mpr (Or.inl h)⟩
    | walk hroot hmore hfails =>
      obtain ⟨w', j, h⟩ := holder_fails_iff.mpr (Or.inr ⟨hmore, hfails⟩)
      exact ⟨w', j, by rw [lookUp_eq hroot]; exact fails_bind.mpr (Or.inl h)⟩
    | procedure hroot hholder hname hkind hfails =>
      rename_i root container w₁ j₁
      obtain ⟨w', notes, hprocedure⟩ := exists_ends_of_result hfails
      have hasked : ∃ j₂, (s.askHolder names (some container)).Fails w₁ fault w' j₂ := by
        rw [askHolder, if_neg (by simp only [hname, hkind]; decide)]
        exact ⟨_, ends_asked.mpr ⟨notes, hprocedure, rfl⟩⟩
      obtain ⟨j₂, h₂⟩ := hasked
      refine ⟨w', j₁ ++ j₂, ?_⟩
      rw [lookUp_eq hroot]
      exact fails_bind.mpr (Or.inr ⟨_, _, _, j₂, hholder, h₂, rfl⟩)

/-! ### Resolving a name -/

/-- A name is resolved to what its look-up gives, and to nothing if the look-up fails. -/
theorem resolve_gives {name : String} {w w' : σ} {found : Option π} {j : List (Event ν π)}
    (h : (s.resolve name).Gives w found w' j) :
    ((s.lookUp (s.dialect.segments name)).run w).result = .ok found ∨
      found = none ∧
        ∃ fault, ((s.lookUp (s.dialect.segments name)).run w).result = .error fault := by
  obtain ⟨r, w₁, j₁, j₂, hattempt, hrest, -⟩ := gives_bind.mp h
  cases r with
  | error fault =>
    obtain ⟨_, _, _, _, -, hnone, -⟩ := gives_bind.mp hrest
    exact Or.inr ⟨(gives_pure.mp hnone).1, fault, (gives_attempt_error.mp hattempt).2.result⟩
  | ok value =>
    refine Or.inl ((gives_attempt_ok.mp hattempt).result.trans ?_)
    cases value with
    | none =>
      obtain ⟨_, _, _, _, -, hnone, -⟩ := gives_bind.mp hrest
      rw [(gives_pure.mp hnone).1]
    | some procedure => rw [(gives_pure.mp hrest).1]

/-- The procedure that a text invokes is found only through its name, by a look-up that gives it. -/
theorem find_eq_some_iff {text : Option String} {w w' : σ} {found : Option π}
    {j : List (Event ν π)} (h : (s.find text).Gives w found w' j) {procedure : π} :
    found = some procedure ↔ ∃ name, s.dialect.target? text = some name ∧
      ((s.lookUp (s.dialect.segments name)).run w).result = .ok (some procedure) := by
  unfold find at h
  cases htarget : s.dialect.target? text with
  | none =>
    rw [htarget] at h
    simp [(gives_pure.mp h).1]
  | some name =>
    rw [htarget] at h
    simp only [Option.some.injEq, exists_eq_left']
    rcases resolve_gives h with hok | ⟨rfl, fault, herror⟩
    · simp [hok]
    · simp [herror]

/-- A procedure that was found was given by a container. -/
theorem exists_procedure_gives_of_find {text : Option String} {w w' : σ} {procedure : π}
    {j : List (Event ν π)} (h : (s.find text).Gives w (some procedure) w' j) :
    ∃ container name v v' notes,
      (s.procedure container name).Gives v (some procedure) v' notes := by
  obtain ⟨name, -, hlookUp⟩ := (find_eq_some_iff h).mp rfl
  obtain ⟨w₁, j₁, hgives⟩ := exists_ends_of_result hlookUp
  cases hroot : s.root with
  | none =>
    rw [lookUp_eq_of_no_root hroot] at hgives
    cases (gives_pure.mp hgives).1
  | some root =>
    rw [lookUp_eq hroot] at hgives
    obtain ⟨holder, w₂, j₂, j₃, -, hasked, -⟩ := gives_bind.mp hgives
    cases holder with
    | none => cases (gives_pure.mp hasked).1
    | some container =>
      rw [askHolder] at hasked
      split at hasked
      case isTrue => cases (gives_pure.mp hasked).1
      case isFalse =>
        obtain ⟨notes, hprocedure, -⟩ := ends_asked.mp hasked
        exact ⟨container, _, w₂, w₁, notes, hprocedure⟩

/-! ### Finding a procedure always comes to an end -/

theorem Uninterrupted.not_walkFails (hs : s.Uninterrupted) {container : ν}
    {segments : List (List Char)} {w : σ} : ¬ s.WalkFails container segments w .interrupt := by
  intro h
  generalize hfault : Fault.interrupt = fault at h
  induction h with
  | here _ hresult =>
    subst hfault
    obtain ⟨w', notes, hchild⟩ := exists_ends_of_result hresult
    exact hs.child _ _ _ _ _ hchild
  | further _ _ _ _ ih => exact ih hfault

theorem Uninterrupted.lookUp (hs : s.Uninterrupted) (names : List (List Char)) :
    (s.lookUp names).Uninterrupted := by
  intro w w' j h
  cases lookUp_fails_iff.mp ⟨w', j, h⟩ with
  | selection _ _ hresult =>
    obtain ⟨_, _, hselected⟩ := exists_ends_of_result hresult
    exact hs.selected _ _ _ hselected
  | walk _ _ hwalk => exact hs.not_walkFails hwalk
  | procedure _ _ _ _ hresult =>
    obtain ⟨_, _, hprocedure⟩ := exists_ends_of_result hresult
    exact hs.procedure _ _ _ _ _ hprocedure

/-- Whatever fails on the way, finding a procedure gives an answer. -/
theorem Uninterrupted.completes_find (hs : s.Uninterrupted) (text : Option String) :
    (s.find text).Completes := by
  unfold find
  cases s.dialect.target? text with
  | none => exact completes_pure _
  | some name =>
    refine (hs.lookUp _).completes_attempt.bind fun r => ?_
    rcases r with fault | _ | procedure
    · exact (completes_record _).bind fun _ => completes_pure _
    · exact (completes_record _).bind fun _ => completes_pure _
    · exact completes_pure _

/-! ### What finding a procedure does -/

variable {P : σ → List (Event ν π) → σ → Prop}

theorem does_walk (hP : Chains P)
    (hchild : ∀ container name, Does P (s.askChild container name))
    (segments : List (List Char)) : ∀ container, Does P (s.walk container segments) := by
  induction segments with
  | nil => exact fun container => does_pure hP _
  | cons segment segments ih =>
    intro container
    rw [walk_cons]
    split
    · exact does_pure hP _
    · refine (hchild _ _).bind hP fun found => ?_
      cases found with
      | none => exact does_pure hP _
      | some child =>
        dsimp only
        split
        · exact ih child
        · exact does_pure hP _

theorem does_lookUp (hP : Chains P) (hselected : Does P s.askSelected)
    (hchild : ∀ container name, Does P (s.askChild container name))
    (hprocedure : ∀ container name, Does P (s.askProcedure container name))
    (names : List (List Char)) : Does P (s.lookUp names) := by
  cases hroot : s.root with
  | none => rw [lookUp_eq_of_no_root hroot]; exact does_pure hP _
  | some root =>
    rw [lookUp_eq hroot]
    refine Does.bind hP ?_ fun container => ?_
    · unfold holder
      split
      · exact (hselected.bind hP fun _ => does_pure hP _).map hP
      · exact does_walk hP hchild _ _
    · cases container with
      | none => exact does_pure hP _
      | some container =>
        rw [askHolder]
        split
        · exact does_pure hP _
        · exact hprocedure _ _

theorem does_resolve (hP : Quiet P) (hselected : Does P s.askSelected)
    (hchild : ∀ container name, Does P (s.askChild container name))
    (hprocedure : ∀ container name, Does P (s.askProcedure container name)) (name : String) :
    Does P (s.resolve name) := by
  refine (does_lookUp hP.toChains hselected hchild hprocedure _).attempt.bind hP.toChains
    fun r => ?_
  rcases r with fault | _ | procedure
  · exact (hP.does_remark rfl).bind hP.toChains fun _ => does_pure hP.toChains _
  · exact (hP.does_remark rfl).bind hP.toChains fun _ => does_pure hP.toChains _
  · exact does_pure hP.toChains _

/-- What the requests of a look-up do, finding a procedure does. -/
theorem does_find (hP : Quiet P) (hselected : Does P s.askSelected)
    (hchild : ∀ container name, Does P (s.askChild container name))
    (hprocedure : ∀ container name, Does P (s.askProcedure container name))
    (text : Option String) : Does P (s.find text) := by
  unfold find
  cases s.dialect.target? text with
  | none => exact does_pure hP.toChains _
  | some name => exact does_resolve hP hselected hchild hprocedure name

end ProcedureCall.Session
