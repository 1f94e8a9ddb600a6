import ProcedureCall.Proofs.CallText.Quoting
import ProcedureCall.Proofs.Catalog.LookUp

/-!
# What is looked up

The requests for children and for procedures that finding a procedure leaves in the journal. Their
names are the folded segments of the name, in order and from the first one on
(`lookedUp_of_lookUp`); if each segment but the last leads to a container (`Descends`), all of them
are looked up, and the requests are told exactly (`lookUps_of_arrives`). With names between quotes
the names that are looked up are the ones between the quotes (`quoted_names_looked_up`).
-/

namespace ProcedureCall

open ProcedureCall.Action

variable {σ ν π : Type}

/-! ### Look-ups in a journal -/

namespace Event

/-- The name that the catalog was asked for, of a child or of a procedure. -/
def lookedUp? : Event ν π → Option String
  | childAsked _ name | procedureAsked _ name => some name
  | _ => none

/-- The requests for a child or for a procedure. -/
def lookUps (journal : List (Event ν π)) : List (Event ν π) :=
  journal.filter fun e => e.lookedUp?.isSome

/-- The names that the catalog was asked for. -/
def lookedUp (journal : List (Event ν π)) : List String := (lookUps journal).filterMap lookedUp?

@[simp] theorem lookUps_append (j₁ j₂ : List (Event ν π)) :
    lookUps (j₁ ++ j₂) = lookUps j₁ ++ lookUps j₂ := List.filter_append _ _

@[simp] theorem lookUps_notes (notes : List Note) :
    lookUps (notes.map (.note : Note → Event ν π)) = [] := by
  simp [lookUps, lookedUp?]

@[simp] theorem lookedUp_append (j₁ j₂ : List (Event ν π)) :
    lookedUp (j₁ ++ j₂) = lookedUp j₁ ++ lookedUp j₂ := by
  simp [lookedUp]

end Event

open Event

namespace Session

variable {s : Session σ ν π}

/-- Of a request only its own entry can be a look-up. -/
theorem lookUps_of_asked {α : Type} {a : Action σ Note α} {entry : Bool → Event ν π} {w w' : σ}
    {r : Except Fault α} {j : List (Event ν π)}
    (h : ((a.entering .note).noting entry).Ends w r w' j) :
    lookUps j = lookUps [entry r.toBool] := by
  obtain ⟨notes, -, rfl⟩ := ends_asked.mp h
  rw [lookUps_append, lookUps_notes, List.nil_append]

theorem lookUps_of_askChild {container : ν} {name : String} {w w' : σ} {r : Except Fault (Option ν)}
    {j : List (Event ν π)} (h : (s.askChild container name).Ends w r w' j) :
    lookUps j = [.childAsked container name] := lookUps_of_asked h

theorem lookUps_of_askProcedure {container : ν} {name : String} {w w' : σ}
    {r : Except Fault (Option π)} {j : List (Event ν π)}
    (h : (s.askProcedure container name).Ends w r w' j) :
    lookUps j = [.procedureAsked container name] := lookUps_of_asked h

/-! ### The walk -/

/-- One step of the walk: it comes to nothing at an empty segment; else it asks for the child, and
goes on from there if this is a container. -/
theorem walk_cons_cases {segment : List Char} {segments : List (List Char)} {container : ν}
    {w w' : σ} {r : Except Fault (Option ν)} {j : List (Event ν π)}
    (h : (s.walk container (segment :: segments)).Ends w r w' j) :
    ((∀ last, r ≠ .ok (some last)) ∧ j = []) ∨
      (Text.trim segment).isEmpty = false ∧ ∃ found w₁ j₁ j₂,
        (s.askChild container (s.askedName segment)).Ends w found w₁ j₁ ∧ j = j₁ ++ j₂ ∧
        (((∀ last, r ≠ .ok (some last)) ∧ j₂ = []) ∨
          ∃ child, found = .ok (some child) ∧ (s.kind child).isContainer = true ∧
            (s.walk child segments).Ends w₁ r w' j₂) := by
  have hnothing : ∀ {v : σ} {k : List (Event ν π)},
      (pure none : Action σ (Event ν π) (Option ν)).Ends v r w' k →
      (∀ last, r ≠ .ok (some last)) ∧ k = [] := by
    intro v k hends
    obtain ⟨rfl, -, rfl⟩ := Ends.unique hends (pure_gives none v)
    exact ⟨nofun, rfl⟩
  rw [walk_cons] at h
  split at h
  case isTrue => exact Or.inl (hnothing h)
  case isFalse hsegment =>
    refine Or.inr ⟨Bool.eq_false_iff.mpr hsegment, ?_⟩
    rcases ends_bind.mp h with ⟨fault, rfl, hfails⟩ | ⟨found, w₁, j₁, j₂, hasked, hrest, rfl⟩
    · exact ⟨_, w', j, [], hfails, (List.append_nil j).symm, Or.inl ⟨nofun, rfl⟩⟩
    · refine ⟨_, w₁, j₁, j₂, hasked, rfl, ?_⟩
      cases found with
      | none => exact Or.inl (hnothing hrest)
      | some child =>
        dsimp only at hrest
        split at hrest
        case isTrue hkind => exact Or.inr ⟨child, rfl, hkind, hrest⟩
        case isFalse => exact Or.inl (hnothing hrest)

/-- The catalog is asked for the folded segments in order, as far as it gets, and for all of them if
a container is reached. -/
theorem lookedUp_of_walk {segments : List (List Char)} {container : ν} {w w' : σ}
    {r : Except Fault (Option ν)} {j : List (Event ν π)}
    (h : (s.walk container segments).Ends w r w' j) :
    lookedUp j <+: segments.map s.askedName ∧
      ∀ last, r = .ok (some last) → lookedUp j = segments.map s.askedName := by
  induction segments generalizing container w j with
  | nil =>
    obtain ⟨-, -, rfl⟩ := Ends.unique h (pure_gives _ w)
    exact ⟨List.prefix_rfl, fun _ _ => rfl⟩
  | cons segment segments ih =>
    rcases walk_cons_cases h with ⟨hr, rfl⟩ | ⟨-, found, w₁, j₁, j₂, hasked, rfl, hrest⟩
    · exact ⟨List.nil_prefix, fun last heq => absurd heq (hr last)⟩
    · have hfirst : lookedUp j₁ = [s.askedName segment] := by
        rw [lookedUp, lookUps_of_askChild hasked]
        rfl
      have hothers : lookedUp j₂ <+: segments.map s.askedName ∧
          ∀ last, r = .ok (some last) → lookedUp j₂ = segments.map s.askedName := by
        rcases hrest with ⟨hr, rfl⟩ | ⟨child, -, -, hwalk⟩
        · exact ⟨List.nil_prefix, fun last heq => absurd heq (hr last)⟩
        · exact ih hwalk
      rw [lookedUp_append, hfirst]
      exact ⟨(List.prefix_cons_inj _).mpr hothers.1,
        fun last hr => congrArg ([s.askedName segment] ++ ·) (hothers.2 last hr)⟩

variable (s) in
/-- From a container, begun in a world, each name leads to a child that is a container. The
containers that are asked are listed, and the one that is reached and the world after it are
told. -/
inductive Descends : ν → List String → σ → List ν → ν → σ → Prop where
  /-- There is no name. -/
  | nil {container : ν} {w : σ} : Descends container [] w [] container w
  /-- The first name leads to a child, and the others lead on from there. -/
  | cons {container child last : ν} {name : String} {names : List String} {asked : List ν}
      {w w₁ w' : σ} {notes : List Note} : (s.child container name).Gives w (some child) w₁ notes →
      (s.kind child).isContainer = true → Descends child names w₁ asked last w' →
      Descends container (name :: names) w (container :: asked) last w'

theorem walk_of_descends {names : List String} {container last : ν} {asked : List ν} {w w' : σ}
    (h : s.Descends container names w asked last w') {segments : List (List Char)}
    (hnames : segments.map s.askedName = names)
    (hsegments : ∀ segment ∈ segments, (Text.trim segment).isEmpty = false) :
    ∃ j, (s.walk container segments).Gives w (some last) w' j ∧
      lookUps j = List.zipWith .childAsked asked names := by
  induction h generalizing segments with
  | nil =>
    obtain rfl := List.map_eq_nil_iff.mp hnames
    exact ⟨[], pure_gives _ _, rfl⟩
  | @cons container child last name names asked w w₁ w' notes hchild hkind _ ih =>
    obtain ⟨segment, segments, rfl, rfl, hrest⟩ := List.map_eq_cons_iff.mp hnames
    obtain ⟨hsegment, hsegments⟩ := List.forall_mem_cons.mp hsegments
    obtain ⟨j₁, hasked⟩ : ∃ j₁,
        (s.askChild container (s.askedName segment)).Gives w (some child) w₁ j₁ :=
      ⟨_, ends_asked.mpr ⟨_, hchild, rfl⟩⟩
    obtain ⟨j₂, hwalk, hlookUps⟩ := ih hrest hsegments
    refine ⟨j₁ ++ j₂, ?_, ?_⟩
    · rw [walk_cons, hsegment, if_neg Bool.false_ne_true]
      refine hasked.bind ?_
      dsimp only
      rw [if_pos hkind]
      exact hwalk
    · rw [lookUps_append, lookUps_of_askChild hasked, hlookUps]
      rfl

/-- A walk that reaches a container was led there by the names that it asked for. -/
theorem descends_of_walk {segments : List (List Char)} {container last : ν} {w w' : σ}
    {j : List (Event ν π)} (h : (s.walk container segments).Gives w (some last) w' j) :
    (∀ segment ∈ segments, (Text.trim segment).isEmpty = false) ∧
      ∃ asked, s.Descends container (segments.map s.askedName) w asked last w' := by
  induction segments generalizing container w j with
  | nil =>
    obtain ⟨hlast, rfl, -⟩ := gives_pure.mp h
    cases hlast
    exact ⟨List.forall_mem_nil _, [], .nil⟩
  | cons segment segments ih =>
    rcases walk_cons_cases h with ⟨hr, -⟩ | ⟨hsegment, found, w₁, j₁, j₂, hasked, rfl, hrest⟩
    · exact absurd rfl (hr last)
    · rcases hrest with ⟨hr, -⟩ | ⟨child, rfl, hkind, hwalk⟩
      · exact absurd rfl (hr last)
      · obtain ⟨notes, hchild, -⟩ := ends_asked.mp hasked
        obtain ⟨hsegments, asked, hdescends⟩ := ih hwalk
        exact ⟨List.forall_mem_cons.mpr ⟨hsegment, hsegments⟩, _, .cons hchild hkind hdescends⟩

/-! ### The look-up -/

variable (s) in
/-- The container that is asked for a procedure is reached: through the names of containers if there
are any, and else as the innermost one that is selected. -/
inductive Arrives (root : ν) (w : σ) : List String → List ν → ν → σ → Prop where
  /-- There are no names of containers. -/
  | selected {container : ν} {w' : σ} {j : List (Event ν π)} :
      (s.innermost root).Gives w container w' j → Arrives root w [] [] container w'
  /-- The names lead to the container. -/
  | descended {names : List String} {asked : List ν} {container : ν} {w' : σ} : names ≠ [] →
      s.Descends root names w asked container w' → Arrives root w names asked container w'

theorem lookUps_of_innermost {root : ν} {w w' : σ} {r : Except Fault ν} {j : List (Event ν π)}
    (h : (s.innermost root).Ends w r w' j) : lookUps j = [] := by
  have hselected : ∀ {r' w₁} {j₁ : List (Event ν π)}, s.askSelected.Ends w r' w₁ j₁ →
      lookUps j₁ = [] := fun h₁ => lookUps_of_asked h₁
  rcases ends_bind.mp h with ⟨fault, -, h₁⟩ | ⟨selected, w₁, j₁, j₂, h₁, h₂, rfl⟩
  · exact hselected h₁
  · obtain ⟨-, -, rfl⟩ := Ends.unique h₂ (pure_gives _ _)
    rw [List.append_nil, hselected h₁]

/-- To find the container, the catalog is asked for the folded segments but the last. -/
theorem lookedUp_of_holder {root : ν} {segments : List (List Char)} {w w' : σ}
    {r : Except Fault (Option ν)} {j : List (Event ν π)}
    (h : (s.holder root segments).Ends w r w' j) :
    lookedUp j <+: segments.dropLast.map s.askedName ∧
      ∀ container, r = .ok (some container) →
        lookedUp j = segments.dropLast.map s.askedName := by
  unfold holder at h
  split at h
  case isTrue hone =>
    obtain ⟨segment, rfl⟩ := List.length_eq_one_iff.mp hone
    obtain ⟨_, hinnermost, -⟩ := ends_map.mp h
    simp [lookedUp, lookUps_of_innermost hinnermost]
  case isFalse => exact lookedUp_of_walk h

theorem holder_of_arrives {root container : ν} {names : List String} {asked : List ν} {w w' : σ}
    (h : s.Arrives root w names asked container w') {segments : List (List Char)}
    (hnames : segments.map s.askedName = names)
    (hsegments : ∀ segment ∈ segments, (Text.trim segment).isEmpty = false) (last : List Char) :
    ∃ j, (s.holder root (segments ++ [last])).Gives w (some container) w' j ∧
      lookUps j = List.zipWith .childAsked asked names := by
  unfold holder
  cases h with
  | selected hinnermost =>
    obtain rfl := List.map_eq_nil_iff.mp hnames
    exact ⟨_, ends_map.mpr ⟨_, hinnermost, rfl⟩, lookUps_of_innermost hinnermost⟩
  | descended hne hdescends =>
    have hsegments_ne : segments ≠ [] := by
      rintro rfl
      exact hne hnames.symm
    rw [if_neg (by simp [hsegments_ne]), List.dropLast_concat]
    exact walk_of_descends hdescends hnames hsegments

theorem arrives_of_holder {root container : ν} {segments : List (List Char)} {last : List Char}
    {w w' : σ} {j : List (Event ν π)}
    (h : (s.holder root (segments ++ [last])).Gives w (some container) w' j) :
    (∀ segment ∈ segments, (Text.trim segment).isEmpty = false) ∧
      ∃ asked, s.Arrives root w (segments.map s.askedName) asked container w' := by
  unfold holder at h
  split at h
  case isTrue hone =>
    obtain rfl : segments = [] := by simpa using hone
    obtain ⟨fault | node, hinnermost, heq⟩ := ends_map.mp h
    · cases heq
    · cases heq
      exact ⟨List.forall_mem_nil _, [], .selected hinnermost⟩
  case isFalse hmore =>
    rw [List.dropLast_concat] at h
    obtain ⟨hsegments, asked, hdescends⟩ := descends_of_walk h
    exact ⟨hsegments, asked, .descended (by simpa using hmore) hdescends⟩

/-- The catalog is asked for the folded segments in order, as far as it gets. -/
theorem lookedUp_of_lookUp {segments : List (List Char)} (hsegments : segments ≠ []) {w w' : σ}
    {r : Except Fault (Option π)} {j : List (Event ν π)} (h : (s.lookUp segments).Ends w r w' j) :
    lookedUp j <+: segments.map s.askedName := by
  cases hroot : s.root with
  | none =>
    rw [lookUp_eq_of_no_root hroot] at h
    obtain ⟨-, -, rfl⟩ := Ends.unique h (pure_gives _ w)
    exact List.nil_prefix
  | some root =>
    rw [← List.dropLast_concat_getLast hsegments, List.map_append, List.map_singleton]
    rw [lookUp_eq hroot] at h
    rcases ends_bind.mp h with ⟨fault, -, h₁⟩ | ⟨container, w₁, j₁, j₂, h₁, h₂, rfl⟩
    · exact (lookedUp_of_holder h₁).1.trans (List.prefix_append _ _)
    · cases container with
      | none =>
        obtain ⟨-, -, rfl⟩ := Ends.unique h₂ (pure_gives _ _)
        rw [List.append_nil]
        exact (lookedUp_of_holder h₁).1.trans (List.prefix_append _ _)
      | some container =>
        rw [lookedUp_append, (lookedUp_of_holder h₁).2 container rfl,
          List.prefix_append_right_inj]
        rw [askHolder] at h₂
        split at h₂
        case isTrue =>
          obtain ⟨-, -, rfl⟩ := Ends.unique h₂ (pure_gives _ _)
          exact List.nil_prefix
        case isFalse =>
          rw [lookedUp, lookUps_of_askProcedure h₂, List.getLastD_eq_getLast?,
            List.getLast?_eq_some_getLast hsegments]
          exact List.prefix_rfl

/-- Where a container is reached that can look up procedures, the requests are the ones that lead to
it and the one for the procedure, and the answer to that one is the answer of the look-up. -/
theorem lookUps_of_arrives {root container : ν} {names : List String} {last : String}
    {asked : List ν} {w w₁ w' : σ} (hroot : s.root = some root)
    (h : s.Arrives root w names asked container w₁)
    (hkind : (s.kind container).looksUpProcedures = true) {segments : List (List Char)}
    (hnames : segments.map s.askedName = names ++ [last])
    (hsegments : ∀ segment ∈ segments, (Text.trim segment).isEmpty = false)
    {r : Except Fault (Option π)} {j : List (Event ν π)} (hends : (s.lookUp segments).Ends w r w' j) :
    lookUps j = List.zipWith .childAsked asked names ++ [.procedureAsked container last] ∧
      ∃ notes, (s.procedure container last).Ends w₁ r w' notes := by
  obtain ⟨before, lastSegments, rfl, hbefore, hlast⟩ := List.map_eq_append_iff.mp hnames
  obtain ⟨lastSegment, rfl, rfl⟩ := List.map_eq_singleton_iff.mp hlast
  obtain ⟨hbeforeSegments, hlastSegment⟩ := List.forall_mem_append.mp hsegments
  obtain ⟨j₁, hholder, hlookUps⟩ := holder_of_arrives h hbefore hbeforeSegments lastSegment
  rw [lookUp_eq hroot] at hends
  obtain ⟨j₂, hasked, rfl⟩ := hholder.ends_bind.mp hends
  have hname := hlastSegment _ (List.mem_singleton_self _)
  rw [askHolder, List.getLastD_concat, if_neg (by simp [hname, hkind])] at hasked
  obtain ⟨notes, hprocedure, -⟩ := ends_asked.mp hasked
  refine ⟨?_, notes, hprocedure⟩
  rw [lookUps_append, hlookUps, lookUps_of_askProcedure hasked]

/-- A look-up that gives a procedure reached the container that gave it. -/
theorem arrives_of_lookUp {segments : List (List Char)} (hsegments : segments ≠ []) {w w' : σ}
    {procedure : π} {j : List (Event ν π)}
    (h : (s.lookUp segments).Gives w (some procedure) w' j) :
    (∀ segment ∈ segments, (Text.trim segment).isEmpty = false) ∧
      ∃ root names last asked container w₁, s.root = some root ∧
        segments.map s.askedName = names ++ [last] ∧ s.Arrives root w names asked container w₁ ∧
        (s.kind container).looksUpProcedures = true ∧
        ∃ notes, (s.procedure container last).Gives w₁ (some procedure) w' notes := by
  obtain ⟨before, lastSegment, rfl⟩ : ∃ before lastSegment, segments = before ++ [lastSegment] :=
    ⟨_, _, (List.dropLast_concat_getLast hsegments).symm⟩
  cases hroot : s.root with
  | none =>
    rw [lookUp_eq_of_no_root hroot] at h
    cases (gives_pure.mp h).1
  | some root =>
    rw [lookUp_eq hroot] at h
    obtain ⟨container, w₁, j₁, j₂, hholder, hasked, -⟩ := gives_bind.mp h
    cases container with
    | none => cases (gives_pure.mp hasked).1
    | some container =>
      obtain ⟨hbefore, asked, harrives⟩ := arrives_of_holder hholder
      rw [askHolder, List.getLastD_concat] at hasked
      split at hasked
      case isTrue => cases (gives_pure.mp hasked).1
      case isFalse hasks =>
        obtain ⟨notes, hprocedure, -⟩ := ends_asked.mp hasked
        simp only [Bool.or_eq_true, Bool.not_eq_true', not_or, Bool.not_eq_true,
          Bool.not_eq_false] at hasks
        refine ⟨List.forall_mem_append.mpr ⟨hbefore, List.forall_mem_singleton.mpr hasks.1⟩, root,
          before.map s.askedName, s.askedName lastSegment, asked, container, w₁, rfl, ?_, harrives,
          hasks.2, notes, hprocedure⟩
        rw [List.map_append, List.map_singleton]

/-! ### Finding a procedure -/

/-- To resolve a name looks up what its look-up does, and gives what this gives. -/
theorem exists_lookUp_of_resolve {name : String} {w w' : σ} {r : Except Fault (Option π)}
    {j : List (Event ν π)} (h : (s.resolve name).Ends w r w' j) :
    ∃ found j₁, (s.lookUp (s.dialect.segments name)).Ends w found w' j₁ ∧
      lookUps j = lookUps j₁ ∧ ∀ answer, found = .ok answer → r = .ok answer := by
  have hremark : ∀ {event fields w₁} {j₂ : List (Event ν π)},
      (debug event fields >>= fun _ => pure none : Action σ (Event ν π) (Option π)).Ends
        w₁ r w' j₂ → r = .ok none ∧ w' = w₁ ∧ lookUps j₂ = [] := by
    intro event fields w₁ j₂ hends
    have hgives : (debug event fields >>= fun _ => pure none).Gives w₁ (none : Option π) w₁
        ([.note (.ofLog .debug event fields)] ++ ([] : List (Event ν π))) :=
      (record_gives _ w₁).bind (pure_gives none w₁)
    obtain ⟨rfl, rfl, rfl⟩ := Ends.unique hends hgives
    exact ⟨rfl, rfl, rfl⟩
  rcases ends_bind.mp h with ⟨fault, rfl, hattempt⟩ | ⟨found, w₁, j₁, j₂, hattempt, hrest, rfl⟩
  · exact ⟨_, _, (fails_attempt.mp hattempt).2, rfl, fun _ heq => by cases heq⟩
  · rcases found with fault | _ | procedure
    · obtain ⟨-, rfl, hj₂⟩ := hremark hrest
      exact ⟨_, _, (gives_attempt_error.mp hattempt).2, by simp [hj₂], fun _ heq => by cases heq⟩
    · obtain ⟨rfl, rfl, hj₂⟩ := hremark hrest
      exact ⟨_, _, gives_attempt_ok.mp hattempt, by simp [hj₂],
        fun answer heq => by cases heq; rfl⟩
    · obtain ⟨rfl, rfl, rfl⟩ := Ends.unique hrest (pure_gives _ _)
      exact ⟨_, _, gives_attempt_ok.mp hattempt, by simp, fun answer heq => by cases heq; rfl⟩

end Session

/-! ### Quoted names -/

namespace Dialect

/-- Names are written with this separator and this quote, and the two stand out from the names and
from each other. -/
structure Delimits (d : Dialect) (separator q : Char) : Prop where
  /-- The separator is a single character. -/
  separator_eq : d.separator.toList = [separator]
  /-- The quote is a single character. -/
  quote_eq : d.quote.toList = [q]
  /-- The separator stands out. -/
  separator_isDelimiter : CallText.IsDelimiter separator
  /-- The quote stands out. -/
  quote_isDelimiter : CallText.IsDelimiter q
  /-- They are two characters. -/
  ne : separator ≠ q

/-- Names between quotes, joined by a separator. -/
def quotedName (separator q : Char) (names : List String) : String :=
  String.ofList (CallText.quotedName separator q (names.map String.toList))

variable {d : Dialect} {separator q : Char} {names : List String} (h : d.Delimits separator q)
  (hnames : names ≠ []) (hnonempty : ∀ name ∈ names, name ≠ "")
include h hnames hnonempty

theorem target?_of_quotedName (rest : String) :
    d.target? (some ("CALL " ++ quotedName separator q names ++ "(" ++ rest)) =
      some (quotedName separator q names) := by
  have hword : ∀ c ∈ ['C', 'A', 'L', 'L'], CallText.isNameChar c = true :=
    List.all_eq_true.mp (by decide +kernel)
  have hread := CallText.target?_of_quotedName h.separator_isDelimiter h.quote_isDelimiter h.ne
    hword (List.cons_ne_nil _ _) (show names.map String.toList ≠ [] by simpa using hnames)
    (by simpa using hnonempty) rest.toList
  have htext : ("CALL " ++ quotedName separator q names ++ "(" ++ rest).toList =
      ['C', 'A', 'L', 'L'] ++ [' '] ++
        (CallText.quotedName separator q (names.map String.toList) ++ '(' :: rest.toList) := by
    simp [quotedName]
  rw [target?, Option.bind_some, h.separator_eq, h.quote_eq, htext, hread]
  rfl

/-- The segments of a quoted name are the names between quotes. -/
theorem trim_segments_quotedName :
    (d.segments (quotedName separator q names)).map Text.trim =
      names.map fun name => CallText.quoted q name.toList := by
  rw [segments, h.separator_eq, h.quote_eq, quotedName, String.toList_ofList,
    CallText.trim_segments_quotedName h.separator_isDelimiter h.quote_isDelimiter h.ne
      (by simpa using hnames) (by simpa using hnonempty), List.map_map]
  rfl

theorem trim_ne_nil_of_quotedName :
    ∀ segment ∈ d.segments (quotedName separator q names), (Text.trim segment).isEmpty = false := by
  intro segment hsegment
  have hmem := List.mem_map_of_mem (f := Text.trim) hsegment
  rw [trim_segments_quotedName h hnames hnonempty] at hmem
  obtain ⟨name, -, hname⟩ := List.mem_map.mp hmem
  rw [← hname]
  rfl

end Dialect

namespace Session

variable {s : Session σ ν π}

/-- The segments of a quoted name are asked for as the names between the quotes. -/
theorem map_askedName_quotedName {separator q : Char} (h : s.dialect.Delimits separator q)
    {names : List String} (hnames : names ≠ []) (hnonempty : ∀ name ∈ names, name ≠ "") :
    (s.dialect.segments (Dialect.quotedName separator q names)).map s.askedName = names := by
  have hasked : s.askedName = (fun cs => String.ofList (s.dialect.fold cs)) ∘ Text.trim := rfl
  rw [hasked, ← List.map_map, Dialect.trim_segments_quotedName h hnames hnonempty, List.map_map]
  calc names.map _ = names.map id := List.map_congr_left fun name _ => by
        simp [CallText.fold_quoted h.quote_eq]
    _ = names := List.map_id names

/-- **The names between the quotes are looked up.** Whatever characters they hold, the call of a
procedure by quoted names asks the catalog for these names in order and for nothing else, as far as
it gets. If the names but the last lead to a container that can look up procedures, each of them is
asked of the container that the ones before it lead to, and the last one is asked there as the
procedure; with one name, this is the container for names of one segment. What the container
answers is what is found. -/
theorem quoted_names_looked_up {separator q : Char} (hdialect : s.dialect.Delimits separator q)
    {names : List String} (hnames : names ≠ []) (hnonempty : ∀ name ∈ names, name ≠ "")
    (rest : String) {w w' : σ} {r : Except Fault (Option π)} {j : List (Event ν π)}
    (h : (s.find (some ("CALL " ++ Dialect.quotedName separator q names ++ "(" ++ rest))).Ends
      w r w' j) :
    lookedUp j <+: names ∧
    ∀ root containers last asked container w₁, s.root = some root → names = containers ++ [last] →
      s.Arrives root w containers asked container w₁ →
      (s.kind container).looksUpProcedures = true →
      lookUps j = List.zipWith .childAsked asked containers ++ [.procedureAsked container last] ∧
      ∃ answer notes, (s.procedure container last).Ends w₁ answer w' notes ∧
        ∀ found, answer = .ok found → r = .ok found := by
  have hasked := map_askedName_quotedName hdialect hnames hnonempty
  have hsegments := Dialect.trim_ne_nil_of_quotedName hdialect hnames hnonempty
  rw [find, Dialect.target?_of_quotedName hdialect hnames hnonempty] at h
  obtain ⟨answer, j₁, hlookUp, hlookUps, hanswer⟩ := exists_lookUp_of_resolve h
  constructor
  · rw [lookedUp, hlookUps, ← lookedUp, ← hasked]
    refine lookedUp_of_lookUp ?_ hlookUp
    rintro hnil
    rw [hnil] at hasked
    exact hnames hasked.symm
  · rintro root containers last asked container w₁ hroot rfl harrives hkind
    obtain ⟨hrequests, notes, hprocedure⟩ :=
      lookUps_of_arrives hroot harrives hkind hasked hsegments hlookUp
    exact ⟨hlookUps.trans hrequests, answer, notes, hprocedure, hanswer⟩

/-- A session whose catalog has every name in every node; a node and a procedure are the paths to
them. -/
def everywhere (dialect : Dialect) : Session σ (List String) (List String) where
  dialect
  root := some []
  kind _ := .procedureContainer
  procedureName path := path.getLastD ""
  selected := pure []
  child path name := pure (some (path ++ [name]))
  procedure path name := pure (some (path ++ [name]))
  parameters _ := pure []
  localType _ := pure none

/-- A separator, a quote beside a parenthesis, and a blank are looked up as they are. -/
theorem delimiters_looked_up :
    ∃ j, ((everywhere ⟨".", "\"", .upper, false⟩).find
        (some "CALL \"a.b\".\"c\"\"(\".\" \"(?)")).Ends ()
          (.ok (some ["a.b", "c\"(", " "])) () j ∧
      lookUps j = [.childAsked [] "a.b", .childAsked ["a.b"] "c\"(",
        .procedureAsked ["a.b", "c\"("] " "] := by
  have htext : "CALL " ++ Dialect.quotedName '.' '"' ["a.b", "c\"(", " "] ++ "(" ++ "?)" =
      "CALL \"a.b\".\"c\"\"(\".\" \"(?)" := by decide +kernel
  obtain ⟨r, w', j, h⟩ := exists_ends ((everywhere ⟨".", "\"", .upper, false⟩).find
    (some "CALL \"a.b\".\"c\"\"(\".\" \"(?)")) ()
  rw [← htext] at h
  obtain ⟨-, hall⟩ := quoted_names_looked_up
    ⟨by decide, by decide, by decide +kernel, by decide +kernel, by decide⟩ (by decide) (by decide)
    "?)" h
  obtain ⟨hlookUps, answer, notes, hprocedure, hanswer⟩ := hall [] ["a.b", "c\"("] " "
    [[], ["a.b"]] ["a.b", "c\"("] () rfl rfl
    (.descended (by decide) (.cons (pure_gives _ _) rfl (.cons (pure_gives _ _) rfl .nil))) rfl
  obtain ⟨rfl, -, -⟩ := Ends.unique hprocedure (pure_gives _ _)
  rw [htext, hanswer _ rfl] at h
  exact ⟨j, h, hlookUps⟩

end Session

end ProcedureCall
