import ProcedureCall.Proofs.Catalog.QualifiedNames

/-!
# Where a name is resolved

A name leads down the catalog: each segment but the last names the next container, and the last one
names the procedure in the container that was reached. `Seeks` tells such a way down with its answer
and with every request that is made on it.

## What is proved

* `resolve_seeks` — a name of several segments is sought from the root, and nothing else is asked.
* `sought_in_deepest_iff` — a name of one segment is sought in the last selected node if this is a
  container and else in the root, and when this is the deepest container that is selected.
-/

namespace ProcedureCall.Session

open ProcedureCall.Action

variable {σ ν π : Type} {s : Session σ ν π}

/-! ### The way down -/

variable (s) in
/-- Begun in `w`, a procedure is sought from a container down along the segments of a name. -/
inductive Seeks :
    ν → List (List Char) → σ → Except Fault (Option π) → σ → List (Event ν π) → Prop where
  /-- The next segment is empty. -/
  | blank {container : ν} {segment : List Char} {segments : List (List Char)} {w : σ} :
      Text.trim segment = [] → Seeks container (segment :: segments) w (.ok none) w []
  /-- The last segment is reached, but the container cannot look up procedures. -/
  | unable {container : ν} {segment : List Char} {w : σ} :
      (s.kind container).looksUpProcedures = false → Seeks container [segment] w (.ok none) w []
  /-- The container is asked for the procedure, and its answer is the answer. -/
  | procedure {container : ν} {segment : List Char} {r : Except Fault (Option π)} {w w' : σ}
      {notes : List Note} : Text.trim segment ≠ [] → (s.kind container).looksUpProcedures = true →
      (s.procedure container (s.askedName segment)).Ends w r w' notes →
      Seeks container [segment] w r w' [.procedureAsked container (s.askedName segment)]
  /-- More segments follow, but asking for the child fails. -/
  | failed {container : ν} {segment : List Char} {segments : List (List Char)} {fault : Fault}
      {w w' : σ} {notes : List Note} : Text.trim segment ≠ [] → segments ≠ [] →
      (s.child container (s.askedName segment)).Fails w fault w' notes →
      Seeks container (segment :: segments) w (.error fault) w'
        [.childAsked container (s.askedName segment)]
  /-- More segments follow, but there is no such child. -/
  | missing {container : ν} {segment : List Char} {segments : List (List Char)} {w w' : σ}
      {notes : List Note} : Text.trim segment ≠ [] → segments ≠ [] →
      (s.child container (s.askedName segment)).Gives w none w' notes →
      Seeks container (segment :: segments) w (.ok none) w'
        [.childAsked container (s.askedName segment)]
  /-- More segments follow, but the child is no container. -/
  | leaf {container child : ν} {segment : List Char} {segments : List (List Char)} {w w' : σ}
      {notes : List Note} : Text.trim segment ≠ [] → segments ≠ [] →
      (s.child container (s.askedName segment)).Gives w (some child) w' notes →
      (s.kind child).isContainer = false →
      Seeks container (segment :: segments) w (.ok none) w'
        [.childAsked container (s.askedName segment)]
  /-- The way goes on from the child. -/
  | further {container child : ν} {segment : List Char} {segments : List (List Char)}
      {r : Except Fault (Option π)} {w w₁ w' : σ} {notes : List Note}
      {requests : List (Event ν π)} : Text.trim segment ≠ [] → segments ≠ [] →
      (s.child container (s.askedName segment)).Gives w (some child) w₁ notes →
      (s.kind child).isContainer = true → Seeks child segments w₁ r w' requests →
      Seeks container (segment :: segments) w r w'
        (.childAsked container (s.askedName segment) :: requests)

/-- On the way only children and procedures are asked for. -/
theorem Seeks.isSome_lookedUp? {container : ν} {segments : List (List Char)} {w w' : σ}
    {r : Except Fault (Option π)} {requests : List (Event ν π)}
    (h : s.Seeks container segments w r w' requests) :
    ∀ e ∈ requests, e.lookedUp?.isSome = true := by
  induction h with
  | further _ _ _ _ _ ih => exact List.forall_mem_cons.mpr ⟨rfl, ih⟩
  | _ => simp [Event.lookedUp?]

theorem asks_askChild {container : ν} {name : String} {w w' : σ} {r : Except Fault (Option ν)}
    {requests : List (Event ν π)} :
    (s.askChild container name).Asks w r w' requests ↔
      ∃ notes, (s.child container name).Ends w r w' notes ∧
        requests = [.childAsked container name] :=
  asks_asked fun _ => rfl

/-- At the last segment there is nothing to ask, or the container is asked for the procedure. -/
theorem seeks_last {container : ν} {segment : List Char} {w w' : σ} {r : Except Fault (Option π)}
    {requests : List (Event ν π)} :
    s.Seeks container [segment] w r w' requests ↔
      ((Text.trim segment = [] ∨ (s.kind container).looksUpProcedures = false) ∧
        r = .ok none ∧ w' = w ∧ requests = []) ∨
      (Text.trim segment ≠ [] ∧ (s.kind container).looksUpProcedures = true ∧
        ∃ notes, (s.procedure container (s.askedName segment)).Ends w r w' notes ∧
          requests = [.procedureAsked container (s.askedName segment)]) := by
  constructor
  · intro h
    cases h with
    | blank hblank => exact Or.inl ⟨Or.inl hblank, rfl, rfl, rfl⟩
    | unable hunable => exact Or.inl ⟨Or.inr hunable, rfl, rfl, rfl⟩
    | procedure hsegment hable hprocedure =>
      exact Or.inr ⟨hsegment, hable, _, hprocedure, rfl⟩
    | _ => contradiction
  · rintro (⟨hblank | hunable, rfl, rfl, rfl⟩ | ⟨hsegment, hable, notes, hprocedure, rfl⟩)
    · exact .blank hblank
    · exact .unable hunable
    · exact .procedure hsegment hable hprocedure

theorem asks_askHolder {container : ν} {segment : List Char} {w w' : σ}
    {r : Except Fault (Option π)} {requests : List (Event ν π)} :
    (s.askHolder [segment] (some container)).Asks w r w' requests ↔
      s.Seeks container [segment] w r w' requests := by
  rw [seeks_last, askHolder]
  by_cases hasks : Text.trim segment ≠ [] ∧ (s.kind container).looksUpProcedures = true
  · obtain ⟨hsegment, hable⟩ := hasks
    rw [if_neg (by simp [hsegment, hable]), askProcedure, asks_asked fun _ => rfl]
    simp [hsegment, hable]
  · have hnothing : Text.trim segment = [] ∨ (s.kind container).looksUpProcedures = false := by
      rw [← Bool.not_eq_true]
      exact Decidable.not_and_iff_or_not.mp hasks |>.imp_left Decidable.not_not.mp
    rw [if_pos (by simpa using hnothing), asks_pure, and_iff_right hnothing, or_iff_left]
    exact fun h => hasks ⟨h.1, h.2.1⟩

/-- The walk to the container and the request for the procedure in it are one way down. -/
theorem asks_walk {before : List (List Char)} {last : List Char} {container : ν} {w w' : σ}
    {r : Except Fault (Option π)} {requests : List (Event ν π)} :
    (s.walk container before >>= s.askHolder [last]).Asks w r w' requests ↔
      s.Seeks container (before ++ [last]) w r w' requests := by
  induction before generalizing container w requests with
  | nil => rw [walk, pure_bind, asks_askHolder, List.nil_append]
  | cons segment segments ih =>
    have hmore : segments ++ [last] ≠ [] := by simp
    rw [walk_cons, List.cons_append]
    generalize segments ++ [last] = rest at hmore ih ⊢
    split
    case isTrue hempty =>
      have hblank : Text.trim segment = [] := List.isEmpty_iff.mp hempty
      rw [pure_bind, askHolder, asks_pure]
      constructor
      · rintro ⟨rfl, rfl, rfl⟩
        exact .blank hblank
      · intro h
        cases h with
        | blank | unable => exact ⟨rfl, rfl, rfl⟩
        | _ => contradiction
    case isFalse hempty =>
      have hsegment : Text.trim segment ≠ [] := mt List.isEmpty_iff.mpr hempty
      rw [bind_assoc, asks_bind]
      constructor
      · rintro (⟨fault, rfl, hasked⟩ | ⟨found, w₁, q₁, q₂, hasked, hrest, rfl⟩)
        · obtain ⟨notes, hchild, rfl⟩ := asks_askChild.mp hasked
          exact .failed hsegment hmore hchild
        · obtain ⟨notes, hchild, rfl⟩ := asks_askChild.mp hasked
          cases found with
          | none =>
            obtain ⟨rfl, rfl, rfl⟩ := asks_pure.mp hrest
            exact .missing hsegment hmore hchild
          | some child =>
            dsimp only at hrest
            split at hrest
            case isTrue hkind => exact .further hsegment hmore hchild hkind (ih.mp hrest)
            case isFalse hkind =>
              rw [pure_bind] at hrest
              obtain ⟨rfl, rfl, rfl⟩ := asks_pure.mp hrest
              exact .leaf hsegment hmore hchild (Bool.eq_false_iff.mpr hkind)
      · intro h
        cases h with
        | failed _ _ hchild =>
          exact Or.inl ⟨_, rfl, asks_askChild.mpr ⟨_, hchild, rfl⟩⟩
        | missing _ _ hchild =>
          exact Or.inr ⟨_, _, _, [], asks_askChild.mpr ⟨_, hchild, rfl⟩,
            asks_pure.mpr ⟨rfl, rfl, rfl⟩, rfl⟩
        | leaf _ _ hchild hkind =>
          refine Or.inr ⟨_, _, _, [], asks_askChild.mpr ⟨_, hchild, rfl⟩, ?_, rfl⟩
          dsimp only
          rw [hkind, if_neg Bool.false_ne_true, pure_bind]
          exact asks_pure.mpr ⟨rfl, rfl, rfl⟩
        | further _ _ hchild hkind hrest =>
          refine Or.inr ⟨_, _, _, _, asks_askChild.mpr ⟨_, hchild, rfl⟩, ?_, rfl⟩
          dsimp only
          rw [if_pos hkind]
          exact ih.mpr hrest
        | _ => contradiction

/-! ### Names of several segments -/

/-- What a name is resolved to by an answer: a failure counts as a procedure that was not found. -/
def resolvedTo : Except Fault (Option π) → Except Fault (Option π)
  | .ok found => .ok found
  | .error fault => if fault.isFailure then .ok none else .error fault

theorem asks_resolve {name : String} {w w' : σ} {r : Except Fault (Option π)}
    {requests : List (Event ν π)} :
    (s.resolve name).Asks w r w' requests ↔
      ∃ answer, (s.lookUp (s.dialect.segments name)).Asks w answer w' requests ∧
        r = resolvedTo answer := by
  have hresolved : ∀ answer : Except Fault (Option π),
      (caught answer).map (fun x => x.toOption.join) = resolvedTo answer := by
    intro answer
    cases answer with
    | ok found => rfl
    | error fault => cases hfault : fault.isFailure <;> simp [caught, resolvedTo, hfault] <;> rfl
  rw [resolve, asks_attempt_answer (g := fun x => x.toOption.join)]
  · simp only [hresolved]
  · rintro (fault | _ | procedure) w r w' requests
    · exact asks_note_pure
    · exact asks_note_pure
    · exact asks_pure

/-- Names of several segments are looked up from the root down. -/
theorem asks_lookUp {root : ν} (hroot : s.root = some root) {names : List (List Char)}
    (hmore : 2 ≤ names.length) {w w' : σ} {r : Except Fault (Option π)}
    {requests : List (Event ν π)} :
    (s.lookUp names).Asks w r w' requests ↔ s.Seeks root names w r w' requests := by
  have hne : names ≠ [] := List.length_pos_iff.mp (by omega)
  have hholder : s.holder root names = s.walk root names.dropLast := by
    rw [holder, if_neg (by omega)]
  have hlast : s.askHolder names = s.askHolder [names.getLast hne] := by
    funext container
    simp only [askHolder, List.getLastD_eq_getLast?, List.getLast?_eq_some_getLast hne,
      List.getLast?_singleton, Option.getD_some]
  rw [lookUp_eq hroot, hholder, hlast, asks_walk, List.dropLast_concat_getLast]

/-- **A name of several segments is sought from the root.** For every catalog, whichever kinds its
nodes are and whichever of their answers fail, resolving the name asks what the way down from the
root asks, in that order and nothing else, and gives its answer, a failure counting as no procedure;
without a root it asks nothing. What is selected is not asked for. -/
theorem resolve_seeks {name : String} (hname : 2 ≤ (s.dialect.segments name).length) (w : σ) :
    (s.root = none → ∀ r w' requests, (s.resolve name).Asks w r w' requests ↔
      r = .ok none ∧ w' = w ∧ requests = []) ∧
    (∀ root, s.root = some root → ∀ r w' requests, (s.resolve name).Asks w r w' requests ↔
      ∃ answer, s.Seeks root (s.dialect.segments name) w answer w' requests ∧
        r = resolvedTo answer) ∧
    ∀ r w' requests, (s.resolve name).Asks w r w' requests → .selectionAsked ∉ requests := by
  have hnone : s.root = none → ∀ r w' requests, (s.resolve name).Asks w r w' requests ↔
      r = .ok none ∧ w' = w ∧ requests = [] := by
    intro hroot r w' requests
    rw [asks_resolve, lookUp_eq_of_no_root hroot]
    constructor
    · rintro ⟨answer, hpure, rfl⟩
      obtain ⟨rfl, rfl, rfl⟩ := asks_pure.mp hpure
      exact ⟨rfl, rfl, rfl⟩
    · rintro ⟨rfl, rfl, rfl⟩
      exact ⟨_, asks_pure.mpr ⟨rfl, rfl, rfl⟩, rfl⟩
  have hsome : ∀ root, s.root = some root → ∀ r w' requests,
      (s.resolve name).Asks w r w' requests ↔
        ∃ answer, s.Seeks root (s.dialect.segments name) w answer w' requests ∧
          r = resolvedTo answer := by
    intro root hroot r w' requests
    rw [asks_resolve]
    simp only [asks_lookUp hroot hname]
  refine ⟨hnone, hsome, fun r w' requests h hselected => ?_⟩
  cases hroot : s.root with
  | none =>
    obtain ⟨-, -, rfl⟩ := (hnone hroot r w' requests).mp h
    cases hselected
  | some root =>
    obtain ⟨answer, hseeks, -⟩ := (hsome root hroot r w' requests).mp h
    cases hseeks.isSome_lookedUp? _ hselected

/-- White space is dropped, the case is folded, and each name is asked for where the one before it
led to. -/
theorem sought_from_root :
    2 ≤ (Dialect.segments ⟨".", "\"", .upper, false⟩ " hr .get_all").length ∧
    ((everywhere ⟨".", "\"", .upper, false⟩).resolve " hr .get_all").Asks ()
      (.ok (some ["HR", "GET_ALL"])) ()
        [.childAsked [] "HR", .procedureAsked ["HR"] "GET_ALL"] := by
  have hsegments : Dialect.segments ⟨".", "\"", .upper, false⟩ " hr .get_all" =
      [" hr ".toList, "get_all".toList] := by decide +kernel
  have hname : 2 ≤ (Dialect.segments ⟨".", "\"", .upper, false⟩ " hr .get_all").length := by
    rw [hsegments]
    decide
  have hfirst : (everywhere ⟨".", "\"", .upper, false⟩ : Session Unit _ _).askedName " hr ".toList =
      "HR" := by decide +kernel
  have hlast : (everywhere ⟨".", "\"", .upper, false⟩ : Session Unit _ _).askedName
      "get_all".toList = "GET_ALL" := by decide +kernel
  have hprocedure : (everywhere ⟨".", "\"", .upper, false⟩).Seeks ["HR"] ["get_all".toList] ()
      (.ok (some ["HR", "GET_ALL"])) () [.procedureAsked ["HR"] "GET_ALL"] := by
    rw [← hlast]
    exact .procedure (by decide) rfl (pure_gives _ ())
  have hseeks : (everywhere ⟨".", "\"", .upper, false⟩).Seeks []
      [" hr ".toList, "get_all".toList] () (.ok (some ["HR", "GET_ALL"])) ()
        [.childAsked [] "HR", .procedureAsked ["HR"] "GET_ALL"] := by
    have hchild : ((everywhere ⟨".", "\"", .upper, false⟩ : Session Unit _ _).child []
        ((everywhere ⟨".", "\"", .upper, false⟩ : Session Unit _ _).askedName
          " hr ".toList)).Gives () (some ["HR"]) () [] := by
      rw [hfirst]
      exact pure_gives _ ()
    have hfurther := Seeks.further (by decide) (by decide) hchild rfl hprocedure
    rwa [hfirst] at hfurther
  rw [← hsegments] at hseeks
  exact ⟨hname, ((@resolve_seeks Unit (List String) (List String)
    (everywhere ⟨".", "\"", .upper, false⟩) _ hname ()).2.1 [] rfl _ _ _).mpr ⟨_, hseeks, rfl⟩⟩

/-! ### Names of one segment -/

variable (s) in
/-- The deepest selected container: the last selected node that is a container, and the root if none
is. -/
def deepest (root : ν) (selected : List ν) : ν :=
  (selected.filter fun node => (s.kind node).isContainer).getLastD root

variable (s) in
/-- The last selected node if it is a container, else the root. -/
def lastOrRoot (root : ν) (selected : List ν) : ν :=
  match selected.getLast? with
  | some node => if (s.kind node).isContainer then node else root
  | none => root

variable (s) in
/-- Begun in `w`, the name is resolved by asking for what is selected, which leads to the world
`told`, and seeking the procedure from the node. -/
def LooksUpIn (name : String) (w told : σ) (node : ν) : Prop :=
  ∀ r w' requests, (s.resolve name).Asks w r w' requests ↔
    ∃ answer rest, s.Seeks node (s.dialect.segments name) told answer w' rest ∧
      r = resolvedTo answer ∧ requests = .selectionAsked :: rest

variable {name : String} {segment : List Char} {root : ν} {selected : List ν} {w told : σ}
  {notes : List Note}

theorem looksUpIn_lastOrRoot (hroot : s.root = some root)
    (hname : s.dialect.segments name = [segment])
    (hselected : s.selected.Gives w selected told notes) :
    s.LooksUpIn name w told (s.lastOrRoot root selected) := by
  have hasked : (s.askSelected : Action σ (Event ν π) (List ν)).Gives w selected told
      (notes.map .note ++ [.selectionAsked]) := ends_asked.mpr ⟨notes, hselected, rfl⟩
  have hrequests : Event.requests (notes.map .note ++ [.selectionAsked]) =
      ([.selectionAsked] : List (Event ν π)) := by
    rw [Event.requests_append, Event.requests_notes]
    rfl
  have hlookUp : s.lookUp [segment] = s.askSelected >>= fun selected =>
      s.askHolder [segment] (some (s.lastOrRoot root selected)) := by
    rw [lookUp_eq hroot, holder, if_pos List.length_singleton]
    simp only [innermost, map_eq_pure_bind, bind_assoc, pure_bind]
    rfl
  intro r w' requests
  rw [asks_resolve, hname, hlookUp]
  simp only [hasked.asks_bind, hrequests, asks_askHolder, List.singleton_append]
  constructor
  · rintro ⟨answer, ⟨rest, hseeks, rfl⟩, rfl⟩
    exact ⟨answer, rest, hseeks, rfl, rfl⟩
  · rintro ⟨answer, rest, hseeks, rfl, rfl⟩
    exact ⟨answer, ⟨rest, hseeks, rfl⟩, rfl⟩

theorem lastOrRoot_eq_deepest {node : ν} (hlast : selected.getLast? = some node)
    (hkind : (s.kind node).isContainer = true) :
    s.lastOrRoot root selected = s.deepest root selected := by
  obtain ⟨before, rfl⟩ := List.getLast?_eq_some_iff.mp hlast
  simp [lastOrRoot, deepest, hkind]

theorem lastOrRoot_eq_root
    (h : ¬ ∃ node, selected.getLast? = some node ∧ (s.kind node).isContainer = true) :
    s.lastOrRoot root selected = root := by
  unfold lastOrRoot
  split
  case h_1 node hlast => exact if_neg fun hkind => h ⟨node, hlast, hkind⟩
  case h_2 => rfl

/-- The last segment is sought alike in two containers of which neither is asked. -/
theorem seeks_last_congr {node other : ν} (h : Text.trim segment = [] ∨
      ((s.kind node).looksUpProcedures = false ∧ (s.kind other).looksUpProcedures = false))
    {v v' : σ} {r : Except Fault (Option π)} {requests : List (Event ν π)} :
    s.Seeks node [segment] v r v' requests ↔ s.Seeks other [segment] v r v' requests := by
  rw [seeks_last, seeks_last]
  rcases h with hblank | ⟨hnode, hother⟩
  · simp [hblank]
  · simp [hnode, hother]

/-- A name of one segment is looked up in one node, unless no node is asked. -/
theorem LooksUpIn.eq_or_unasked {node other : ν} (hname : s.dialect.segments name = [segment])
    (hnode : s.LooksUpIn name w told node) (hother : s.LooksUpIn name w told other) :
    node = other ∨ Text.trim segment = [] ∨
      ((s.kind node).looksUpProcedures = false ∧ (s.kind other).looksUpProcedures = false) := by
  obtain ⟨r, w', requests, hasks⟩ := exists_asks (s.resolve name) w
  obtain ⟨answer, rest, hseeks, -, rfl⟩ := (hnode r w' requests).mp hasks
  obtain ⟨answer', rest', hseeks', -, hsame⟩ := (hother _ _ _).mp hasks
  obtain rfl : rest = rest' := (List.cons.inj hsame).2
  rw [hname, seeks_last] at hseeks hseeks'
  rcases hseeks with ⟨hblank | hunable, -, -, rfl⟩ | ⟨-, -, notes, -, rfl⟩
  · exact Or.inr (Or.inl hblank)
  · rcases hseeks' with ⟨hblank | hunable', -, -, -⟩ | ⟨-, -, notes, -, hnever⟩
    · exact Or.inr (Or.inl hblank)
    · exact Or.inr (Or.inr ⟨hunable, hunable'⟩)
    · cases hnever
  · rcases hseeks' with ⟨-, -, -, hnever⟩ | ⟨-, -, notes', -, heq⟩
    · cases hnever
    · exact Or.inl (by simpa using heq)

/-- **When a name of one segment is sought in the deepest selected container.** It is sought in the
last selected node if this is a container, and else in the root. So it is sought in the deepest
container that is selected exactly if the last selected node is a container, or the deepest
container is the root, as where no container is selected, or no container would be asked at all. -/
theorem sought_in_deepest_iff (hroot : s.root = some root)
    (hname : s.dialect.segments name = [segment])
    (hselected : s.selected.Gives w selected told notes) :
    s.LooksUpIn name w told (s.lastOrRoot root selected) ∧
    (s.LooksUpIn name w told (s.deepest root selected) ↔
      (∃ node, selected.getLast? = some node ∧ (s.kind node).isContainer = true) ∨
      s.deepest root selected = root ∨ Text.trim segment = [] ∨
      ((s.kind root).looksUpProcedures = false ∧
        (s.kind (s.deepest root selected)).looksUpProcedures = false)) := by
  have hlooksUp := looksUpIn_lastOrRoot hroot hname hselected
  refine ⟨hlooksUp, ?_⟩
  by_cases hlast : ∃ node, selected.getLast? = some node ∧ (s.kind node).isContainer = true
  · obtain ⟨node, hnode, hkind⟩ := hlast
    rw [← lastOrRoot_eq_deepest hnode hkind]
    exact iff_of_true hlooksUp (Or.inl ⟨node, hnode, hkind⟩)
  · rw [lastOrRoot_eq_root hlast] at hlooksUp
    constructor
    · intro hdeepest
      exact Or.inr ((hlooksUp.eq_or_unasked hname hdeepest).imp_left Eq.symm)
    · rintro (h | hsame | hunasked)
      · exact absurd h hlast
      · rwa [hsame]
      · intro r w' requests
        rw [hlooksUp r w' requests, hname]
        simp only [seeks_last_congr hunasked]

/-- Every name is in every node, and these are selected; the node `o` can be asked nothing. -/
def selecting (selected : List (List String)) : Session Unit (List String) (List String) :=
  { everywhere ⟨".", "\"", .mixed, false⟩ with
    kind := fun path => if path = ["o"] then .leaf else .procedureContainer
    selected := pure selected }

/-- A node that is no container makes no difference in front of the deepest container. -/
theorem sought_behind_leaf :
    (selecting [["o"], ["s"]]).deepest [] [["o"], ["s"]] = ["s"] ∧
    (selecting [["o"], ["s"]]).LooksUpIn "p" () () ["s"] := by
  have hname : (selecting [["o"], ["s"]]).dialect.segments "p" = [['p']] := by decide +kernel
  have hdeepest : (selecting [["o"], ["s"]]).deepest [] [["o"], ["s"]] = ["s"] := by decide
  have hlooksUp := (sought_in_deepest_iff rfl hname (pure_gives [["o"], ["s"]] ())).2.mpr
    (Or.inl ⟨["s"], rfl, rfl⟩)
  rw [hdeepest] at hlooksUp
  exact ⟨hdeepest, hlooksUp⟩

/-- Behind the deepest container it hides that one, and the procedure of the same name in the root
is found. -/
theorem namesake_found_in_root :
    (selecting [["s"], ["o"]]).deepest [] [["s"], ["o"]] = ["s"] ∧
    ((selecting [["s"], ["o"]]).resolve "p").Asks () (.ok (some ["p"])) ()
      [.selectionAsked, .procedureAsked [] "p"] ∧
    ¬ (selecting [["s"], ["o"]]).LooksUpIn "p" () () ["s"] := by
  have hname : (selecting [["s"], ["o"]]).dialect.segments "p" = [['p']] := by decide +kernel
  have hlooksUp : (selecting [["s"], ["o"]]).LooksUpIn "p" () () [] :=
    looksUpIn_lastOrRoot rfl hname (pure_gives [["s"], ["o"]] ())
  refine ⟨by decide, (hlooksUp _ _ _).mpr
    ⟨.ok (some ["p"]), [.procedureAsked [] "p"], ?_, rfl, rfl⟩, fun hdeepest => ?_⟩
  · have hasked : (selecting [["s"], ["o"]]).askedName ['p'] = "p" := by decide +kernel
    rw [hname, ← hasked]
    exact .procedure (by decide) rfl (pure_gives _ ())
  · rcases hlooksUp.eq_or_unasked hname hdeepest with hsame | hblank | ⟨hunable, -⟩
    · cases hsame
    · exact absurd hblank (by decide)
    · cases hunable

end ProcedureCall.Session
