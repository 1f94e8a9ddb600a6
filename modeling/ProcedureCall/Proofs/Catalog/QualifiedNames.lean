import ProcedureCall.Proofs.CallText.Plain
import ProcedureCall.Proofs.Catalog.Requests

/-!
# Qualified names, called and resolved

To find the procedure of a call text that is a name and a pair of parentheses, the library reads a
name out of the text and resolves that one. It may be a tail of the whole: where a segment is empty
or begins with a digit, the search goes on behind the separator. `found_as_resolved_iff` tells for
which names a call finds only what the whole name is resolved to.

A name is resolved through the names that the catalog is asked for on its behalf (`Dialect.path?`),
so that two names with the same path are resolved alike (`resolve_congr`), and in a catalog that has
every name everywhere nothing else tells what comes out (`resolve_everywhere_iff`).
-/

namespace ProcedureCall

open ProcedureCall.Action

namespace Dialect

/-- The names that the catalog is asked for to resolve a name. There are none if a segment of it is
empty. -/
def path? (d : Dialect) (name : String) : Option (List String) :=
  if (d.segments name).any fun segment => (Text.trim segment).isEmpty then none
  else some ((d.segments name).map fun segment => String.ofList (d.fold (Text.trim segment)))

/-- In every session of the dialect, a procedure that is found by the name with a pair of
parentheses is the one that the name is resolved to. -/
def FindsAsResolved (d : Dialect) (name : String) : Prop :=
  ∀ (σ ν π : Type) (s : Session σ ν π), s.dialect = d → ∀ w procedure,
    ((s.find (some (name ++ "()"))).run w).result = .ok (some procedure) →
      ((s.resolve name).run w).result = .ok (some procedure)

variable {d : Dialect}

theorem segments_ne_nil (d : Dialect) (name : String) : d.segments name ≠ [] :=
  CallText.segmentsFrom_ne_nil _ _

theorem path?_eq_some_iff {name : String} {names : List String} :
    d.path? name = some names ↔
      (∀ segment ∈ d.segments name, (Text.trim segment).isEmpty = false) ∧
        (d.segments name).map (fun segment => String.ofList (d.fold (Text.trim segment))) = names := by
  unfold path?
  split
  case isTrue hany =>
    obtain ⟨segment, hsegment, hempty⟩ := List.any_eq_true.mp hany
    simp only [reduceCtorEq, false_iff, not_and]
    intro hall
    rw [hall segment hsegment] at hempty
    cases hempty
  case isFalse hany =>
    have hall : ∀ segment ∈ d.segments name, (Text.trim segment).isEmpty = false := by
      simpa using hany
    rw [Option.some.injEq, and_iff_right hall]

theorem length_of_path? {name : String} {names : List String} (h : d.path? name = some names) :
    names.length = (d.segments name).length := by
  rw [← (path?_eq_some_iff.mp h).2, List.length_map]

end Dialect

namespace Session

variable {σ ν π : Type} {s : Session σ ν π}

theorem find_eq_of_target? {text : Option String} {name : String}
    (h : s.dialect.target? text = some name) : s.find text = s.resolve name := by
  rw [find, h]

/-- A name is resolved to a procedure if its look-up gives it. -/
theorem resolve_eq_some_iff {name : String} {w : σ} {procedure : π} :
    ((s.resolve name).run w).result = .ok (some procedure) ↔
      ((s.lookUp (s.dialect.segments name)).run w).result = .ok (some procedure) := by
  constructor
  · intro hresult
    obtain ⟨w', j, h⟩ := exists_ends_of_result hresult
    rcases resolve_gives h with hlookUp | ⟨hnone, -⟩
    · exact hlookUp
    · cases hnone
  · intro hresult
    obtain ⟨r, w', j, h⟩ := exists_ends (s.resolve name) w
    obtain ⟨found, j₁, hlookUp, -, hfound⟩ := exists_lookUp_of_resolve h
    rw [h.result]
    exact hfound _ (hlookUp.result.symm.trans hresult)

/-- A name with an empty segment is not resolved. -/
theorem exists_path_of_resolve {name : String} {w : σ} {procedure : π}
    (h : ((s.resolve name).run w).result = .ok (some procedure)) :
    ∃ names, s.dialect.path? name = some names := by
  obtain ⟨w', j, hlookUp⟩ := exists_ends_of_result (resolve_eq_some_iff.mp h)
  have hsegments := (arrives_of_lookUp (s.dialect.segments_ne_nil name) hlookUp).1
  exact ⟨_, Dialect.path?_eq_some_iff.mpr ⟨hsegments, rfl⟩⟩

/-- Where the container of a procedure is reached through the path of a name, the name is resolved
to what the container answers. -/
theorem resolve_of_arrives {name : String} {root container : ν} {names : List String}
    {last : String} {asked : List ν} {w w₁ w' : σ} {procedure : π} {notes : List Note}
    (hroot : s.root = some root) (hpath : s.dialect.path? name = some (names ++ [last]))
    (h : s.Arrives root w names asked container w₁)
    (hkind : (s.kind container).looksUpProcedures = true)
    (hprocedure : (s.procedure container last).Gives w₁ (some procedure) w' notes) :
    ((s.resolve name).run w).result = .ok (some procedure) := by
  obtain ⟨hsegments, hnames⟩ := Dialect.path?_eq_some_iff.mp hpath
  obtain ⟨r, w₂, j, hlookUp⟩ := exists_ends (s.lookUp (s.dialect.segments name)) w
  obtain ⟨-, notes', hanswer⟩ := lookUps_of_arrives hroot h hkind hnames hsegments hlookUp
  rw [resolve_eq_some_iff, hlookUp.result]
  exact (Ends.unique hanswer hprocedure).1

/-- Names with the same path are resolved to the same procedure. -/
theorem resolve_congr {name name' : String} {names : List String}
    (hpath : s.dialect.path? name = some names) (hpath' : s.dialect.path? name' = some names)
    {w : σ} {procedure : π} (h : ((s.resolve name).run w).result = .ok (some procedure)) :
    ((s.resolve name').run w).result = .ok (some procedure) := by
  obtain ⟨w', j, hlookUp⟩ := exists_ends_of_result (resolve_eq_some_iff.mp h)
  obtain ⟨-, root, before, last, asked, container, w₁, hroot, hnames, harrives, hkind, notes,
    hprocedure⟩ := arrives_of_lookUp (s.dialect.segments_ne_nil name) hlookUp
  obtain rfl : names = before ++ [last] := (Dialect.path?_eq_some_iff.mp hpath).2.symm.trans hnames
  exact resolve_of_arrives hroot hpath' harrives hkind hprocedure

/-! ### A catalog that has every name -/

theorem descends_everywhere (d : Dialect) (names container : List String) (w : σ) :
    ∃ asked, (everywhere d : Session σ _ _).Descends container names w asked (container ++ names)
      w := by
  induction names generalizing container with
  | nil => exact ⟨[], by rw [List.append_nil]; exact .nil⟩
  | cons name names ih =>
    obtain ⟨asked, hdescends⟩ := ih (container ++ [name])
    rw [List.append_assoc, List.singleton_append] at hdescends
    exact ⟨_, .cons (pure_gives _ w) rfl hdescends⟩

theorem arrives_everywhere (d : Dialect) (names : List String) (w : σ) :
    ∃ asked, (everywhere d : Session σ _ _).Arrives [] w names asked names w := by
  cases names with
  | nil =>
    have hselected : (everywhere d : Session σ _ _).askSelected.Gives w [] w
        [(.selectionAsked : Event (List String) (List String))] :=
      ends_asked.mpr ⟨[], pure_gives [] w, rfl⟩
    exact ⟨[], .selected (hselected.bind (pure_gives [] w))⟩
  | cons name names =>
    obtain ⟨asked, hdescends⟩ := descends_everywhere d (name :: names) [] w
    exact ⟨asked, .descended (List.cons_ne_nil _ _) hdescends⟩

/-- Where every name is everywhere, a name is resolved to its path. -/
theorem resolve_everywhere_iff {d : Dialect} {name : String} {w : σ} {path : List String} :
    (((everywhere d).resolve name).run w).result = .ok (some path) ↔ d.path? name = some path := by
  have hresolve : ∀ {path}, d.path? name = some path →
      (((everywhere d).resolve name).run w).result = .ok (some path) := by
    intro path hpath
    have hne : path ≠ [] := by
      rintro rfl
      exact d.segments_ne_nil name (List.eq_nil_of_length_eq_zero (Dialect.length_of_path? hpath).symm)
    obtain ⟨names, last, rfl⟩ : ∃ names last, path = names ++ [last] :=
      ⟨_, _, (List.dropLast_concat_getLast hne).symm⟩
    obtain ⟨asked, harrives⟩ := arrives_everywhere d names w
    exact resolve_of_arrives rfl hpath harrives rfl (pure_gives _ w)
  constructor
  · intro h
    obtain ⟨names, hpath⟩ := exists_path_of_resolve h
    have hnames := (hresolve hpath).symm.trans h
    rw [Except.ok.injEq] at hnames
    rw [← hnames]
    exact hpath
  · exact hresolve

/-- Where every name is everywhere, a call finds the path of the name that is read out of it. -/
theorem find_everywhere {d : Dialect} {text : Option String} {name : String} {w : σ}
    {path : List String} (htarget : d.target? text = some name) (hpath : d.path? name = some path) :
    (((everywhere d).find text).run w).result = .ok (some path) := by
  rw [@find_eq_of_target? _ _ _ (everywhere d) _ _ htarget]
  exact resolve_everywhere_iff.mpr hpath

end Session

/-! ### Called and resolved -/

namespace Dialect

open CallText

variable {d : Dialect} {name : String}

/-- A call finds what the name is resolved to if the name that is read out of the call has the path
of the whole name, or none. -/
theorem findsAsResolved_iff :
    d.FindsAsResolved name ↔ ∀ target path, d.target? (some (name ++ "()")) = some target →
      d.path? target = some path → d.path? name = some path := by
  constructor
  · intro h target path htarget hpath
    exact Session.resolve_everywhere_iff.mp
      (h Unit _ _ _ rfl () _ (Session.find_everywhere htarget hpath))
  · rintro h σ ν π s rfl w procedure hfind
    cases htarget : s.dialect.target? (some (name ++ "()")) with
    | none =>
      rw [Session.find, htarget] at hfind
      cases hfind
    | some target =>
      rw [Session.find_eq_of_target? htarget] at hfind
      obtain ⟨path, hpath⟩ := Session.exists_path_of_resolve hfind
      exact Session.resolve_congr hpath (h target path htarget hpath) hfind

variable {separator : Char} (hseparator : d.separator.toList = [separator])
  (h : StandOut [separator] d.quote.toList)
include hseparator h

theorem segments_of_plain (hplain : Plain separator name.toList) :
    d.segments name = name.toList.splitOn separator := by
  rw [segments, hseparator]
  refine segments_eq_splitOn fun c hc hquote => ?_
  have hmem : c ∈ d.quote.toList := hquote ▸ List.mem_singleton_self c
  obtain rfl := hplain.eq_separator hc (h.quote_isDelimiter c hmem).isNameChar
  exact h.not_mem_quote c (List.mem_singleton_self c) hmem

/-- A name made of identifiers has a path. -/
theorem exists_path_of_identifiers (hplain : Plain separator name.toList)
    (hidentifiers : ∀ piece ∈ name.toList.splitOn separator, IsIdentifier piece) :
    ∃ path, d.path? name = some path := by
  refine ⟨_, path?_eq_some_iff.mpr ⟨fun segment hsegment => ?_, rfl⟩⟩
  rw [segments_of_plain hseparator h hplain] at hsegment
  have hidentifier := hidentifiers segment hsegment
  have htrim := hidentifier.trim_eq (List.forall_mem_nil _) (List.forall_mem_nil _)
  rw [List.nil_append, List.append_nil] at htrim
  rw [htrim]
  exact List.isEmpty_eq_false_iff.mpr hidentifier.ne_nil

/-- A call of a plain text finds what the text is resolved to unless its last piece is an identifier
and another piece is none. -/
theorem findsAsResolved_iff_of_plain (hplain : Plain separator name.toList) :
    d.FindsAsResolved name ↔
      (IsIdentifier ((name.toList.splitOn separator).getLast (List.splitOn_ne_nil _ _)) →
        ∀ piece ∈ name.toList.splitOn separator, IsIdentifier piece) := by
  have hread : d.target? (some (name ++ "()")) =
      (CallText.target? [separator] d.quote.toList (name.toList ++ ['(', ')'])).map
        String.ofList := by
    simp [target?, hseparator]
  rw [findsAsResolved_iff, hread]
  constructor
  · intro hfinds hlast
    obtain ⟨target, htarget⟩ := Option.isSome_iff_exists.mp (h.isSome_target?_of_last hlast)
    obtain ⟨hsuffix, htarget_plain, hidentifiers⟩ := h.pieces_of_target? hplain htarget
    rw [← String.toList_ofList (l := target)] at hsuffix htarget_plain hidentifiers
    obtain ⟨path, hpath⟩ := exists_path_of_identifiers hseparator h htarget_plain hidentifiers
    have hname := hfinds _ path (by rw [htarget]; rfl) hpath
    -- both have as many segments as the path, so the last pieces are all the pieces
    have hlength : (String.ofList target).toList.splitOn separator =
        name.toList.splitOn separator := by
      refine hsuffix.eq_of_length ?_
      rw [← segments_of_plain hseparator h htarget_plain, ← segments_of_plain hseparator h hplain,
        ← length_of_path? hpath, ← length_of_path? hname]
    rw [← hlength]
    exact hidentifiers
  · intro hall target path htarget hpath
    obtain ⟨tail, htail, rfl⟩ := Option.map_eq_some_iff.mp htarget
    obtain ⟨hsuffix, -, hidentifiers⟩ := h.pieces_of_target? hplain htail
    have hlast : IsIdentifier ((name.toList.splitOn separator).getLast
        (List.splitOn_ne_nil _ _)) := by
      rw [← hsuffix.getLast (List.splitOn_ne_nil _ _)]
      exact hidentifiers _ (List.getLast_mem _)
    rw [h.target?_of_identifiers (hall hlast), Option.some.injEq] at htail
    rw [← htail, String.ofList_toList] at hpath
    exact hpath

end Dialect

open CallText

/-- **When a call finds what its name is resolved to.** In every session of a dialect, a procedure
that is found by a name with a pair of parentheses is the one that the name is resolved to, exactly
if the name that is read out of the call has the same path, or none. Of a name that is made of
identifier characters and of separators that are single characters and stand out, the last piece
must then be no identifier, so that the call finds nothing, or all pieces must be identifiers. -/
theorem found_as_resolved_iff (d : Dialect) (name : String) :
    (d.FindsAsResolved name ↔ ∀ target path, d.target? (some (name ++ "()")) = some target →
      d.path? target = some path → d.path? name = some path) ∧
    ∀ separator, d.separator.toList = [separator] → StandOut [separator] d.quote.toList →
      Plain separator name.toList →
      (d.FindsAsResolved name ↔
        (IsIdentifier ((name.toList.splitOn separator).getLast (List.splitOn_ne_nil _ _)) →
          ∀ piece ∈ name.toList.splitOn separator, IsIdentifier piece)) :=
  ⟨Dialect.findsAsResolved_iff,
    fun _ hseparator h hplain => Dialect.findsAsResolved_iff_of_plain hseparator h hplain⟩

/-- A qualified name whose pieces are identifiers is found as it is resolved. -/
theorem qualified_name_found_as_resolved :
    Dialect.FindsAsResolved ⟨".", "\"", .lower, false⟩ "hr.get_employee" :=
  ((found_as_resolved_iff _ _).2 '.' (by decide) (standOut_singletons (by decide +kernel)
    (by decide +kernel) (by decide)) (by decide +kernel)).mpr fun _ => by decide +kernel

/-- In a session of that dialect, a call finds the procedure of the last piece, though the piece
before it is empty and the name is not resolved. -/
theorem tail_found_behind_empty_piece :
    ∃ s : Session Unit (List String) (List String), s.dialect = ⟨".", "\"", .lower, false⟩ ∧
      Plain '.' "hr..get_employee".toList ∧
      ((s.find (some ("hr..get_employee" ++ "()"))).run ()).result = .ok (some ["get_employee"]) ∧
      ((s.resolve "hr..get_employee").run ()).result = .ok none := by
  refine ⟨Session.everywhere ⟨".", "\"", .lower, false⟩, rfl, by decide +kernel, ?_, by rfl⟩
  have htarget : Dialect.target? ⟨".", "\"", .lower, false⟩ (some ("hr..get_employee" ++ "()")) =
      some "get_employee" := by decide +kernel
  exact Session.find_everywhere htarget (by decide +kernel)

end ProcedureCall
