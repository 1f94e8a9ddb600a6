import ProcedureCall.CommandLine.Run
import ProcedureCall.Proofs.Catalog.QualifiedNames
import ProcedureCall.Proofs.Text.Case

/-!
# Names and calls on the command line

To resolve a text, the command line takes it for a call if it holds an opening parenthesis anywhere,
and else for a name. `named_as_called_iff` tells for which names this makes no difference: the
name and the name with a pair of parentheses have to lead to the same path in the catalog. For a
name that can be spelled, with a separator and a quote that stand out, they do exactly if no
parenthesis stands between its quotes. Such a one makes the name look like a call, and what is read
out of it then is another name or none: it holds fewer parentheses, and a path holds as many of them
as its name (`Dialect.count_path?`).
-/

namespace ProcedureCall

open ProcedureCall.Action ProcedureCall.CallText ProcedureCall.CommandLine

/-! ### The parentheses of a path -/

namespace Dialect

variable {d : Dialect} {c : Char} (hc : Text.BeforeLetters c) (hquote : c ∉ d.quote.toList)
  (hlength : d.quote.toList.length ≤ 1)
include hquote hlength

/-- To take the quotes off a segment leaves the other characters. -/
theorem count_unquote? {segment name : List Char} (h : d.unquote? segment = some name) :
    name.count c = segment.count c := by
  unfold unquote? at h
  dsimp only at h
  split at h
  case isTrue hquoted =>
    obtain ⟨hne, htwo, hstart, hend⟩ := hquoted
    obtain ⟨q, hq⟩ : ∃ q, d.quote.toList = [q] := by
      refine List.length_eq_one_iff.mp (Nat.le_antisymm hlength ?_)
      exact List.length_pos_iff.mpr hne
    rw [hq] at hquote hstart hend h
    have hcq : c ≠ q := List.ne_of_not_mem_cons hquote
    obtain ⟨rest, rfl⟩ := List.isPrefixOf_iff_prefix.mp hstart
    obtain ⟨inner, hinner⟩ := List.isSuffixOf_iff_suffix.mp hend
    -- with two characters at least, the closing quote is not the opening one
    obtain ⟨middle, rfl⟩ : ∃ middle, rest = middle ++ [q] := by
      cases inner with
      | nil =>
        rw [← hinner] at htwo
        simp at htwo
      | cons e middle => exact ⟨middle, (List.cons.inj hinner).2.symm⟩
    rw [Option.some.injEq] at h
    rw [← h, Text.count_replaceAll (by simp) (by simp [hcq]) (by simp [hcq])]
    simp [Ne.symm hcq]
  case isFalse => cases h

include hc in
/-- A segment is folded without losing or adding any character that comes before the letters. -/
theorem count_fold (segment : List Char) : (d.fold segment).count c = segment.count c := by
  unfold fold
  split
  case h_1 name hname => exact count_unquote? hquote hlength hname
  case h_2 =>
    split
    · exact Text.count_upper hc segment
    · exact Text.count_lower hc segment
    · rfl

include hc in
/-- A path holds what its name holds of the characters before the letters, the separators, the
quotes and white space aside. -/
theorem count_path? (hblank : Text.isBlank c = false) (hseparator : d.separator.toList ≠ [c])
    {name : String} {names : List String} (h : d.path? name = some names) :
    (names.flatMap String.toList).count c = name.toList.count c := by
  obtain ⟨-, rfl⟩ := path?_eq_some_iff.mp h
  have hsegment : ∀ segment : List Char,
      (String.ofList (d.fold (Text.trim segment))).toList.count c = segment.count c := by
    intro segment
    rw [String.toList_ofList, count_fold hc hquote hlength, Text.trim, Text.count_trimBy hblank]
  have hsegments : ∀ segments : List (List Char),
      ((segments.map fun segment => String.ofList (d.fold (Text.trim segment))).flatMap
        String.toList).count c = segments.flatten.count c := by
    intro segments
    induction segments with
    | nil => rfl
    | cons segment segments ih =>
      rw [List.map_cons, List.flatMap_cons, List.count_append, hsegment, ih, List.flatten_cons,
        List.count_append]
  exact (hsegments _).trans (count_segmentsFrom hseparator false _)

end Dialect

namespace CommandLine

/-! ### The path of a text -/

/-- The name that a text stands for on the command line: what it invokes if it looks like a call,
and else the text itself. -/
def named? (d : Dialect) (text : String) : Option String :=
  if text.toList.contains '(' then d.target? (some text) else some (trimmed text)

/-- The names that the catalog is asked for on behalf of a text. -/
def namedPath? (d : Dialect) (text : String) : Option (List String) := (named? d text).bind d.path?

/-- In every session of the dialect, a name and its call lead to the same procedure, or neither
leads to one. -/
def NamedAsCalled (d : Dialect) (name : String) : Prop :=
  ∀ (σ ν π : Type) (s : Session σ ν π), s.dialect = d → ∀ w procedure,
    ((findNamed s name).run w).result = .ok (some procedure) ↔
      ((findNamed s (name ++ "()")).run w).result = .ok (some procedure)

section

variable {σ ν π : Type} {s : Session σ ν π}

theorem findNamed_eq (text : String) :
    findNamed s text = (named? s.dialect text).elim (pure none) s.resolve := by
  unfold findNamed named?
  split
  case isTrue =>
    rw [Session.find]
    cases s.dialect.target? (some text) <;> rfl
  case isFalse => rfl

theorem findNamed_of_named? {text : String} (h : named? s.dialect text = none) :
    findNamed s text = pure none := by
  rw [findNamed_eq, h, Option.elim_none]

/-- A procedure is found through the name that the text stands for. -/
theorem findNamed_eq_some_iff {text : String} {w : σ} {procedure : π} :
    ((findNamed s text).run w).result = .ok (some procedure) ↔
      ∃ name, named? s.dialect text = some name ∧
        ((s.resolve name).run w).result = .ok (some procedure) := by
  rw [findNamed_eq]
  cases named? s.dialect text with
  | none =>
    have hnone : ((pure none : Action σ (Event ν π) (Option π)).run w).result = .ok none := rfl
    simp [hnone]
  | some name => simp

/-- Texts with the same path lead to the same procedure. -/
theorem findNamed_congr {text text' : String}
    (h : namedPath? s.dialect text = namedPath? s.dialect text') {w : σ} {procedure : π}
    (hfound : ((findNamed s text).run w).result = .ok (some procedure)) :
    ((findNamed s text').run w).result = .ok (some procedure) := by
  obtain ⟨name, hname, hresolve⟩ := findNamed_eq_some_iff.mp hfound
  obtain ⟨path, hpath⟩ := Session.exists_path_of_resolve hresolve
  unfold namedPath? at h
  rw [hname, Option.bind_some, hpath] at h
  obtain ⟨name', hname', hpath'⟩ := Option.bind_eq_some_iff.mp h.symm
  exact findNamed_eq_some_iff.mpr ⟨name', hname', Session.resolve_congr hpath hpath' hresolve⟩

end

/-- Where every name is everywhere, a text leads to its path. -/
theorem findNamed_everywhere_iff {d : Dialect} {text : String} {path : List String} :
    ((findNamed (Session.everywhere d : Session Unit _ _) text).run ()).result = .ok (some path) ↔
      namedPath? d text = some path := by
  rw [findNamed_eq_some_iff, namedPath?, Option.bind_eq_some_iff]
  exact exists_congr fun name => and_congr_right fun _ => Session.resolve_everywhere_iff

theorem namedAsCalled_iff {d : Dialect} {name : String} :
    NamedAsCalled d name ↔ namedPath? d name = namedPath? d (name ++ "()") := by
  constructor
  · intro h
    refine Option.ext fun path => ?_
    rw [← findNamed_everywhere_iff, ← findNamed_everywhere_iff]
    exact h _ _ _ _ rfl () path
  · rintro h σ ν π s rfl w procedure
    exact ⟨findNamed_congr h, findNamed_congr h.symm⟩

/-! ### Names that can be spelled -/

/-- What a text invokes is followed by a parenthesis, so it holds fewer of them than the text. -/
theorem count_target?_lt {d : Dialect} {text target : String}
    (htarget : d.target? (some text) = some target) :
    target.toList.count '(' < text.toList.count '(' := by
  obtain ⟨read, hread, rfl⟩ := Option.map_eq_some_iff.mp htarget
  obtain ⟨before, after, hinvokes, -⟩ := exists_invokes_of_target? hread
  have hpositive : 0 < after.count '(' := by
    cases hinvokes.opens with
    | intro _ => exact List.count_pos_iff.mpr (by simp)
  rw [String.toList_ofList, hinvokes.text_eq, List.count_append, List.count_append]
  omega

section

variable {d : Dialect} {name : String} (h : StandOut d.separator.toList d.quote.toList)
  (n : Spelling d.quote.toList) (hn : n.text d.separator.toList = name.toList)
include h hn

theorem named?_called : named? d (name ++ "()") = some name := by
  have hopens : Opens ['(', ')'] := .intro (List.forall_mem_nil _)
  have htarget := h.target?_of_spelling n hopens
  rw [hn] at htarget
  rw [named?, if_pos (by simp), Dialect.target?, Option.bind_some, String.toList_append]
  change (target? _ _ (name.toList ++ ['(', ')'])).map String.ofList = some name
  rw [htarget, Option.map_some, String.ofList_toList]

theorem named?_of_not_mem (hopening : '(' ∉ name.toList) : named? d name = some name := by
  have htrim := h.trim_text n
  rw [hn] at htrim
  rw [named?, if_neg (by simpa using hopening), trimmed, htrim, String.ofList_toList]

omit hn in
/-- An opening parenthesis in a name stands in a quoted run, so there is a quote. -/
theorem exists_quote_of_opening (hopening : '(' ∈ n.text d.separator.toList) :
    ∃ q, d.quote.toList = [q] := by
  have hsegment : ∃ s ∈ n.segments, '(' ∈ s := by
    rcases n.mem_of_mem_text hopening with hmem | hmem | hmem
    · exact hmem
    · exact absurd rfl (h.separator_isDelimiter _ hmem).ne_opening
    · exact absurd hmem (by decide)
  obtain ⟨s, hs, hmem⟩ := hsegment
  rcases n.isSegment_of_mem hs with hquoted | hidentifier
  · cases hquoted with
    | intro hne _ _ =>
      exact List.length_eq_one_iff.mp
        (Nat.le_antisymm h.length_quote (List.length_pos_iff.mpr hne))
  · exact absurd (hidentifier.isNameChar _ hmem) (by rw [isNameChar_opening]; decide)

/-- A name with a quote has a path, as no segment of it is empty. -/
theorem exists_path_of_spelling {q : Char} (hq : d.quote.toList = [q]) :
    ∃ path, d.path? name = some path := by
  refine ⟨_, Dialect.path?_eq_some_iff.mpr ⟨fun segment hsegment => ?_, rfl⟩⟩
  rw [Dialect.segments, ← hn] at hsegment
  exact List.isEmpty_eq_false_iff.mpr (h.trim_ne_nil hq n segment hsegment)

/-- What is read out of a name with a parenthesis has another path than the name. -/
theorem namedPath?_ne (hopening : '(' ∈ name.toList) : namedPath? d name ≠ d.path? name := by
  obtain ⟨q, hq⟩ := exists_quote_of_opening h n (hn ▸ hopening)
  obtain ⟨path, hpath⟩ := exists_path_of_spelling h n hn hq
  rw [hpath, namedPath?, named?, if_pos (by simpa using hopening)]
  intro heq
  obtain ⟨target, htarget, hsame⟩ := Option.bind_eq_some_iff.mp heq
  have hquote : '(' ∉ d.quote.toList := fun hmem => (h.quote_isDelimiter _ hmem).ne_opening rfl
  have hseparator : d.separator.toList ≠ ['('] := fun heq =>
    (h.separator_isDelimiter '(' (heq ▸ List.mem_singleton_self '(')).ne_opening rfl
  have hcount : ∀ {text path}, d.path? text = some path →
      (path.flatMap String.toList).count '(' = text.toList.count '(' :=
    Dialect.count_path? ⟨by decide, by decide⟩ hquote h.length_quote (by decide) hseparator
  have hless := count_target?_lt htarget
  rw [← hcount hsame, ← hcount hpath] at hless
  exact lt_irrefl _ hless

end

/-- **When a name is found as its call is.** In every session of a dialect, a name and its call lead
to the same procedure or both to none, exactly if their paths are the same. If the separator and
the quote stand out and the name can be spelled, this is so exactly if there is no opening
parenthesis in the name; and then the two are resolved by the same requests. -/
theorem named_as_called_iff (d : Dialect) (name : String) :
    (NamedAsCalled d name ↔ namedPath? d name = namedPath? d (name ++ "()")) ∧
    (StandOut d.separator.toList d.quote.toList →
      (∃ n : Spelling d.quote.toList, n.text d.separator.toList = name.toList) →
      (NamedAsCalled d name ↔ '(' ∉ name.toList) ∧
      ('(' ∉ name.toList → ∀ (σ ν π : Type) (s : Session σ ν π), s.dialect = d →
        findNamed s name = findNamed s (name ++ "()"))) := by
  refine ⟨namedAsCalled_iff, ?_⟩
  rintro h ⟨n, hn⟩
  have hcalled := named?_called h n hn
  refine ⟨?_, ?_⟩
  · constructor
    · intro halike hopening
      refine namedPath?_ne h n hn hopening ?_
      rw [namedAsCalled_iff.mp halike, namedPath?, hcalled, Option.bind_some]
    · intro hopening
      rw [namedAsCalled_iff, namedPath?, namedPath?, hcalled, named?_of_not_mem h n hn hopening]
  · rintro hopening σ ν π s rfl
    rw [findNamed_eq, findNamed_eq, hcalled, named?_of_not_mem h n hn hopening]

/-- The quoted run holds a separator, and the name is found as its call is. -/
theorem quoted_separator_named_as_called :
    NamedAsCalled ⟨".", "\"", .lower, false⟩ "\"a.b\".c" := by
  have hsegments : ∀ s ∈ ["\"a.b\"".toList, "c".toList], IsSegment ['"'] s := by
    refine List.forall_mem_cons.mpr ⟨Or.inl ?_, List.forall_mem_singleton.mpr (Or.inr ?_)⟩
    · exact isQuoted_quoted (q := '"') (s := "a.b".toList) (by decide)
    · decide +kernel
  obtain ⟨n, hn, -⟩ := exists_spelling ['.'] (List.cons_ne_nil _ _) hsegments
  have hstandOut : StandOut ['.'] ['"'] :=
    standOut_singletons (by decide +kernel) (by decide +kernel) (by decide)
  have hname : n.text ['.'] = "\"a.b\".c".toList := hn.trans (by decide)
  exact ((named_as_called_iff ⟨".", "\"", .lower, false⟩ "\"a.b\".c").2 hstandOut
    ⟨n, hname⟩).1.mpr (by decide)

/-- A parenthesis in the quoted run keeps the name from being found, and its call is found. -/
theorem quoted_parenthesis_only_called :
    ∃ (s : Session Unit (List String) (List String)) (n : Spelling ['"']),
      s.dialect = ⟨".", "\"", .lower, false⟩ ∧ n.text ['.'] = "\"a(b\"".toList ∧
      ((findNamed s ("\"a(b\"" ++ "()")).run ()).result = .ok (some ["a(b"]) ∧
      ((findNamed s "\"a(b\"").run ()).result = .ok none := by
  refine ⟨Session.everywhere ⟨".", "\"", .lower, false⟩,
    ⟨"\"a(b\"".toList, [], Or.inl (isQuoted_quoted (q := '"') (s := "a(b".toList) (by decide))⟩,
    rfl, by decide, findNamed_everywhere_iff.mpr (by decide +kernel), ?_⟩
  rw [findNamed_of_named?
    (show named? ⟨".", "\"", .lower, false⟩ "\"a(b\"" = none by decide +kernel)]
  rfl

end CommandLine

end ProcedureCall
