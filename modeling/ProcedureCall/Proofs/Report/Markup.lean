import Mathlib.Data.List.InsertIdx
import ProcedureCall.Proofs.Fallible
import ProcedureCall.Proofs.Report.Pieces

/-!
# What marked-up text reads as

Most texts read as themselves. The others are those that hold a tag, a backslash in front of a
bracket, the name of an emoji or one of the control characters that are left out: `IsLiteral` says
what a text must be free of.

## What is proved

* `exists_read_iff` — a text can be read if its closing tags have their fellows and what the tags
  ask for can be read.
* `IsLiteral.readsAsItself`, `ReadsAsItself.isLiteral` — literal texts read as themselves, and where
  no emoji can be named nothing else does.
-/

namespace ProcedureCall.Report

namespace Markup

open List Fallible

variable {s inner rest line : List Char}

/-! ### Open tags -/

/-- The tags that are open, innermost first. -/
def State.tags (s : State) : List Tag := s.openTags.map (·.2)

/-- The tags that are open after one more tag, unless that has no fellow or is no good. -/
def openAfter (tags : List Tag) (t : Tag) : Option (List Tag) :=
  ((⟨[], tags.map (0, ·), []⟩ : State).take t 0).toOption.map State.tags

section Open

variable {state state' : State}

/-- Where tags began plays no part in how one of them is ended. -/
theorem tags_finish (h : state.tags = state'.tags) (place : Nat) :
    (state.finish place).toOption.map State.tags =
      (state'.finish place).toOption.map State.tags := by
  have hplace : (state.openTags[place]?).map (·.2) = (state'.openTags[place]?).map (·.2) := by
    simpa [State.tags] using congrArg (·[place]?) h
  have herase : (state.openTags.eraseIdx place).map (·.2) =
      (state'.openTags.eraseIdx place).map (·.2) := by
    simpa [State.tags, eraseIdx_map] using congrArg (eraseIdx · place) h
  unfold State.finish
  rcases hs : state.openTags[place]? with _ | ⟨start, t⟩ <;>
    rcases hs' : state'.openTags[place]? with _ | ⟨start', t'⟩ <;> simp [hs, hs'] at hplace
  · exact congrArg some h
  · subst hplace
    dsimp only
    cases handlerFault? t with
    | some fault => rfl
    | none =>
      dsimp only
      split
      · exact congrArg some herase
      · cases styleOf t with
        | error fault => rfl
        | ok style => exact congrArg some herase

theorem chars_finish {place : Nat} (h : state.finish place = .ok state') :
    state'.chars = state.chars := by
  unfold State.finish at h
  split at h
  · cases h
    rfl
  · split at h
    · cases h
    · split at h
      · cases h
        rfl
      · obtain ⟨style, -, hdone⟩ := exists_of_bind_eq_ok h
        cases hdone
        rfl

/-- Where tags began plays no part in how a tag is taken in. -/
theorem tags_take (h : state.tags = state'.tags) (t : Tag) (position position' : Nat) :
    (state.take t position).toOption.map State.tags =
      (state'.take t position').toOption.map State.tags := by
  unfold State.take
  split
  case h_1 _ name _ =>
    have hempty : state.openTags.isEmpty = state'.openTags.isEmpty := by
      simpa [State.tags] using congrArg List.isEmpty h
    have hfind (n : List Char) : (state.openTags.findIdx? fun entry => entry.2.name == n) =
        state'.openTags.findIdx? fun entry => entry.2.name == n := by
      simpa [State.tags, findIdx?_map, Function.comp_def] using
        congrArg (findIdx? fun t => t.name == n) h
    dsimp only
    rw [hempty]
    split
    case isTrue =>
      split
      · rfl
      · exact tags_finish h 0
    case isFalse =>
      cases hname : normalName (Text.trim name) with
      | error fault => rfl
      | ok n =>
        simp only [bind, Except.bind, hfind]
        split
        · exact tags_finish h _
        · rfl
  case h_2 =>
    cases hname : normalName t.name with
    | error fault => rfl
    | ok n => exact congrArg (fun tags => some (_ :: tags)) h

theorem chars_take {t : Tag} {position : Nat} (h : state.take t position = .ok state') :
    state'.chars = state.chars := by
  unfold State.take at h
  split at h
  case h_1 _ name _ =>
    dsimp only at h
    split at h
    case isTrue =>
      split at h
      · cases h
      · exact chars_finish h
    case isFalse =>
      obtain ⟨n, -, hclosed⟩ := exists_of_bind_eq_ok h
      split at hclosed
      · exact chars_finish hclosed
      · cases hclosed
  case h_2 =>
    obtain ⟨n, -, hopened⟩ := exists_of_bind_eq_ok h
    cases hopened
    rfl

/-- The open tags tell whether pieces are taken in and which tags are open then. -/
theorem tags_takeAll (state : State) (ps : List Piece) :
    (state.takeAll ps).toOption.map State.tags = (tagsOf ps).foldlM openAfter state.tags := by
  induction ps generalizing state with
  | nil => rfl
  | cons p ps ih =>
    cases p with
    | plain chars => exact ih _
    | tag t position =>
      have hstep : (state.take t position).toOption.map State.tags = openAfter state.tags t :=
        tags_take (by simp [State.tags, Function.comp_def]) t position 0
      change ((state.take t position).bind fun s => s.takeAll ps).toOption.map State.tags =
        (openAfter state.tags t).bind fun tags => (tagsOf ps).foldlM openAfter tags
      rw [← hstep]
      cases state.take t position with
      | error fault => rfl
      | ok next => exact ih next

theorem chars_takeAll {ps : List Piece} (h : state.takeAll ps = .ok state') :
    state'.chars = state.chars ++ shownText ps := by
  induction ps generalizing state with
  | nil =>
    cases h
    exact (append_nil _).symm
  | cons p ps ih =>
    cases p with
    | plain chars =>
      rw [ih h, shownText_cons, append_assoc]
      rfl
    | tag t position =>
      obtain ⟨next, htake, hrest⟩ := exists_of_bind_eq_ok h
      rw [ih hrest, chars_take htake]
      rfl

theorem chars_text {text : MarkedText} (h : state.text = .ok text) : text.chars = state.chars := by
  obtain ⟨left, -, hdone⟩ := exists_of_bind_eq_ok h
  cases hdone
  rfl

/-- Tags that are still open in the end must ask for a style that can be read. -/
theorem exists_text_iff :
    (∃ text, state.text = .ok text) ↔ ∀ t ∈ state.tags, ∃ style, styleOf t = .ok style := by
  have hone (entry : Nat × Tag) : (∃ stretch, (do
      pure (⟨entry.1, state.chars.length, ← styleOf entry.2⟩ : Stretch)) = Except.ok stretch) ↔
      ∃ style, styleOf entry.2 = .ok style := by
    cases styleOf entry.2 <;> simp [bind, Except.bind, pure, Except.pure]
  rw [State.tags, forall_mem_map, ← forall₂_congr fun entry _ => hone entry,
    ← exists_mapM_eq_ok_iff, State.text]
  constructor
  · rintro ⟨text, htext⟩
    obtain ⟨left, hleft, -⟩ := exists_of_bind_eq_ok htext
    exact ⟨left, hleft⟩
  · rintro ⟨left, hleft⟩
    rw [hleft]
    exact ⟨_, rfl⟩

end Open

/-! ### What is read -/

theorem untagged_of_not_contains (h : s.contains '[' = false) : Untagged s := by
  intro t ht
  cases t with
  | nil => rfl
  | cons c t =>
    refine tagAt_eq_none_of_ne ?_ t
    rintro rfl
    have hmem : '[' ∈ s := ((mem_tails _ _).mp ht).mem mem_cons_self
    simp [hmem] at h

theorem unescaped_of_not_contains (h : s.contains '[' = false) : unescaped s = s := by
  rw [unescaped_eq_self_iff]
  intro hrun
  have hmem : '[' ∈ s := hrun.mem (by decide)
  simp [hmem] at h

theorem chars_read {text : MarkedText} (h : MarkedText.read s = .ok text) :
    text.chars = shownText (piecesAfter [] s) := by
  unfold MarkedText.read at h
  split at h
  case isTrue =>
    obtain ⟨state, hstate, htext⟩ := exists_of_bind_eq_ok h
    rw [chars_text htext, chars_takeAll hstate, nil_append, ← map_bare_pieces, shownText_map_bare]
  case isFalse hnone =>
    rw [Bool.not_eq_true] at hnone
    cases h
    rw [piecesAfter_of_untagged (untagged_of_not_contains hnone), nil_append, shownText_plainPiece,
      unescaped_of_not_contains hnone]

/-- A text can be read if each closing tag in it has its fellow and what the tags ask for can be
read. -/
theorem exists_read_iff :
    (∃ text, MarkedText.read s = .ok text) ↔
      ∃ tags, (tagsOf (piecesAfter [] s)).foldlM openAfter [] = some tags ∧
        ∀ t ∈ tags, ∃ style, styleOf t = .ok style := by
  unfold MarkedText.read
  split
  case isTrue =>
    have htags := tags_takeAll {} (pieces s)
    rw [← tagsOf_map_bare, map_bare_pieces] at htags
    cases hstate : ({} : State).takeAll (pieces s) with
    | error fault =>
      rw [hstate] at htags
      have hnone : (tagsOf (piecesAfter [] s)).foldlM openAfter [] = none := htags.symm
      simp [hnone, Except.bind]
    | ok state =>
      rw [hstate] at htags
      have hsome : (tagsOf (piecesAfter [] s)).foldlM openAfter [] = some state.tags := htags.symm
      simp [hsome, Except.bind, exists_text_iff]
  case isFalse hnone =>
    rw [Bool.not_eq_true] at hnone
    rw [piecesAfter_of_untagged (untagged_of_not_contains hnone), tagsOf_plainPiece]
    exact iff_of_true ⟨_, rfl⟩ ⟨[], rfl, nofun⟩

/-! ### Texts that read as themselves -/

/-- A text reads as itself. -/
def ReadsAsItself (s : List Char) : Prop := ∃ text, MarkedText.read s = .ok text ∧ text.chars = s

/-- A text is free of all that is read as something else. -/
structure IsLiteral (s : List Char) : Prop where
  /-- It holds no tag. -/
  untagged : Untagged s
  /-- No backslash stands in front of a bracket. -/
  unescaped : ¬ ['\\', '['] <:+: s
  /-- It names no emoji and holds no control character that is left out. -/
  shown : shown s = s

instance : Decidable (IsLiteral s) :=
  decidable_of_iff (Untagged s ∧ ¬ ['\\', '['] <:+: s ∧ shown s = s)
    ⟨fun ⟨h₁, h₂, h₃⟩ => ⟨h₁, h₂, h₃⟩, fun ⟨h₁, h₂, h₃⟩ => ⟨h₁, h₂, h₃⟩⟩

theorem IsLiteral.shownText (h : IsLiteral s) : shownText (piecesAfter [] s) = s := by
  rw [piecesAfter_of_untagged h.untagged, nil_append, shownText_plainPiece,
    unescaped_eq_self_iff.mpr h.unescaped, h.shown]

theorem IsLiteral.tagsOf (h : IsLiteral s) : tagsOf (piecesAfter [] s) = [] := by
  rw [piecesAfter_of_untagged h.untagged, tagsOf_plainPiece]

/-- Where no emoji can be named, only a literal text shows itself: what is shown is what is left
after characters were taken away, and each thing that is not literal takes one away. -/
theorem isLiteral_of_shownText (hcolons : s.count ':' < 2)
    (h : Markup.shownText (piecesAfter [] s) = s) : IsLiteral s := by
  have hplain : plainText (piecesAfter [] s) <+ s := plainText_sublist [] s
  have hshown : Markup.shownText (piecesAfter [] s) <+ plainText (piecesAfter [] s) :=
    shownText_sublist ((hplain.count_le ':').trans_lt hcolons)
  rw [h] at hshown
  have huntagged : Untagged s := untagged_of_plainText (hplain.antisymm hshown)
  rw [piecesAfter_of_untagged huntagged, nil_append, shownText_plainPiece] at h
  have hunescaped : Markup.unescaped s = s := by
    refine (unescaped_sublist s).antisymm ?_
    nth_rewrite 1 [← h]
    exact shown_sublist (((unescaped_sublist s).count_le ':').trans_lt hcolons)
  rw [hunescaped] at h
  exact ⟨huntagged, unescaped_eq_self_iff.mp hunescaped, h⟩

theorem IsLiteral.readsAsItself (h : IsLiteral s) : ReadsAsItself s := by
  obtain ⟨text, htext⟩ := exists_read_iff.mpr ⟨[], by rw [h.tagsOf]; rfl, nofun⟩
  exact ⟨text, htext, by rw [chars_read htext, h.shownText]⟩

theorem ReadsAsItself.isLiteral (hcolons : s.count ':' < 2) (h : ReadsAsItself s) :
    IsLiteral s := by
  obtain ⟨text, htext, hchars⟩ := h
  exact isLiteral_of_shownText hcolons (by rw [← chars_read htext, hchars])

/-- A literal text above a line that begins with a tag is shown, and below it what the line reads
as. -/
theorem IsLiteral.read_above (h : IsLiteral s) (hline : tagAt line = some (inner, rest))
    {below : MarkedText} (hread : MarkedText.read line = .ok below) :
    ∃ text, MarkedText.read (s ++ '\n' :: line) = .ok text ∧
      text.chars = s ++ '\n' :: below.chars := by
  obtain ⟨before, hpieces, hshown, htags⟩ := piecesAfter_append_line [] s hline
  obtain ⟨text, htext⟩ : ∃ text, MarkedText.read (s ++ '\n' :: line) = .ok text := by
    rw [exists_read_iff, hpieces, tagsOf_append, htags, h.tagsOf, nil_append]
    exact exists_read_iff.mp ⟨below, hread⟩
  refine ⟨text, htext, ?_⟩
  rw [chars_read htext, hpieces, shownText_append, hshown, h.shownText, chars_read hread]
  simp

theorem isLiteral_of_read_above (hcolons : s.count ':' < 2)
    (hline : tagAt line = some (inner, rest)) {text below : MarkedText}
    (htext : MarkedText.read (s ++ '\n' :: line) = .ok text)
    (hread : MarkedText.read line = .ok below) (h : text.chars = s ++ '\n' :: below.chars) :
    IsLiteral s := by
  obtain ⟨before, hpieces, hshown, -⟩ := piecesAfter_append_line [] s hline
  rw [chars_read htext, hpieces, shownText_append, hshown, chars_read hread, append_assoc,
    singleton_append, append_cancel_right_eq] at h
  exact isLiteral_of_shownText hcolons h

end Markup

end ProcedureCall.Report
