import ProcedureCall.Proofs.Report.Markup
import ProcedureCall.Report.Table

/-!
# What a table shows

Headings and cells are read as marked-up text before they are laid out, although they come from a
database that knows nothing of tags.

## What is proved

* `exists_showsColumn_iff` — the columns show what they should if each heading and each cell does.
* `shows_texts_of_literal` — a table shows the names of its columns and its values, cut to the width
  with an ellipsis, if they are literal and the width leaves room for the ellipsis. Nothing else is
  shown as it is, but for texts in which an emoji may be named.
-/

namespace ProcedureCall.Report.Table

open Fallible Markup

variable {o : Options} {terminal : Nat} {r : QueryResult} {c : ColumnHeading} {v : Value}

/-! ### What is to be shown -/

/-- The text of a value, nothing for no value. -/
def valueText (v : Value) : List Char := if v.isNull then [] else v.plain

/-- A cell of at most `width` characters shows the text of a value, or the beginning of a longer one
and an ellipsis. -/
def ShowsValue (width : Int) (v : Value) (chars : List Char) : Prop :=
  (chars.length : Int) ≤ width ∧
    chars = if ((valueText v).length : Int) ≤ width then valueText v
      else (valueText v).take (width - 1).toNat ++ ['…']

/-- The line of a heading that tells the type of the column. -/
def typeLine (c : ColumnHeading) : List Char :=
  "[dim]".toList ++ c.typeName.toList ++ "[/dim]".toList

/-- A heading shows the name of a column, and below it, where types are shown, what the line with
the type reads as. -/
def ShowsHeading (o : Options) (c : ColumnHeading) (chars : List Char) : Prop :=
  if o.showTypes then
    ∃ below, MarkedText.read (typeLine c) = .ok below ∧ chars = c.name.toList ++ '\n' :: below.chars
  else chars = c.name.toList

/-- A column shows the heading and the values at a place of a result. -/
structure ShowsColumn (o : Options) (r : QueryResult) (place : Nat) (column : Column) : Prop where
  /-- It shows the heading. -/
  heading : ∃ c ∈ r.columns[place]?, ShowsHeading o c column.heading.chars
  /-- It shows the value of each row. -/
  cells : List.Forall₂ (fun row cell => ∃ v ∈ row[place]?, ShowsValue o.width v cell.chars)
    r.rows column.cells

/-- The room for the columns of a table, which is what their frame leaves of the terminal. -/
def room (terminal : Nat) (r : QueryResult) : Nat := terminal - (columnCount r + 1)

/-- There is something to show and room to show it. -/
structure HasRoom (terminal : Nat) (r : QueryResult) : Prop where
  /-- There are columns. -/
  columns : r.columns ≠ []
  /-- There are rows. -/
  rows : r.rows ≠ []
  /-- There is more room than the padding of a column takes. -/
  wide : padding < room terminal r

/-- A table is made, and its columns show the names and values of the result. -/
structure ShowsTexts (o : Options) (terminal : Nat) (r : QueryResult) : Prop where
  /-- The table is made. -/
  made : ∃ text, Table.text o terminal r = .ok text
  /-- Each column shows what it should. -/
  columns : ∃ columns, Table.columns o (room terminal r) r = .ok columns ∧
    List.Forall₂ (ShowsColumn o r) (List.range r.columns.length) columns

/-- The texts of a result hold nothing that reads as something else, and no value needs an ellipsis
for which the width leaves no room. -/
structure HasLiteralTexts (o : Options) (r : QueryResult) : Prop where
  /-- The names of the columns are literal. -/
  names : ∀ c ∈ r.columns, IsLiteral c.name.toList
  /-- The types can be read where they are shown. -/
  types : o.showTypes = true → ∀ c ∈ r.columns, ∃ below, MarkedText.read (typeLine c) = .ok below
  /-- The cells are literal after they were cut. -/
  cells : ∀ row ∈ r.rows, ∀ v ∈ row, IsLiteral (cellText o v)
  /-- There is room for an ellipsis where there is text. -/
  width : ∀ row ∈ r.rows, ∀ v ∈ row, valueText v ≠ [] → 1 ≤ o.width

/-- No emoji can be named in a result, for want of colons. -/
structure HasFewColons (o : Options) (r : QueryResult) : Prop where
  /-- The names of the columns have at most one colon each. -/
  names : ∀ c ∈ r.columns, c.name.toList.count ':' < 2
  /-- The cells have at most one colon each. -/
  cells : ∀ row ∈ r.rows, ∀ v ∈ row, (cellText o v).count ':' < 2

/-! ### Cells -/

/-- A width that leaves room for the ellipsis cuts a value as it should. -/
theorem showsValue_iff {chars : List Char} (hwidth : 0 ≤ o.width)
    (hroom : valueText v ≠ [] → 1 ≤ o.width) :
    ShowsValue o.width v chars ↔ chars = cellText o v := by
  have hcell : cellText o v = shortened o.width (valueText v) := rfl
  rw [hcell, shortened, ShowsValue]
  by_cases hfits : ((valueText v).length : Int) ≤ o.width
  · rw [if_pos hfits, if_pos hfits]
    exact ⟨And.right, fun h => ⟨h ▸ hfits, h⟩⟩
  · have hone : 1 ≤ o.width := hroom fun hnil => hfits (by rw [hnil]; exact hwidth)
    rw [if_neg hfits, if_neg hfits, if_pos hone]
    refine ⟨And.right, fun h => ⟨?_, h⟩⟩
    rw [h, List.length_append, List.length_take, List.length_singleton]
    omega

theorem ShowsValue.one_le_width {width : Int} {chars : List Char} (h : ShowsValue width v chars)
    (hvalue : valueText v ≠ []) : 1 ≤ width := by
  obtain ⟨hlength, hchars⟩ := h
  split at hchars
  case isTrue hfits =>
    have := List.length_pos_iff.mpr hvalue
    omega
  case isFalse =>
    rw [hchars, List.length_append, List.length_singleton] at hlength
    omega

theorem exists_showsValue (hwidth : 0 ≤ o.width) (hroom : valueText v ≠ [] → 1 ≤ o.width)
    (h : IsLiteral (cellText o v)) :
    ∃ cell, MarkedText.read (cellText o v) = .ok cell ∧ ShowsValue o.width v cell.chars := by
  obtain ⟨cell, hcell, hchars⟩ := h.readsAsItself
  exact ⟨cell, hcell, (showsValue_iff hwidth hroom).mpr hchars⟩

theorem isLiteral_of_showsValue (hwidth : 0 ≤ o.width) (hcolons : (cellText o v).count ':' < 2)
    {cell : MarkedText} (hcell : MarkedText.read (cellText o v) = .ok cell)
    (h : ShowsValue o.width v cell.chars) : IsLiteral (cellText o v) :=
  ReadsAsItself.isLiteral hcolons ⟨cell, hcell, (showsValue_iff hwidth h.one_le_width).mp h⟩

/-! ### Headings -/

theorem tagAt_typeLine (c : ColumnHeading) :
    tagAt (typeLine c) = some ("dim".toList, c.typeName.toList ++ "[/dim]".toList) := by
  rfl

theorem headingText_of_types (h : o.showTypes = true) :
    headingText o c = c.name.toList ++ '\n' :: typeLine c := by
  rw [headingText, if_pos h, typeLine]
  simp

theorem exists_showsHeading (h : IsLiteral c.name.toList)
    (htypes : o.showTypes = true → ∃ below, MarkedText.read (typeLine c) = .ok below) :
    ∃ heading, MarkedText.read (headingText o c) = .ok heading ∧
      ShowsHeading o c heading.chars := by
  by_cases hshow : o.showTypes = true
  · obtain ⟨below, hbelow⟩ := htypes hshow
    obtain ⟨heading, hheading, hchars⟩ := h.read_above (tagAt_typeLine c) hbelow
    rw [headingText_of_types hshow]
    exact ⟨heading, hheading, by rw [ShowsHeading, if_pos hshow]; exact ⟨below, hbelow, hchars⟩⟩
  · obtain ⟨heading, hheading, hchars⟩ := h.readsAsItself
    rw [headingText, if_neg hshow]
    exact ⟨heading, hheading, by rw [ShowsHeading, if_neg hshow]; exact hchars⟩

theorem isLiteral_of_showsHeading (hcolons : c.name.toList.count ':' < 2) {heading : MarkedText}
    (hheading : MarkedText.read (headingText o c) = .ok heading)
    (h : ShowsHeading o c heading.chars) :
    IsLiteral c.name.toList ∧
      (o.showTypes = true → ∃ below, MarkedText.read (typeLine c) = .ok below) := by
  by_cases hshow : o.showTypes = true
  · rw [ShowsHeading, if_pos hshow] at h
    obtain ⟨below, hbelow, hchars⟩ := h
    rw [headingText_of_types hshow] at hheading
    exact ⟨isLiteral_of_read_above hcolons (tagAt_typeLine c) hheading hbelow hchars,
      fun _ => ⟨below, hbelow⟩⟩
  · rw [ShowsHeading, if_neg hshow] at h
    rw [headingText, if_neg hshow] at hheading
    exact ⟨ReadsAsItself.isLiteral hcolons ⟨heading, hheading, h⟩, fun htrue => absurd htrue hshow⟩

/-! ### Columns -/

/-- A column shows what it should if its heading and its cells do. -/
theorem exists_column_iff {read : Except Fault MarkedText} {place : Nat} {wraps : Bool}
    {cellOf : List Value → Except Fault MarkedText} :
    (∃ column, (do
        let heading ← read
        let cells ← r.rows.mapM cellOf
        pure (⟨heading, cells, wraps⟩ : Column)) = .ok column ∧ ShowsColumn o r place column) ↔
      (∃ heading, read = .ok heading ∧
        ∃ c ∈ r.columns[place]?, ShowsHeading o c heading.chars) ∧
      ∀ row ∈ r.rows, ∃ cell, cellOf row = .ok cell ∧
        ∃ v ∈ row[place]?, ShowsValue o.width v cell.chars := by
  rw [← exists_forall₂_mapM_iff]
  constructor
  · rintro ⟨column, hcolumn, hheading, hcells⟩
    obtain ⟨heading, hread, hrest⟩ := exists_of_bind_eq_ok hcolumn
    obtain ⟨cells, hmapM, hdone⟩ := exists_of_bind_eq_ok hrest
    cases hdone
    exact ⟨⟨heading, hread, hheading⟩, cells, hmapM, hcells⟩
  · rintro ⟨⟨heading, hread, hheading⟩, cells, hmapM, hcells⟩
    rw [hread, hmapM]
    exact ⟨_, rfl, hheading, hcells⟩

section Even

variable (heven : ∀ row ∈ r.rows, row.length = r.columns.length)

include heven

theorem columnCount_eq : columnCount r = r.columns.length := by
  have hfold : ∀ (rows : List (List Value)), (∀ row ∈ rows, row.length = r.columns.length) →
      (rows.map List.length).foldl max r.columns.length = r.columns.length := by
    intro rows
    induction rows with
    | nil => intro _; rfl
    | cons row rows ih =>
      intro h
      obtain ⟨hrow, hrows⟩ := List.forall_mem_cons.mp h
      rw [List.map_cons, List.foldl_cons, hrow, max_self, ih hrows]
  exact hfold r.rows heven

/-- The columns show what they should if each heading and each cell does. -/
theorem exists_showsColumn_iff (hroom : padding < room terminal r) :
    (∃ columns, Table.columns o (room terminal r) r = .ok columns ∧
        List.Forall₂ (ShowsColumn o r) (List.range r.columns.length) columns) ↔
      (∀ c ∈ r.columns, ∃ heading, MarkedText.read (headingText o c) = .ok heading ∧
        ShowsHeading o c heading.chars) ∧
      ∀ row ∈ r.rows, ∀ v ∈ row, ∃ cell, MarkedText.read (cellText o v) = .ok cell ∧
        ShowsValue o.width v cell.chars := by
  unfold Table.columns
  rw [columnCount_eq heven, exists_forall₂_mapM_iff]
  simp only [if_neg (Nat.not_le.mpr hroom)]
  constructor
  · intro h
    have hplace : ∀ place < r.columns.length, _ := fun place hlt =>
      exists_column_iff.mp (h place (List.mem_range.mpr hlt))
    refine ⟨fun c hc => ?_, fun row hrow v hv => ?_⟩
    · obtain ⟨place, hlt, rfl⟩ := List.mem_iff_getElem.mp hc
      obtain ⟨⟨heading, hread, c, hget, hshows⟩, -⟩ := hplace place hlt
      obtain ⟨_, rfl⟩ := List.getElem?_eq_some_iff.mp hget
      rw [hget] at hread
      exact ⟨heading, hread, hshows⟩
    · obtain ⟨place, hlt, rfl⟩ := List.mem_iff_getElem.mp hv
      obtain ⟨-, hcells⟩ := hplace place (heven row hrow ▸ hlt)
      obtain ⟨cell, hread, v, hget, hshows⟩ := hcells row hrow
      obtain ⟨_, rfl⟩ := List.getElem?_eq_some_iff.mp hget
      rw [hget] at hread
      exact ⟨cell, hread, hshows⟩
  · rintro ⟨hheadings, hcells⟩ place hplace
    have hlt := List.mem_range.mp hplace
    refine exists_column_iff.mpr ⟨?_, fun row hrow => ?_⟩
    · obtain ⟨heading, hread, hshows⟩ := hheadings _ (List.getElem_mem hlt)
      rw [List.getElem?_eq_getElem hlt]
      exact ⟨heading, hread, _, rfl, hshows⟩
    · have hrowlt : place < row.length := (heven row hrow).symm ▸ hlt
      obtain ⟨cell, hread, hshows⟩ := hcells row hrow _ (List.getElem_mem hrowlt)
      rw [List.getElem?_eq_getElem hrowlt]
      exact ⟨cell, hread, _, rfl, hshows⟩

end Even

/-! ### Tables -/

/-- A table that has something to show is made if its columns can be read. -/
theorem exists_text_iff_columns (hcolumns : r.columns ≠ []) (hrows : r.rows ≠ []) :
    (∃ text, Table.text o terminal r = .ok text) ↔
      ∃ columns, Table.columns o (room terminal r) r = .ok columns := by
  rw [Table.text, if_neg (by simp [hcolumns, hrows])]
  unfold Table.lines
  change (∃ text, ((Table.columns o (room terminal r) r).bind _).bind _ = .ok text) ↔ _
  cases Table.columns o (room terminal r) r <;> simp [Except.bind, pure, Except.pure]

/-- Where nothing is shown, nothing is read that could fail. -/
theorem exists_text_of_not_hasRoom (h : ¬ HasRoom terminal r) :
    ∃ text, Table.text o terminal r = .ok text := by
  by_cases hempty : r.columns = [] ∨ r.rows = []
  · rw [Table.text, if_pos (by simpa using hempty)]
    exact ⟨_, rfl⟩
  obtain ⟨hcolumns, hrows⟩ := not_or.mp hempty
  have hnarrow : room terminal r ≤ padding := by
    by_contra hwide
    exact h ⟨hcolumns, hrows, Nat.lt_of_not_le hwide⟩
  rw [exists_text_iff_columns hcolumns hrows, Table.columns]
  simp only [if_pos hnarrow]
  refine exists_mapM_eq_ok_iff.mpr fun place _ => ?_
  obtain ⟨cells, hcells⟩ := exists_mapM_eq_ok_iff.mpr fun (row : List Value) (_ : row ∈ r.rows) =>
    (⟨_, rfl⟩ : ∃ cell, (.ok ⟨[], []⟩ : Except Fault MarkedText) = .ok cell)
  rw [hcells]
  exact ⟨_, rfl⟩

/-- **Which results a table shows as they are.** Without room nothing is read, and a table is made.
With room, literal texts are shown as they are: each name, and each value if it has at most `width`
characters, else its first `width - 1` characters and an ellipsis. No other texts are, unless an
emoji may be named in them. -/
theorem shows_texts_of_literal (hwidth : 0 ≤ o.width)
    (heven : ∀ row ∈ r.rows, row.length = r.columns.length) :
    (¬ HasRoom terminal r → ∃ text, Table.text o terminal r = .ok text) ∧
      (HasRoom terminal r →
        (HasLiteralTexts o r → ShowsTexts o terminal r) ∧
        (HasFewColons o r → ShowsTexts o terminal r → HasLiteralTexts o r)) := by
  refine ⟨exists_text_of_not_hasRoom, fun hroom => ⟨fun hliteral => ?_, fun hcolons hshows => ?_⟩⟩
  · obtain ⟨columns, hcolumns, hshows⟩ := (exists_showsColumn_iff heven hroom.wide).mpr
      ⟨fun c hc => exists_showsHeading (hliteral.names c hc) fun h => hliteral.types h c hc,
        fun row hrow v hv =>
          exists_showsValue hwidth (hliteral.width row hrow v hv) (hliteral.cells row hrow v hv)⟩
    exact ⟨(exists_text_iff_columns hroom.columns hroom.rows).mpr ⟨columns, hcolumns⟩, columns,
      hcolumns, hshows⟩
  · obtain ⟨hheadings, hcells⟩ := (exists_showsColumn_iff heven hroom.wide).mp hshows.columns
    have hnames (c : ColumnHeading) (hc : c ∈ r.columns) : IsLiteral c.name.toList ∧
        (o.showTypes = true → ∃ below, MarkedText.read (typeLine c) = .ok below) := by
      obtain ⟨heading, hread, hshown⟩ := hheadings c hc
      exact isLiteral_of_showsHeading (hcolons.names c hc) hread hshown
    refine ⟨fun c hc => (hnames c hc).1, fun h c hc => (hnames c hc).2 h,
      fun row hrow v hv => ?_, fun row hrow v hv hvalue => ?_⟩
    · obtain ⟨cell, hread, hshown⟩ := hcells row hrow v hv
      exact isLiteral_of_showsValue hwidth (hcolons.cells row hrow v hv) hread hshown
    · obtain ⟨cell, -, hshown⟩ := hcells row hrow v hv
      exact hshown.one_le_width hvalue

/-- A text in brackets is shown if it is no tag, and so is its beginning before the ellipsis. -/
theorem shows_bracketedNumber :
    ShowsTexts ⟨4, true⟩ 80 ⟨[⟨"id", "integer[]"⟩], [[.text "[1] and more"]], 1, ""⟩ :=
  ((shows_texts_of_literal (by decide) (by decide)).2 ⟨by decide, by decide, by decide⟩).1
    ⟨by decide +kernel,
      fun _ c hc => List.mem_singleton.mp hc ▸ exists_read_iff.mpr ⟨[], by decide +kernel, nofun⟩,
      by decide +kernel, by decide +kernel⟩

/-- A tag in a value is not shown, a closing tag without a fellow leaves no table, and a width of
zero cuts a value at the wrong end. -/
theorem not_shows_taggedTexts :
    ¬ ShowsTexts {} 120 ⟨[⟨"x", "text"⟩], [[.text "[b]x"]], 1, ""⟩ ∧
      (¬ ∃ text, Table.text {} 120 ⟨[⟨"x", "text"⟩], [[.text "[/x]"]], 1, ""⟩ = .ok text) ∧
      ¬ ShowsTexts ⟨0, false⟩ 120 ⟨[⟨"x", "text"⟩], [[.text "ab"]], 1, ""⟩ := by
  refine ⟨fun h => ?_, fun ⟨text, h⟩ => ?_, fun h => ?_⟩
  · obtain ⟨-, hcells⟩ := (exists_showsColumn_iff (by decide) (by decide)).mp h.columns
    obtain ⟨cell, hread, hshown⟩ :=
      hcells _ (List.mem_singleton_self _) _ (List.mem_singleton_self _)
    exact absurd (isLiteral_of_showsValue (by decide) (by decide +kernel) hread hshown)
      (by decide +kernel)
  · have hnone : (Table.text {} 120
        ⟨[⟨"x", "text"⟩], [[.text "[/x]"]], 1, ""⟩).toOption = none := by decide +kernel
    exact Option.some_ne_none _ ((congrArg Except.toOption h).symm.trans hnone)
  · obtain ⟨-, hcells⟩ := (exists_showsColumn_iff (by decide) (by decide)).mp h.columns
    obtain ⟨cell, -, hshown⟩ := hcells _ (List.mem_singleton_self _) _ (List.mem_singleton_self _)
    exact absurd (hshown.one_le_width (by decide +kernel)) (by decide)

end ProcedureCall.Report.Table
