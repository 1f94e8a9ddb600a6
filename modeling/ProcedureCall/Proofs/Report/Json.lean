import Mathlib.Data.List.Induction
import ProcedureCall.Proofs.Report.JsonScalars
import ProcedureCall.Report.Format

/-!
# JSON reports are read as they were written

Both layouts of a report put the same tokens into a text: they differ in blanks only
(`tokens?_enclose`). So a reader makes the same of both, a list with one object for each row
(`read_as_rows`). A row that has two columns of one name shows the last of them, in the place of the
first (`Shows`).
-/

namespace ProcedureCall

namespace Entries

variable {α β : Type} [DecidableEq α]

theorem ofPairs_concat (pairs : List (α × β)) (key : α) (value : β) :
    ofPairs (pairs ++ [(key, value)]) = put key value (ofPairs pairs) := by
  rw [ofPairs, List.foldl_append, ofPairs]
  rfl

/-- A new key comes last, and a known one stays where it is. -/
theorem map_fst_put (key : α) (value : β) (entries : List (α × β)) :
    (put key value entries).map Prod.fst =
      if key ∈ entries.map Prod.fst then entries.map Prod.fst
      else entries.map Prod.fst ++ [key] := by
  induction entries with
  | nil => rfl
  | cons entry rest ih =>
    obtain ⟨k, v⟩ := entry
    by_cases h : k = key
    · simp [put, h]
    · rw [put, if_neg h, List.map_cons, ih]
      split_ifs with hmem hcons hcons
      · rfl
      · exact absurd (List.mem_cons_of_mem _ hmem) hcons
      · exact absurd ((List.mem_cons.mp hcons).resolve_left (Ne.symm h)) hmem
      · rfl

/-- The keys are those of the pairs, each where it came first. -/
theorem map_fst_ofPairs (pairs : List (α × β)) :
    (ofPairs pairs).map Prod.fst = (pairs.map Prod.fst).eraseDups := by
  induction pairs using List.reverseRecOn with
  | nil => rfl
  | append_singleton pairs pair ih =>
    obtain ⟨key, value⟩ := pair
    rw [ofPairs_concat, map_fst_put, ih, List.map_append, List.eraseDups_append]
    by_cases h : key ∈ pairs.map Prod.fst
    · simp [List.removeAll, h]
    · simp [List.removeAll, h, List.eraseDups_cons]

theorem mem_put_self (key : α) (value : β) (entries : List (α × β)) :
    (key, value) ∈ put key value entries := by
  induction entries with
  | nil => exact List.mem_singleton_self _
  | cons entry rest ih =>
    obtain ⟨k, v⟩ := entry
    rw [put]
    split_ifs
    · exact List.mem_cons_self
    · exact List.mem_cons_of_mem _ ih

theorem mem_put_of_ne {key other : α} {value : β} {entries : List (α × β)} (h : other ≠ key)
    {kept : β} (hmem : (other, kept) ∈ entries) : (other, kept) ∈ put key value entries := by
  induction entries with
  | nil => cases hmem
  | cons entry rest ih =>
    obtain ⟨k, v⟩ := entry
    rw [put]
    rcases List.mem_cons.mp hmem with heq | hrest
    · obtain ⟨rfl, rfl⟩ := Prod.mk.inj heq
      rw [if_neg h]
      exact List.mem_cons_self
    · split_ifs
      · exact List.mem_cons_of_mem _ hrest
      · exact List.mem_cons_of_mem _ (ih hrest)

/-- The last pair with a key gives the key its value. -/
theorem mem_ofPairs_of_last {pairs : List (α × β)} {i : ℕ} {key : α} {value : β}
    (hpair : pairs[i]? = some (key, value))
    (hlast : ∀ j, i < j → (pairs.map Prod.fst)[j]? ≠ some key) : (key, value) ∈ ofPairs pairs := by
  induction pairs using List.reverseRecOn with
  | nil => cases hpair
  | append_singleton pairs pair ih =>
    obtain ⟨k, v⟩ := pair
    rw [ofPairs_concat]
    rcases Nat.lt_trichotomy i pairs.length with hi | hi | hi
    · rw [List.getElem?_append_left hi] at hpair
      have hne : k ≠ key := by
        rintro rfl
        exact hlast pairs.length hi (by simp)
      refine mem_put_of_ne hne.symm (ih hpair fun j hj hkey => ?_)
      have hlt : j < (pairs.map Prod.fst).length := (List.getElem?_eq_some_iff.mp hkey).1
      refine hlast j hj ?_
      rw [List.map_append, List.getElem?_append_left hlt, hkey]
    · rw [hi, List.getElem?_concat_length] at hpair
      obtain ⟨rfl, rfl⟩ := Prod.mk.inj (Option.some.inj hpair)
      exact mem_put_self _ _ _
    · rw [List.getElem?_eq_none (by simp; omega)] at hpair
      cases hpair

/-- What is there after a key was put is what was put, or was there with another key. -/
theorem eq_or_mem_of_mem_put {key other : α} {value kept : β} {entries : List (α × β)}
    (hnodup : (entries.map Prod.fst).Nodup) (h : (other, kept) ∈ put key value entries) :
    (other = key ∧ kept = value) ∨ (other ≠ key ∧ (other, kept) ∈ entries) := by
  induction entries with
  | nil => exact .inl (Prod.mk.inj (List.mem_singleton.mp h))
  | cons entry rest ih =>
    obtain ⟨k, v⟩ := entry
    obtain ⟨hk, hrest⟩ := List.nodup_cons.mp hnodup
    rw [put] at h
    split_ifs at h with heq
    · rcases List.mem_cons.mp h with hput | hkept
      · exact .inl (Prod.mk.inj hput)
      · refine .inr ⟨?_, List.mem_cons_of_mem _ hkept⟩
        rintro hother
        exact hk (List.mem_map.mpr ⟨_, hkept, hother.trans heq.symm⟩)
    · rcases List.mem_cons.mp h with hfirst | h
      · obtain ⟨rfl, rfl⟩ := Prod.mk.inj hfirst
        exact .inr ⟨heq, List.mem_cons_self⟩
      · exact (ih hrest h).imp_right (And.imp_right (List.mem_cons_of_mem _))

theorem nodup_ofPairs (pairs : List (α × β)) : ((ofPairs pairs).map Prod.fst).Nodup := by
  induction pairs using List.reverseRecOn with
  | nil => exact List.nodup_nil
  | append_singleton pairs pair ih =>
    rw [ofPairs_concat, map_fst_put]
    split_ifs with hmem
    · exact ih
    · exact List.nodup_append_comm.mp (List.nodup_cons.mpr ⟨hmem, ih⟩)

/-- The value of a key is that of the last pair with it. -/
theorem exists_last_of_mem_ofPairs {pairs : List (α × β)} {key : α} {value : β}
    (h : (key, value) ∈ ofPairs pairs) :
    ∃ i : ℕ, pairs[i]? = some (key, value) ∧
      ∀ j, i < j → (pairs.map Prod.fst)[j]? ≠ some key := by
  induction pairs using List.reverseRecOn with
  | nil => cases h
  | append_singleton pairs pair ih =>
    obtain ⟨k, v⟩ := pair
    rw [ofPairs_concat] at h
    rcases eq_or_mem_of_mem_put (nodup_ofPairs pairs) h with ⟨rfl, rfl⟩ | ⟨hne, hmem⟩
    · refine ⟨pairs.length, List.getElem?_concat_length, fun j hj => ?_⟩
      rw [List.getElem?_eq_none (by simp; omega)]
      exact (Option.some_ne_none _).symm
    · obtain ⟨i, hi, hlast⟩ := ih hmem
      have hlt := (List.getElem?_eq_some_iff.mp hi).1
      refine ⟨i, by rw [List.getElem?_append_left hlt, hi], fun j hj hkey => ?_⟩
      rw [List.map_append, List.getElem?_append] at hkey
      split_ifs at hkey
      · exact hlast j hj hkey
      · exact hne (List.mem_singleton.mp (List.mem_of_getElem? hkey))

end Entries

namespace Report.Json

/-! ### Layouts -/

/-- A text that is cut into tokens wherever it stands. -/
def Lexes (s : List Char) (ts : List Token) : Prop :=
  ∀ rest, Breaks rest → tokens? (s ++ rest) = (tokens? rest).map (ts ++ ·)

theorem breaks_mark {c : Char} {m : Mark} (h : mark? c = some m) (rest : List Char) :
    Breaks (c :: rest) := by
  rintro d ⟨⟩
  exact .inr (by rw [h]; rfl)

theorem breaks_blanks {gap rest : List Char} (h : ∀ c ∈ gap, isBlank c = true)
    (hrest : Breaks rest) : Breaks (gap ++ rest) := by
  cases gap with
  | nil => exact hrest
  | cons c gap =>
    rintro d ⟨⟩
    exact .inl (h c List.mem_cons_self)

/-- Items with commas and blanks between them. -/
theorem tokens?_joined {gap : List Char} (hgap : ∀ c ∈ gap, isBlank c = true) {first : List Char}
    {firstTokens : List Token} (hfirst : Lexes first firstTokens) {texts : List (List Char)}
    {more : List (List Token)} (h : List.Forall₂ Lexes texts more) {rest : List Char}
    (hrest : Breaks rest) :
    tokens? ((',' :: gap).intercalate (first :: texts) ++ rest) =
      (tokens? rest).map (firstTokens ++ more.flatMap (.mark .comma :: ·) ++ ·) := by
  induction h generalizing first firstTokens with
  | nil => simpa using hfirst rest hrest
  | @cons next nextTokens texts more hnext _ ih =>
    have hjoin : (',' :: gap).intercalate (first :: next :: texts) ++ rest =
        first ++ ',' :: (gap ++ ((',' :: gap).intercalate (next :: texts) ++ rest)) := by
      simp [List.intercalate]
    rw [hjoin, hfirst _ (breaks_mark rfl _), tokens?_mark (m := .comma) rfl, tokens?_blanks hgap,
      ih hnext, Option.map_map, Option.map_map]
    simp [Function.comp_def]

/-- Either layout of items between brackets has the tokens of a list or of an object. -/
theorem tokens?_enclose (l : Layout) (depth : ℕ) {opening closing : Char} {opens closes : Mark}
    (hopening : mark? opening = some opens) (hclosing : mark? closing = some closes)
    {texts : List (List Char)} {items : List (List Token)} (h : List.Forall₂ Lexes texts items)
    (rest : List Char) :
    tokens? (l.enclose depth opening closing texts ++ rest) =
      (tokens? rest).map (enclosed opens closes items ++ ·) := by
  cases h with
  | nil =>
    change tokens? (opening :: closing :: rest) = _
    rw [tokens?_mark hopening, tokens?_mark hclosing, Option.map_map]
    rfl
  | @cons first firstTokens texts more hfirst hmore =>
    -- blanks behind the opening bracket, behind each comma and before the closing bracket
    suffices hgaps : ∀ inner between outer : List Char, (∀ c ∈ inner, isBlank c = true) →
        (∀ c ∈ between, isBlank c = true) → (∀ c ∈ outer, isBlank c = true) →
        tokens? (opening :: (inner ++ ((',' :: between).intercalate (first :: texts) ++
          (outer ++ closing :: rest)))) =
          (tokens? rest).map (enclosed opens closes (firstTokens :: more) ++ ·) by
      have hline : ∀ level : ℕ, ∀ c ∈ '\n' :: List.replicate (2 * level) ' ', isBlank c = true := by
        intro level c hc
        rcases List.mem_cons.mp hc with rfl | hc
        · rfl
        · rw [List.eq_of_mem_replicate hc]
          rfl
      by_cases hcompact : l.compact = true
      · have := hgaps [] [' '] [] (by simp) (by simp [isBlank]) (by simp)
        simpa [Layout.enclose, hcompact] using this
      · have := hgaps _ _ _ (hline (depth + 1)) (hline (depth + 1)) (hline depth)
        simpa [Layout.enclose, hcompact] using this
    intro inner between outer hinner hbetween houter
    rw [tokens?_mark hopening, tokens?_blanks hinner,
      tokens?_joined hbetween hfirst hmore (breaks_blanks houter (breaks_mark hclosing rest)),
      tokens?_blanks houter, tokens?_mark hclosing, Option.map_map, Option.map_map]
    simp [enclosed, Function.comp_def]

theorem isPrintable_joined {texts : List (List Char)}
    (h : ∀ text ∈ texts, ∀ c ∈ text, IsPrintable c) :
    ∀ c ∈ [',', ' '].intercalate texts, IsPrintable c := by
  have hgap : ∀ c ∈ [',', ' '], IsPrintable c := isPrintable_of_all rfl
  induction texts with
  | nil => simp
  | cons first texts ih =>
    obtain ⟨hfirst, htexts⟩ := List.forall_mem_cons.mp h
    cases texts with
    | nil => simpa using hfirst
    | cons next texts =>
      have hjoin : [',', ' '].intercalate (first :: next :: texts) =
          first ++ ([',', ' '] ++ [',', ' '].intercalate (next :: texts)) := by
        simp [List.intercalate]
      rw [hjoin]
      intro c hc
      rcases List.mem_append.mp hc with hc | hc
      · exact hfirst c hc
      · exact (List.mem_append.mp hc).elim (hgap c) (ih htexts c)

theorem isPrintable_enclose (depth : ℕ) {opening closing : Char} (hopening : IsPrintable opening)
    (hclosing : IsPrintable closing) {texts : List (List Char)}
    (h : ∀ text ∈ texts, ∀ c ∈ text, IsPrintable c) :
    ∀ c ∈ Layout.enclose ⟨true⟩ depth opening closing texts, IsPrintable c := by
  intro c hc
  cases texts with
  | nil =>
    have hcases : c = opening ∨ c = closing := by simpa [Layout.enclose] using hc
    rcases hcases with rfl | rfl
    · exact hopening
    · exact hclosing
  | cons first texts =>
    rcases List.mem_append.mp hc with hc | hc
    · rcases List.mem_append.mp hc with hc | hc
      · exact List.mem_singleton.mp hc ▸ hopening
      · exact isPrintable_joined h c hc
    · exact List.mem_singleton.mp hc ▸ hclosing

/-! ### Objects -/

/-- What the text of an object stands for. -/
def datumOf (members : List (String × Value)) : List (String × Datum) :=
  members.map fun member => (member.1, (scalar member.2).datum)

theorem itemTokens_eq (items : List Datum) : itemTokens items = items.map tokens := by
  induction items with
  | nil => rfl
  | cons v items ih => rw [itemTokens, ih, List.map_cons]

theorem memberTokens_eq (members : List (String × Datum)) :
    memberTokens members =
      members.map fun member => .text member.1 :: .mark .colon :: tokens member.2 := by
  induction members with
  | nil => rfl
  | cons member members ih => rw [memberTokens, ih, List.map_cons]

/-- A member is its name, a colon and its value. -/
theorem lexes_member (name : String) (v : Value) :
    Lexes (quoted name.toList ++ [':', ' '] ++ scalarText (scalar v))
      (.text name :: .mark .colon :: tokens (scalar v).datum) := by
  intro rest hrest
  have hassoc : quoted name.toList ++ [':', ' '] ++ scalarText (scalar v) ++ rest =
      quoted name.toList ++ ':' :: ([' '] ++ (scalarText (scalar v) ++ rest)) := by simp
  rw [hassoc, tokens?_quoted, tokens?_mark (m := .colon) rfl, tokens?_blanks (by simp [isBlank]),
    tokens?_scalarText _ hrest, Option.map_map, Option.map_map, String.ofList_toList]
  rfl

theorem lexes_objectText (l : Layout) (members : List (String × Value)) :
    Lexes (objectText l members) (tokens (.object (datumOf members))) := by
  intro rest _
  have hmembers : List.Forall₂ Lexes
      (members.map fun member =>
        quoted member.1.toList ++ [':', ' '] ++ scalarText (scalar member.2))
      (memberTokens (datumOf members)) := by
    rw [memberTokens_eq, datumOf, List.map_map, List.forall₂_map_left_iff,
      List.forall₂_map_right_iff, List.forall₂_same]
    exact fun member _ => lexes_member member.1 member.2
  rw [tokens]
  exact tokens?_enclose l 1 rfl rfl hmembers rest

theorem isPrintable_objectText (members : List (String × Value)) :
    ∀ c ∈ objectText ⟨true⟩ members, IsPrintable c := by
  have hcolon : ∀ c ∈ [':', ' '], IsPrintable c := isPrintable_of_all rfl
  refine isPrintable_enclose 1 (by decide) (by decide) fun text htext c hc => ?_
  obtain ⟨member, -, rfl⟩ := List.mem_map.mp htext
  rcases List.mem_append.mp hc with hc | hc
  · rcases List.mem_append.mp hc with hc | hc
    · exact isPrintable_quoted _ c hc
    · exact hcolon c hc
  · exact isPrintable_scalarText _ c hc

/-- Either layout of a list of objects is read as the list. -/
theorem read?_enclose (l : Layout) (objects : List (List (String × Value))) :
    read? (l.enclose 0 '[' ']' (objects.map (objectText l))) =
      some (.array (objects.map fun members => .object (datumOf members))) := by
  refine read?_of_tokens? ?_
  have hitems : List.Forall₂ Lexes (objects.map (objectText l))
      (itemTokens (objects.map fun members => .object (datumOf members))) := by
    rw [itemTokens_eq, List.map_map, List.forall₂_map_left_iff, List.forall₂_map_right_iff,
      List.forall₂_same]
    exact fun members _ => lexes_objectText l members
  have htokens : tokens? (l.enclose 0 '[' ']' (objects.map (objectText l)) ++ []) = _ :=
    tokens?_enclose l 0 rfl rfl hitems []
  rw [List.append_nil] at htokens
  rw [htokens, tokens]
  simp [tokens?, cut]

/-! ### Rows -/

/-- A value as it is shown: numbers, texts and truth values are themselves, octets are their digits
in lower case, two for each, and anything else is its plain text. -/
def Datum.ofValue : Value → Datum
  | .null => .null
  | .bool b => .bool b
  | .int n => .int n
  | .float x => .float x
  | .text s => .text s
  | .octets _ content => .text <| String.ofList <| content.flatMap fun octet =>
      [Text.hexDigit (octet.toNat / 16), Text.hexDigit (octet.toNat % 16)]
  | v => .text (String.ofList v.plain)

theorem datum_scalar (v : Value) : (scalar v).datum = Datum.ofValue v := by
  cases v with
  | text s => simp [scalar, Scalar.datum, Datum.ofValue]
  | octets form content =>
    have hdigits : ∀ octet : UInt8, Text.hexDigits 2 octet.toNat =
        [Text.hexDigit (octet.toNat / 16), Text.hexDigit (octet.toNat % 16)] := by
      intro octet
      have hlt := octet.toNat_lt
      simp only [Text.hexDigits, List.nil_append, List.singleton_append]
      rw [Nat.mod_eq_of_lt (by omega)]
    simp [scalar, Scalar.datum, Datum.ofValue, Text.hexText, hdigits]
  | _ => rfl

/-- The members of an object are the cells of a row: their names are those of the columns, each where
it comes first, and the last column of a name has given its value. -/
structure Shows (columns : List String) (row : List Value) (members : List (String × Datum)) :
    Prop where
  /-- The names, each once. -/
  names : members.map Prod.fst = columns.eraseDups
  /-- The value of the last column of a name. -/
  last : ∀ (i : ℕ) (name : String) (v : Value), columns[i]? = some name → row[i]? = some v →
    (∀ j, i < j → columns[j]? ≠ some name) → (name, Datum.ofValue v) ∈ members

theorem shows_ofPairs {columns : List String} {row : List Value}
    (h : row.length = columns.length) :
    Shows columns row (datumOf (Entries.ofPairs (columns.zip row))) := by
  have hkeys : (columns.zip row).map Prod.fst = columns := List.map_fst_zip h.ge
  constructor
  · rw [datumOf, List.map_map]
    have := Entries.map_fst_ofPairs (columns.zip row)
    rwa [hkeys] at this
  · intro i name v hname hv hlast
    have hpair : (columns.zip row)[i]? = some (name, v) := by
      rw [List.getElem?_zip_eq_some]
      exact ⟨hname, hv⟩
    have hmem := Entries.mem_ofPairs_of_last hpair (by rwa [hkeys])
    rw [← datum_scalar]
    exact List.mem_map_of_mem hmem

theorem mapM_object {columns : List String} {rows : List (List Value)}
    (h : ∀ row ∈ rows, row.length = columns.length) :
    rows.mapM (object columns) = .ok (rows.map fun row => Entries.ofPairs (columns.zip row)) := by
  induction rows with
  | nil => rfl
  | cons row rows ih =>
    obtain ⟨hrow, hrows⟩ := List.forall_mem_cons.mp h
    have hobject : object columns row = .ok (Entries.ofPairs (columns.zip row)) := by
      rw [object, if_neg hrow.not_lt, if_neg hrow.not_gt]
    rw [List.mapM_cons, hobject, ih hrows]
    rfl

/-- **A JSON report is read as its rows.** If each row is as wide as the columns, a reader makes the
same of the report on one line and of the indented one: a list with one object for each row, in their
order, with the names of the columns in the order in which they come first, and the value of the last
column of each name. The report on one line has no line break in it, nor anything else that cannot
be printed. -/
theorem read_as_rows (terminal : Nat) {r : QueryResult}
    (hwide : ∀ row ∈ r.rows, row.length = r.columns.length) :
    ∃ (compact indented : String) (objects : List (List (String × Datum))),
      (Format.json true).lines terminal r = .ok [compact] ∧
        (Format.json false).lines terminal r = .ok [indented] ∧
        read? compact.toList = some (.array (objects.map .object)) ∧
        read? indented.toList = some (.array (objects.map .object)) ∧
        List.Forall₂ (Shows (r.columns.map (·.name))) r.rows objects ∧
        ∀ c ∈ compact.toList, IsPrintable c := by
  set columns := r.columns.map (·.name) with hcolumns
  have hlength : ∀ row ∈ r.rows, row.length = columns.length := by
    intro row hrow
    rw [hwide row hrow, hcolumns, List.length_map]
  have hobjects : r.rows.mapM (object columns) =
      .ok (r.rows.map fun row => Entries.ofPairs (columns.zip row)) := mapM_object hlength
  have htext : ∀ l : Layout, text l r = .ok (l.enclose 0 '[' ']'
      ((r.rows.map fun row => Entries.ofPairs (columns.zip row)).map (objectText l))) := by
    intro l
    rw [text, hobjects]
    rfl
  refine ⟨_, _, r.rows.map fun row => datumOf (Entries.ofPairs (columns.zip row)),
    by rw [Format.lines, htext]; rfl, by rw [Format.lines, htext]; rfl, ?_, ?_, ?_, ?_⟩
  · rw [String.toList_ofList, read?_enclose, List.map_map, List.map_map]
    rfl
  · rw [String.toList_ofList, read?_enclose, List.map_map, List.map_map]
    rfl
  · rw [List.forall₂_map_right_iff, List.forall₂_same]
    exact fun row hrow => shows_ofPairs (hlength row hrow)
  · rw [String.toList_ofList]
    refine isPrintable_enclose 0 (by decide) (by decide) fun text htext => ?_
    obtain ⟨members, -, rfl⟩ := List.mem_map.mp htext
    exact isPrintable_objectText members

/-- Two columns of one name, which has a quote in it, around a column of numbers. -/
def twice : QueryResult where
  columns := [⟨"n\"", "text"⟩, ⟨"x", "float8"⟩, ⟨"n\"", "bytea"⟩]
  rows := [[.null, .float (Binary.ofDecimal false 1 (-1)), .octets .constant [0xAB, 0]],
    [.null, .bool true, .text "😀\n"]]
  rowCount := 2
  status := "SELECT 2"

/-- Its report on one line. -/
def twiceLine : String :=
  "[\x7b\"n\\\"\": \"ab00\", \"x\": 0.1\x7d, \x7b\"n\\\"\": \"\\ud83d\\ude00\\n\", \"x\": true\x7d]"

/-- What the report stands for. -/
def twiceObjects : List (List (String × Datum)) :=
  [[("n\"", .text "ab00"), ("x", .float (Binary.ofDecimal false 1 (-1)))],
    [("n\"", .text "😀\n"), ("x", .bool true)]]

/-- The second of the columns gives the value, in the place of the first. -/
theorem twice_read_as_rows :
    (∀ row ∈ twice.rows, row.length = twice.columns.length) ∧
      (Format.json true).lines 80 twice = .ok [twiceLine] ∧
      ∃ indented, (Format.json false).lines 80 twice = .ok [indented] ∧
        read? twiceLine.toList = some (.array (twiceObjects.map .object)) ∧
        read? indented.toList = some (.array (twiceObjects.map .object)) ∧
        List.Forall₂ (Shows ["n\"", "x", "n\""]) twice.rows twiceObjects ∧
        ∀ c ∈ twiceLine.toList, IsPrintable c := by
  have hwide : ∀ row ∈ twice.rows, row.length = twice.columns.length := by decide
  obtain ⟨compact, indented, objects, hcompact, hindented, hread, hread', hshows, hprintable⟩ :=
    read_as_rows 80 hwide
  have hline : (Format.json true).lines 80 twice = .ok [twiceLine] := by rfl
  obtain rfl : compact = twiceLine := by
    rw [hline] at hcompact
    exact (List.cons.inj (Except.ok.inj hcompact)).1.symm
  have hvalue : read? twiceLine.toList = some (.array (twiceObjects.map .object)) := by rfl
  obtain rfl : objects = twiceObjects := by
    refine List.map_injective_iff.mpr (fun _ _ h => Datum.object.inj h) ?_
    exact Datum.array.inj (Option.some.inj (hread.symm.trans hvalue))
  exact ⟨hwide, hline, indented, hindented, hread, hread', hshows, hprintable⟩

end Report.Json

end ProcedureCall
