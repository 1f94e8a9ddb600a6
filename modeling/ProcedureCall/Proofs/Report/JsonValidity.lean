import ProcedureCall.Proofs.Report.Json
import ProcedureCall.Proofs.Report.JsonGrammar

/-!
# Which JSON reports are JSON

The scalars of a report are written by the grammar, all but the numbers that are none or infinite:
they have names of their own, which the grammar does not know. Texts between quotes hide nothing of
the kind, so one such number that is shown makes the whole report no JSON text, and nothing else
does.

## What is proved

* `derives_list`, `derives_object` — either layout of lists and objects is by the grammar.
* `derives_scalarText` — so are the scalars, if they are no infinite number and not none.
* `report_isJson_iff` — a report is a JSON text exactly if every number that it shows is finite.
-/

namespace ProcedureCall

/-- A number that is neither infinite nor none at all. -/
def Binary.IsFinite : Binary → Prop
  | .finite .. => True
  | _ => False

instance : DecidablePred Binary.IsFinite
  | .finite .. => isTrue trivial
  | .infinite _ | .notANumber => isFalse id

namespace Report.Json

/-! ### Scalars -/

theorem isDigits_toDigits (n : ℕ) : IsDigits (Nat.toDigits 10 n) :=
  ⟨Nat.toDigits_ne_nil, fun _ => Numeral.isDigit_of_mem_toDigits⟩

theorem isNumber_int (n : ℤ) : IsNumber (Numeral.text n) := by
  refine ⟨decide (n < 0), Nat.toDigits 10 n.natAbs, [], [],
    ⟨isDigits_toDigits n.natAbs, fun hhead => ?_⟩, .none, .none, ?_⟩
  · rcases Nat.eq_zero_or_pos n.natAbs with h | h
    · rw [h]
      rfl
    · exact absurd hhead (Numeral.head?_toDigits_ne h)
  · simp [Numeral.text, Numeral.minus]

theorem isDigits_of_leadingDigits {s : List Char} {count value : ℕ}
    (h : Numeral.leadingDigits s = (count, value, [])) (hcount : count ≠ 0) : IsDigits s := by
  unfold Numeral.leadingDigits at h
  obtain ⟨hlength, -, hrest⟩ : _ ∧ _ ∧ _ := by simpa using h
  refine ⟨?_, hrest⟩
  rintro rfl
  exact hcount hlength.symm

/-- A sign is read off, or there is none. -/
theorem sign_cases (s : List Char) :
    (∃ c, (c = '-' ∨ c = '+') ∧ s = c :: (Numeral.sign s).2) ∨ s = (Numeral.sign s).2 := by
  unfold Numeral.sign
  split
  · exact .inl ⟨'-', .inl rfl, rfl⟩
  · exact .inl ⟨'+', .inr rfl, rfl⟩
  · exact .inr rfl

/-- What is read as an exponent is one by the grammar. -/
theorem isExponent_of_exponent? {s : List Char} {power : ℤ}
    (h : Numeral.exponent? s = some power) : IsExponent s := by
  cases s with
  | nil => exact .none
  | cons e rest =>
    rw [Numeral.exponent?] at h
    split_ifs at h with he
    have hdigits : IsDigits (Numeral.sign rest).2 := by
      dsimp only at h
      split at h
      case h_1 count value hread =>
        split_ifs at h with hcount
        exact isDigits_of_leadingDigits hread hcount
      case h_2 => cases h
    rcases sign_cases rest with ⟨sign, hsign, hrest⟩ | hrest
    · rw [hrest]
      exact .signed he hsign hdigits
    · rw [hrest]
      exact .unsigned he hdigits

theorem isNumber_scientific (s : Numeral.Scientific) (negative : Bool) :
    IsNumber (Numeral.minus negative ++ s.text) := by
  refine ⟨negative, s.whole, Numeral.pointed s.fraction, s.exponent,
    ⟨⟨s.whole_ne_nil, s.isDigit_whole⟩, s.eq_zero_of_head?⟩, ?_,
    isExponent_of_exponent? s.exponent?_eq, rfl⟩
  unfold Numeral.pointed
  split_ifs with hfraction
  · exact .none
  · exact .some ⟨hfraction, s.isDigit_fraction⟩

theorem isBody_unitEscape (unit : ℕ) {body : List Char} (h : IsBody body) :
    IsBody (unitEscape unit ++ body) := by
  have hdigit : ∀ n : ℕ, Text.isHexDigit (Text.hexDigit (n % 16)) = true := fun n => by
    rw [Text.isHexDigit, hexValue?_hexDigit _ (Nat.mod_lt n (by decide))]
    rfl
  rw [unitEscape_eq]
  exact .unit (by simp [hdigit]) h

/-- A character is escaped by the grammar. -/
theorem isBody_escaped (c : Char) {body : List Char} (h : IsBody body) :
    IsBody (escaped c ++ body) := by
  unfold escaped
  split_ifs with h₁ h₂ h₃ h₄ h₅ h₆ h₇ h₈
  · rcases h₁ with rfl | rfl <;> exact .escape (by decide) h
  · exact .escape (by decide) h
  · exact .escape (by decide) h
  · exact .escape (by decide) h
  · exact .escape (by decide) h
  · exact .escape (by decide) h
  · exact .char h₇.1 (fun hc => h₁ (.inl hc)) (fun hc => h₁ (.inr hc)) h
  · exact isBody_unitEscape _ h
  · rw [List.append_assoc]
    exact isBody_unitEscape _ (isBody_unitEscape _ h)

theorem isString_quoted (s : List Char) : IsString (quoted s) := by
  refine ⟨s.flatMap escaped, ?_, rfl⟩
  induction s with
  | nil => exact .nil
  | cons c s ih => exact isBody_escaped c ih

/-- A scalar is written by the grammar if it is no infinite number and not none. -/
theorem derives_scalarText {x : Scalar} (h : ∀ y, x = .float y → y.IsFinite) :
    Derives .value (scalarText x) := by
  cases x with
  | null => exact .name (by simp [scalarText])
  | bool b => cases b <;> exact .name (by simp [scalarText])
  | int n => exact .number (isNumber_int n)
  | text s => exact .string (isString_quoted s)
  | float y =>
    cases y with
    | finite negative m e fits =>
      obtain ⟨s, hs, -⟩ := Binary.exists_text negative fits
      have htext : scalarText (.float (.finite negative m e fits)) =
          Numeral.minus negative ++ s.text := hs
      rw [htext]
      exact .number (isNumber_scientific s negative)
    | infinite negative => exact (h _ rfl).elim
    | notANumber => exact (h _ rfl).elim

/-! ### Layouts -/

/-- Either layout puts items between brackets with space around these and around the commas. -/
theorem exists_enclose_eq (l : Layout) (depth : ℕ) (opening closing : Char)
    (texts : List (List Char)) :
    ∃ before comma after, Spaced opening before ∧ Spaced ',' comma ∧ Spaced closing after ∧
      l.enclose depth opening closing texts = before ++ comma.intercalate texts ++ after := by
  have hline : ∀ level : ℕ, IsSpace ('\n' :: List.replicate (2 * level) ' ') := by
    intro level c hc
    rcases List.mem_cons.mp hc with rfl | hc
    · rfl
    · rw [List.eq_of_mem_replicate hc]
      rfl
  by_cases hempty : texts = []
  · exact ⟨[opening], [','], [closing], spaced_self _, spaced_self _, spaced_self _,
      by simp [Layout.enclose, hempty]⟩
  by_cases hcompact : l.compact = true
  · exact ⟨[opening], [',', ' '], [closing], spaced_self _,
      ⟨[], [' '], isSpace_nil, by simp [IsSpace, isBlank], rfl⟩, spaced_self _,
      by simp [Layout.enclose, hempty, hcompact]⟩
  · exact ⟨_, _, _, ⟨[], _, isSpace_nil, hline (depth + 1), rfl⟩,
      ⟨[], _, isSpace_nil, hline (depth + 1), rfl⟩, ⟨_, [], hline depth, isSpace_nil, rfl⟩,
      by simp [Layout.enclose, hempty, hcompact]⟩

theorem derives_items {comma : List Char} (hcomma : Spaced ',' comma) {first : List Char}
    {more : List (List Char)} (h : ∀ text ∈ first :: more, Derives .value text) :
    Derives .items (comma.intercalate (first :: more)) := by
  induction more generalizing first with
  | nil => simpa using Derives.item (h first List.mem_cons_self)
  | cons next more ih =>
    obtain ⟨hfirst, hmore⟩ := List.forall_mem_cons.mp h
    have := Derives.items hfirst hcomma (ih hmore)
    simpa [List.intercalate] using this

/-- A name with its value. -/
def IsMember (s : List Char) : Prop :=
  ∃ name colon value, IsString name ∧ Spaced ':' colon ∧ Derives .value value ∧
    s = name ++ colon ++ value

theorem derives_members {comma : List Char} (hcomma : Spaced ',' comma) {first : List Char}
    {more : List (List Char)} (h : ∀ text ∈ first :: more, IsMember text) :
    Derives .members (comma.intercalate (first :: more)) := by
  induction more generalizing first with
  | nil =>
    obtain ⟨name, colon, value, hname, hcolon, hvalue, rfl⟩ := h first List.mem_cons_self
    simpa using Derives.member hname hcolon hvalue
  | cons next more ih =>
    obtain ⟨hfirst, hmore⟩ := List.forall_mem_cons.mp h
    obtain ⟨name, colon, value, hname, hcolon, hvalue, rfl⟩ := hfirst
    have := Derives.members hname hcolon hvalue hcomma (ih hmore)
    simpa [List.intercalate] using this

theorem derives_list (l : Layout) (depth : ℕ) {texts : List (List Char)}
    (h : ∀ text ∈ texts, Derives .value text) :
    Derives .value (l.enclose depth '[' ']' texts) := by
  obtain ⟨before, comma, after, hbefore, hcomma, hafter, heq⟩ :=
    exists_enclose_eq l depth '[' ']' texts
  rw [heq]
  cases texts with
  | nil => simpa using Derives.emptyList hbefore hafter
  | cons first more => exact .list hbefore (derives_items hcomma h) hafter

theorem derives_object (l : Layout) (depth : ℕ) {texts : List (List Char)}
    (h : ∀ text ∈ texts, IsMember text) :
    Derives .value (l.enclose depth '\x7b' '\x7d' texts) := by
  obtain ⟨before, comma, after, hbefore, hcomma, hafter, heq⟩ :=
    exists_enclose_eq l depth '\x7b' '\x7d' texts
  rw [heq]
  cases texts with
  | nil => simpa using Derives.emptyObject hbefore hafter
  | cons first more => exact .object hbefore (derives_members hcomma h) hafter

/-! ### What is left of a report outside strings -/

theorem IsBalanced.intercalate {comma : List Char} (hcomma : IsBalanced comma)
    {texts : List (List Char)} (h : ∀ text ∈ texts, IsBalanced text) :
    IsBalanced (comma.intercalate texts) := by
  induction texts with
  | nil => exact isBalanced_of_unquoted (by simp)
  | cons first more ih =>
    obtain ⟨hfirst, hmore⟩ := List.forall_mem_cons.mp h
    cases more with
    | nil => simpa using hfirst
    | cons next more => simpa [List.intercalate] using (hfirst.append hcomma).append (ih hmore)

/-- What is left of one of some texts is left of them all, whatever stands between them. -/
theorem mem_bare_intercalate {comma : List Char} (hcomma : IsBalanced comma)
    {texts : List (List Char)} (h : ∀ text ∈ texts, IsBalanced text) {text : List Char}
    (htext : text ∈ texts) {c : Char} (hc : c ∈ bare .outside text) :
    c ∈ bare .outside (comma.intercalate texts) := by
  induction texts with
  | nil => cases htext
  | cons first more ih =>
    obtain ⟨hfirst, hmore⟩ := List.forall_mem_cons.mp h
    cases more with
    | nil => simpa [List.mem_singleton.mp htext] using hc
    | cons next more =>
      have hjoin : comma.intercalate (first :: next :: more) =
          first ++ (comma ++ comma.intercalate (next :: more)) := by simp [List.intercalate]
      rw [hjoin, hfirst, hcomma, List.mem_append, List.mem_append]
      rcases List.mem_cons.mp htext with rfl | htext
      · exact .inl hc
      · exact .inr (.inr (ih hmore htext))

section

variable (l : Layout) (depth : ℕ) {opening closing : Char} {texts : List (List Char)}
  (hopening : opening ∈ "[]\x7b\x7d,:".toList) (h : ∀ text ∈ texts, IsBalanced text)

include hopening h

theorem isBalanced_enclose (hclosing : closing ∈ "[]\x7b\x7d,:".toList) :
    IsBalanced (l.enclose depth opening closing texts) := by
  obtain ⟨before, comma, after, hbefore, hcomma, hafter, heq⟩ :=
    exists_enclose_eq l depth opening closing texts
  have hjoined := (hcomma.clean (by decide)).balanced.intercalate h
  rw [heq]
  exact ((hbefore.clean hopening).balanced.append hjoined).append (hafter.clean hclosing).balanced

/-- What is left of an item is left of all that it stands in. -/
theorem mem_bare_enclose {text : List Char} (htext : text ∈ texts) {c : Char}
    (hc : c ∈ bare .outside text) : c ∈ bare .outside (l.enclose depth opening closing texts) := by
  obtain ⟨before, comma, after, hbefore, hcomma, hafter, heq⟩ :=
    exists_enclose_eq l depth opening closing texts
  have hcommas := (hcomma.clean (by decide)).balanced
  have hitems := mem_bare_intercalate hcommas h htext hc
  rw [heq, List.append_assoc, (hbefore.clean hopening).balanced, hcommas.intercalate h]
  exact List.mem_append_right _ (List.mem_append_left _ hitems)

end

/-- The name of a number that is infinite or none has a capital, and no quote. -/
theorem exists_capital {x : Binary} (h : ¬ x.IsFinite) :
    IsBalanced (numberText x) ∧ ∃ c ∈ bare .outside (numberText x), ¬ IsPlain c := by
  have hname : ∀ name : List Char, (∀ c ∈ name, c ≠ '"') → (∃ c ∈ name, ¬ IsPlain c) →
      IsBalanced name ∧ ∃ c ∈ bare .outside name, ¬ IsPlain c := fun name hquote hcapital =>
    ⟨isBalanced_of_unquoted hquote, by rwa [bare_of_unquoted hquote]⟩
  cases x with
  | finite negative m e fits => exact absurd trivial h
  | notANumber =>
    exact hname _ (by simp [numberText]) ⟨'N', by simp [numberText], by simp [IsPlain]⟩
  | infinite negative =>
    refine hname _ ?_ ⟨'I', by simp [numberText], by simp [IsPlain]⟩
    cases negative <;> simp [numberText]

theorem isBalanced_scalarText (x : Scalar) : IsBalanced (scalarText x) := by
  by_cases h : ∀ y, x = .float y → y.IsFinite
  · exact (derives_scalarText h).clean.balanced
  · push Not at h
    obtain ⟨y, rfl, hy⟩ := h
    exact (exists_capital hy).1

/-! ### Reports -/

/-- A value is shown of a row: it is that of the last column of a name. -/
def IsShown (columns : List String) (row : List Value) (v : Value) : Prop :=
  ∃ (i : ℕ) (name : String), columns[i]? = some name ∧ row[i]? = some v ∧
    ∀ j, i < j → columns[j]? ≠ some name

theorem isShown_iff {columns : List String} {row : List Value} (h : row.length = columns.length)
    {v : Value} :
    IsShown columns row v ↔ ∃ name, (name, v) ∈ Entries.ofPairs (columns.zip row) := by
  have hkeys : (columns.zip row).map Prod.fst = columns := List.map_fst_zip h.ge
  constructor
  · rintro ⟨i, name, hname, hv, hlast⟩
    exact ⟨name, Entries.mem_ofPairs_of_last (List.getElem?_zip_eq_some.mpr ⟨hname, hv⟩)
      (by rwa [hkeys])⟩
  · rintro ⟨name, hmem⟩
    obtain ⟨i, hpair, hlast⟩ := Entries.exists_last_of_mem_ofPairs hmem
    obtain ⟨hname, hv⟩ := List.getElem?_zip_eq_some.mp hpair
    exact ⟨i, name, hname, hv, by rwa [hkeys] at hlast⟩

/-- A member of an object, with its name, as it is written. -/
def memberText (member : String × Value) : List Char :=
  quoted member.1.toList ++ [':', ' '] ++ scalarText (scalar member.2)

theorem spaced_colon : Spaced ':' [':', ' '] :=
  ⟨[], [' '], isSpace_nil, by simp [IsSpace, isBlank], rfl⟩

theorem objectText_eq (l : Layout) (members : List (String × Value)) :
    objectText l members = l.enclose 1 '\x7b' '\x7d' (members.map memberText) := rfl

theorem eq_float_of_scalar {v : Value} {x : Binary} (h : scalar v = .float x) : v = .float x := by
  cases v <;> simp_all [scalar]

/-- An object is written by the grammar if its numbers are finite. -/
theorem derives_objectText (l : Layout) {members : List (String × Value)}
    (h : ∀ name x, (name, .float x) ∈ members → x.IsFinite) :
    Derives .value (objectText l members) := by
  rw [objectText_eq]
  refine derives_object l 1 fun text htext => ?_
  obtain ⟨⟨name, v⟩, hmember, rfl⟩ := List.mem_map.mp htext
  refine ⟨_, _, _, isString_quoted _, spaced_colon, derives_scalarText fun x hx => ?_, rfl⟩
  obtain rfl := eq_float_of_scalar hx
  exact h name x hmember

theorem isBalanced_memberText (member : String × Value) : IsBalanced (memberText member) :=
  ((isString_quoted _).isBalanced.append (spaced_colon.clean (by decide)).balanced).append
    (isBalanced_scalarText _)

theorem isBalanced_objectText (l : Layout) (members : List (String × Value)) :
    IsBalanced (objectText l members) := by
  rw [objectText_eq]
  refine isBalanced_enclose l 1 (by decide) (fun text htext => ?_) (by decide)
  obtain ⟨member, -, rfl⟩ := List.mem_map.mp htext
  exact isBalanced_memberText member

/-- A number that is infinite or none leaves a capital of the object that it is in. -/
theorem exists_capital_objectText (l : Layout) {members : List (String × Value)} {name : String}
    {x : Binary} (hmember : (name, .float x) ∈ members) (hx : ¬ x.IsFinite) :
    ∃ c ∈ bare .outside (objectText l members), ¬ IsPlain c := by
  obtain ⟨-, c, hc, hcapital⟩ := exists_capital hx
  refine ⟨c, mem_bare_enclose l 1 (by decide) (fun text htext => ?_)
    (List.mem_map_of_mem (f := memberText) hmember) ?_, hcapital⟩
  · obtain ⟨member, -, rfl⟩ := List.mem_map.mp htext
    exact isBalanced_memberText member
  · have hbalanced := (isString_quoted name.toList).isBalanced.append
      (spaced_colon.clean (by decide)).balanced
    rw [memberText, hbalanced]
    exact List.mem_append_right _ hc

/-- **A JSON report is JSON exactly if the numbers in it are finite.** If each row is as wide as the
columns, there is a report, on one line and indented, whatever the values are. It is a text of the
grammar exactly if no number that is shown in it is infinite or none at all; a number is not shown
if a later column has the same name. -/
theorem report_isJson_iff (compact : Bool) (terminal : Nat) {r : QueryResult}
    (hwide : ∀ row ∈ r.rows, row.length = r.columns.length) :
    ∃ text, (Format.json compact).lines terminal r = .ok [text] ∧
      (IsJson text.toList ↔ ∀ row ∈ r.rows, ∀ x,
        IsShown (r.columns.map (·.name)) row (.float x) → x.IsFinite) := by
  set columns := r.columns.map (·.name) with hcolumns
  have hlength : ∀ row ∈ r.rows, row.length = columns.length := by
    intro row hrow
    rw [hwide row hrow, hcolumns, List.length_map]
  set objects := r.rows.map fun row => objectText ⟨compact⟩ (Entries.ofPairs (columns.zip row))
    with hobjects
  have htext : text ⟨compact⟩ r = .ok (Layout.enclose ⟨compact⟩ 0 '[' ']' objects) := by
    have hmap : (r.rows.map fun row => Entries.ofPairs (columns.zip row)).map
        (objectText ⟨compact⟩) = objects := by
      rw [hobjects, List.map_map]
      rfl
    rw [text, mapM_object hlength, ← hmap]
    rfl
  refine ⟨_, by rw [Format.lines, htext]; rfl, ?_⟩
  rw [String.toList_ofList]
  constructor
  · intro hjson row hrow x hshown
    by_contra hx
    obtain ⟨name, hmember⟩ := (isShown_iff (hlength row hrow)).mp hshown
    obtain ⟨c, hc, hcapital⟩ := exists_capital_objectText ⟨compact⟩ hmember hx
    refine hcapital (hjson.clean.plain c (mem_bare_enclose _ 0 (by decide) ?_
      (List.mem_map_of_mem hrow) hc))
    intro text hmem
    obtain ⟨row, -, rfl⟩ := List.mem_map.mp hmem
    exact isBalanced_objectText _ _
  · intro hfinite
    refine ⟨[], _, [], isSpace_nil, derives_list ⟨compact⟩ 0 (fun text hmem => ?_), isSpace_nil,
      (List.append_nil _).symm⟩
    obtain ⟨row, hrow, rfl⟩ := List.mem_map.mp hmem
    exact derives_objectText _ fun name x hmember =>
      hfinite row hrow x ((isShown_iff (hlength row hrow)).mpr ⟨name, hmember⟩)

/-- One column of numbers, with one row for each of some numbers. -/
def numbers (xs : List Binary) : QueryResult where
  columns := [⟨"x", "float8"⟩]
  rows := xs.map fun x => [.float x]
  rowCount := xs.length
  status := "SELECT"

/-- A power of ten and a tenth with a minus. -/
def fewNumbers : QueryResult := numbers [.ofDecimal false 1 22, .ofDecimal true 1 (-1)]

/-- The numbers are finite, and their report is JSON. -/
theorem isJson_fewNumbers :
    (∀ row ∈ fewNumbers.rows, row.length = fewNumbers.columns.length) ∧
      (Format.json true).lines 80 fewNumbers =
        .ok ["[\x7b\"x\": 1e+22\x7d, \x7b\"x\": -0.1\x7d]"] ∧
      IsJson "[\x7b\"x\": 1e+22\x7d, \x7b\"x\": -0.1\x7d]".toList := by
  have hwide : ∀ row ∈ fewNumbers.rows, row.length = fewNumbers.columns.length := by decide
  have hline : (Format.json true).lines 80 fewNumbers =
      .ok ["[\x7b\"x\": 1e+22\x7d, \x7b\"x\": -0.1\x7d]"] := by rfl
  have hfinite : ∀ y ∈ [Binary.ofDecimal false 1 22, .ofDecimal true 1 (-1)], y.IsFinite := by
    decide +kernel
  obtain ⟨text, htext, hjson⟩ := report_isJson_iff true 80 hwide
  obtain rfl : text = _ := (List.cons.inj (Except.ok.inj (htext.symm.trans hline))).1
  refine ⟨hwide, hline, hjson.mpr ?_⟩
  rintro row hrow x ⟨i, name, -, hx, -⟩
  obtain ⟨y, hy, rfl⟩ := List.mem_map.mp hrow
  obtain rfl : x = y := by simpa using List.mem_of_getElem? hx
  exact hfinite x hy

/-- A number that is none makes the report no JSON, though it is written. -/
theorem not_isJson_notANumber :
    (∀ row ∈ (numbers [.notANumber]).rows, row.length = (numbers [.notANumber]).columns.length) ∧
      (Format.json true).lines 80 (numbers [.notANumber]) = .ok ["[\x7b\"x\": NaN\x7d]"] ∧
      ¬ IsJson "[\x7b\"x\": NaN\x7d]".toList := by
  refine ⟨by decide, by rfl, fun hjson => ?_⟩
  exact (hjson.clean.plain 'N' (by decide +kernel)).1 rfl

end Report.Json

end ProcedureCall
