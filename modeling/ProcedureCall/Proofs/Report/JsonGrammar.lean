import ProcedureCall.Proofs.Number.NumberText
import ProcedureCall.Proofs.Report.JsonReader

/-!
# The grammar of JSON

The rules of RFC 8259, one by one: a text is a value with space around it, and a value is one of
three names, a number, a string, or a list or an object of values. There is no number but the
decimal ones, so neither `NaN` nor `Infinity` is a value. To tell that a text is none of the grammar
it is enough to look at what stands outside its strings: from a text of the grammar no capital `N`
and no capital `I` is left when the strings are taken out.

## What is proved

* `IsJson.clean` — what a text of the grammar leaves outside its strings.
-/

namespace ProcedureCall.Report.Json

/-! ### Space and marks -/

/-- Space, or nothing. -/
def IsSpace (s : List Char) : Prop := ∀ c ∈ s, isBlank c = true

theorem isSpace_nil : IsSpace [] := by simp [IsSpace]

/-- A mark with space around it. -/
def Spaced (mark : Char) (s : List Char) : Prop :=
  ∃ before after, IsSpace before ∧ IsSpace after ∧ s = before ++ mark :: after

theorem spaced_self (mark : Char) : Spaced mark [mark] := ⟨[], [], isSpace_nil, isSpace_nil, rfl⟩

/-! ### Numbers -/

/-- One digit or more. -/
def IsDigits (s : List Char) : Prop := s ≠ [] ∧ ∀ c ∈ s, c.isDigit = true

/-- The digits before a point: a zero, or digits that do not begin with one. -/
def IsWhole (s : List Char) : Prop := IsDigits s ∧ (s.head? = some '0' → s = ['0'])

/-- A point with digits behind it, or nothing. -/
inductive IsFraction : List Char → Prop where
  /-- Nothing. -/
  | none : IsFraction []
  /-- A point with digits. -/
  | some {digits : List Char} : IsDigits digits → IsFraction ('.' :: digits)

/-- An exponent, or nothing. -/
inductive IsExponent : List Char → Prop where
  /-- Nothing. -/
  | none : IsExponent []
  /-- An exponent without a sign. -/
  | unsigned {e : Char} {digits : List Char} : e = 'e' ∨ e = 'E' → IsDigits digits →
      IsExponent (e :: digits)
  /-- An exponent with a sign. -/
  | signed {e sign : Char} {digits : List Char} : e = 'e' ∨ e = 'E' → sign = '-' ∨ sign = '+' →
      IsDigits digits → IsExponent (e :: sign :: digits)

/-- A number: a minus or nothing, digits, a fraction and an exponent. -/
def IsNumber (s : List Char) : Prop :=
  ∃ negative whole fraction exponent, IsWhole whole ∧ IsFraction fraction ∧ IsExponent exponent ∧
    s = Numeral.minus negative ++ (whole ++ fraction ++ exponent)

/-! ### Strings -/

/-- What stands between the quotes of a string. -/
inductive IsBody : List Char → Prop where
  /-- Nothing. -/
  | nil : IsBody []
  /-- A character that is no control character, no quote and no backslash. -/
  | char {c : Char} {body : List Char} : 32 ≤ c.toNat → c ≠ '"' → c ≠ '\\' → IsBody body →
      IsBody (c :: body)
  /-- A backslash with the character that it escapes. -/
  | escape {c : Char} {body : List Char} : c ∈ "\"\\/bfnrt".toList → IsBody body →
      IsBody ('\\' :: c :: body)
  /-- A unit by its number. -/
  | unit {a b c d : Char} {body : List Char} :
      (∀ digit ∈ [a, b, c, d], Text.isHexDigit digit = true) → IsBody body →
      IsBody ('\\' :: 'u' :: a :: b :: c :: d :: body)

/-- A string. -/
def IsString (s : List Char) : Prop := ∃ body, IsBody body ∧ s = '"' :: body ++ ['"']

/-! ### Values -/

/-- What is built of values. -/
inductive Part where
  /-- A value. -/
  | value
  /-- The values of a list, at least one. -/
  | items
  /-- The names with their values of an object, at least one. -/
  | members

/-- The rules for values and what is built of them. -/
inductive Derives : Part → List Char → Prop where
  /-- A name is a value. -/
  | name {s : List Char} : s ∈ ["false".toList, "null".toList, "true".toList] → Derives .value s
  /-- A number is a value. -/
  | number {s : List Char} : IsNumber s → Derives .value s
  /-- A string is a value. -/
  | string {s : List Char} : IsString s → Derives .value s
  /-- A list without values is a value. -/
  | emptyList {opening closing : List Char} : Spaced '[' opening → Spaced ']' closing →
      Derives .value (opening ++ closing)
  /-- A list of values is a value. -/
  | list {opening items closing : List Char} : Spaced '[' opening → Derives .items items →
      Spaced ']' closing → Derives .value (opening ++ items ++ closing)
  /-- An object without members is a value. -/
  | emptyObject {opening closing : List Char} : Spaced '\x7b' opening → Spaced '\x7d' closing →
      Derives .value (opening ++ closing)
  /-- An object with members is a value. -/
  | object {opening members closing : List Char} : Spaced '\x7b' opening →
      Derives .members members → Spaced '\x7d' closing →
      Derives .value (opening ++ members ++ closing)
  /-- A value is the last of a list. -/
  | item {s : List Char} : Derives .value s → Derives .items s
  /-- A value, a comma and more values. -/
  | items {s comma more : List Char} : Derives .value s → Spaced ',' comma → Derives .items more →
      Derives .items (s ++ comma ++ more)
  /-- A name and its value are the last of an object. -/
  | member {name colon s : List Char} : IsString name → Spaced ':' colon → Derives .value s →
      Derives .members (name ++ colon ++ s)
  /-- A name and its value, a comma and more of them. -/
  | members {name colon s comma more : List Char} : IsString name → Spaced ':' colon →
      Derives .value s → Spaced ',' comma → Derives .members more →
      Derives .members (name ++ colon ++ s ++ comma ++ more)

/-- A JSON text: a value with space around it. -/
def IsJson (s : List Char) : Prop :=
  ∃ before value after, IsSpace before ∧ Derives .value value ∧ IsSpace after ∧
    s = before ++ value ++ after

/-! ### What stands outside strings -/

/-- Where a character stands. -/
inductive Side where
  /-- Outside strings. -/
  | outside
  /-- In a string. -/
  | inside
  /-- In a string, behind a backslash. -/
  | escaped

/-- The characters outside strings. -/
def bare : Side → List Char → List Char
  | _, [] => []
  | .outside, c :: rest => if c = '"' then bare .inside rest else c :: bare .outside rest
  | .inside, c :: rest =>
    if c = '"' then bare .outside rest
    else if c = '\\' then bare .escaped rest
    else bare .inside rest
  | .escaped, _ :: rest => bare .inside rest

/-- The strings in a text end in it, so that what follows is outside strings again. -/
def IsBalanced (s : List Char) : Prop :=
  ∀ rest, bare .outside (s ++ rest) = bare .outside s ++ bare .outside rest

theorem IsBalanced.append {s t : List Char} (hs : IsBalanced s) (ht : IsBalanced t) :
    IsBalanced (s ++ t) := by
  intro rest
  rw [List.append_assoc, hs, ht, hs t, List.append_assoc]

theorem bare_append_of_unquoted {s : List Char} (h : ∀ c ∈ s, c ≠ '"') (rest : List Char) :
    bare .outside (s ++ rest) = s ++ bare .outside rest := by
  induction s with
  | nil => rfl
  | cons c s ih =>
    obtain ⟨hc, hs⟩ := List.forall_mem_cons.mp h
    rw [List.cons_append, bare, if_neg hc, ih hs, List.cons_append]

theorem bare_of_unquoted {s : List Char} (h : ∀ c ∈ s, c ≠ '"') : bare .outside s = s := by
  simpa [bare] using bare_append_of_unquoted h []

theorem isBalanced_of_unquoted {s : List Char} (h : ∀ c ∈ s, c ≠ '"') : IsBalanced s := fun rest =>
  by rw [bare_append_of_unquoted h, bare_of_unquoted h]

theorem IsBody.bare_append {body : List Char} (h : IsBody body) (rest : List Char) :
    bare .inside (body ++ '"' :: rest) = bare .outside rest := by
  induction h with
  | nil => simp [bare]
  | char _ hquote hslash _ ih => rw [List.cons_append, bare, if_neg hquote, if_neg hslash, ih]
  | escape _ _ ih => simpa [bare] using ih
  | unit hdigits _ ih =>
    have hother : ∀ c, Text.isHexDigit c = true → c ≠ '"' ∧ c ≠ '\\' := by
      intro c hc
      constructor <;> rintro rfl <;> cases hc
    simp only [List.forall_mem_cons] at hdigits
    obtain ⟨ha, hb, hc, hd, -⟩ := hdigits
    simpa [bare, hother _ ha, hother _ hb, hother _ hc, hother _ hd] using ih

/-- Of a string nothing is left. -/
theorem IsString.bare_append {s : List Char} (h : IsString s) (rest : List Char) :
    bare .outside (s ++ rest) = bare .outside rest := by
  obtain ⟨body, hbody, rfl⟩ := h
  have hassoc : '"' :: body ++ ['"'] ++ rest = '"' :: (body ++ '"' :: rest) := by simp
  rw [hassoc, bare, if_pos rfl, hbody.bare_append]

theorem IsString.bare_eq {s : List Char} (h : IsString s) : bare .outside s = [] := by
  simpa [bare] using h.bare_append []

theorem IsString.isBalanced {s : List Char} (h : IsString s) : IsBalanced s := fun rest => by
  rw [h.bare_append, h.bare_eq, List.nil_append]

/-! ### No capitals -/

/-- A character that is no `N` and no `I`. -/
def IsPlain (c : Char) : Prop := c ≠ 'N' ∧ c ≠ 'I'

/-- A balanced text without `N` and `I` outside its strings. -/
structure IsClean (s : List Char) : Prop where
  balanced : IsBalanced s
  plain : ∀ c ∈ bare .outside s, IsPlain c

theorem IsClean.append {s t : List Char} (hs : IsClean s) (ht : IsClean t) : IsClean (s ++ t) where
  balanced := hs.balanced.append ht.balanced
  plain := by
    rw [hs.balanced]
    exact List.forall_mem_append.mpr ⟨hs.plain, ht.plain⟩

theorem IsString.clean {s : List Char} (h : IsString s) : IsClean s :=
  ⟨h.isBalanced, by simp [h.bare_eq]⟩

theorem isClean_of_forall {s : List Char} (h : ∀ c ∈ s, c ≠ '"' ∧ IsPlain c) : IsClean s where
  balanced := isBalanced_of_unquoted fun c hc => (h c hc).1
  plain := by
    rw [bare_of_unquoted fun c hc => (h c hc).1]
    exact fun c hc => (h c hc).2

/-- A character that is told by a test which a quote and the capitals fail. -/
theorem isPlain_of_test {test : Char → Bool} {c : Char} (hc : test c = true)
    (htest : test '"' = false ∧ test 'N' = false ∧ test 'I' = false) : c ≠ '"' ∧ IsPlain c := by
  obtain ⟨hquote, hN, hI⟩ := htest
  refine ⟨?_, ?_, ?_⟩ <;> rintro rfl <;> simp_all

theorem IsSpace.clean {s : List Char} (h : IsSpace s) : IsClean s :=
  isClean_of_forall fun c hc => isPlain_of_test (h c hc) (by decide)

/-- A mark of the grammar is no quote and no capital. -/
theorem Spaced.clean {mark : Char} {s : List Char} (h : Spaced mark s)
    (hmark : mark ∈ "[]\x7b\x7d,:".toList) : IsClean s := by
  obtain ⟨before, after, hbefore, hafter, rfl⟩ := h
  have hmarks : "[]\x7b\x7d,:".toList.contains mark = true := by simpa using hmark
  have hplain : mark ≠ '"' ∧ IsPlain mark := isPlain_of_test hmarks (by decide)
  have hone : IsClean [mark] := isClean_of_forall fun c hc => List.mem_singleton.mp hc ▸ hplain
  exact hbefore.clean.append (hone.append hafter.clean)

theorem IsDigits.clean {s : List Char} (h : IsDigits s) : IsClean s :=
  isClean_of_forall fun c hc => isPlain_of_test (h.2 c hc) (by decide)

theorem IsNumber.clean {s : List Char} (h : IsNumber s) : IsClean s := by
  obtain ⟨negative, whole, fraction, exponent, hwhole, hfraction, hexponent, rfl⟩ := h
  have hone : ∀ c : Char, c ≠ '"' ∧ IsPlain c → IsClean [c] := fun c hc =>
    isClean_of_forall fun d hd => List.mem_singleton.mp hd ▸ hc
  have hnil : IsClean [] := isClean_of_forall (by simp)
  have hminus : IsClean (Numeral.minus negative) := by
    cases negative with
    | true => exact hone '-' (by simp [IsPlain])
    | false => exact hnil
  have hfractionClean : IsClean fraction := by
    cases hfraction with
    | none => exact hnil
    | some hdigits => exact (hone '.' (by simp [IsPlain])).append hdigits.clean
  have hletter : ∀ e : Char, e = 'e' ∨ e = 'E' → IsClean [e] := by
    rintro e (rfl | rfl) <;> exact hone _ (by simp [IsPlain])
  have hsign : ∀ sign : Char, sign = '-' ∨ sign = '+' → IsClean [sign] := by
    rintro sign (rfl | rfl) <;> exact hone _ (by simp [IsPlain])
  have hexponentClean : IsClean exponent := by
    cases hexponent with
    | none => exact hnil
    | unsigned he hdigits => exact (hletter _ he).append hdigits.clean
    | signed he hs hdigits => exact (hletter _ he).append ((hsign _ hs).append hdigits.clean)
  exact hminus.append ((hwhole.1.clean.append hfractionClean).append hexponentClean)

theorem Derives.clean {part : Part} {s : List Char} (h : Derives part s) : IsClean s := by
  induction h with
  | name hs =>
    refine isClean_of_forall fun c hc => ?_
    have hall : ∀ name ∈ ["false".toList, "null".toList, "true".toList], ∀ c ∈ name,
        c ≠ '"' ∧ IsPlain c := by simp [IsPlain]
    exact hall _ hs c hc
  | number hs => exact hs.clean
  | string hs => exact hs.clean
  | emptyList hopening hclosing | emptyObject hopening hclosing =>
    exact (hopening.clean (by decide)).append (hclosing.clean (by decide))
  | list hopening _ hclosing ih | object hopening _ hclosing ih =>
    exact ((hopening.clean (by decide)).append ih).append (hclosing.clean (by decide))
  | item _ ih => exact ih
  | items _ hcomma _ ih ihmore => exact (ih.append (hcomma.clean (by decide))).append ihmore
  | member hname hcolon _ ih => exact (hname.clean.append (hcolon.clean (by decide))).append ih
  | members hname hcolon _ hcomma _ ih ihmore =>
    exact (((hname.clean.append (hcolon.clean (by decide))).append ih).append
      (hcomma.clean (by decide))).append ihmore

/-- A JSON text leaves no `N` and no `I` outside its strings. -/
theorem IsJson.clean {s : List Char} (h : IsJson s) : IsClean s := by
  obtain ⟨before, value, after, hbefore, hvalue, hafter, rfl⟩ := h
  exact (hbefore.clean.append hvalue.clean).append hafter.clean

end ProcedureCall.Report.Json
