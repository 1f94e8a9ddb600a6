import ProcedureCall.Proofs.Text.Octets
import ProcedureCall.Url.Query

/-!
# Escaping, and reading the escapes

A text is escaped by writing the octets of every character that is not unreserved as a percent sign
and two hexadecimal digits. Where escapes are read, the text comes back, whatever it holds
(`plain_escaped`). An escaped text is the text itself only if all of its characters are unreserved
(`escaped_eq_self_iff`).
-/

namespace ProcedureCall.Url

/-- Is the character one that means itself everywhere in a URL? -/
def isUnreserved (c : Char) : Bool :=
  Text.isAsciiLetter c || Text.isAsciiDigit c || c == '-' || c == '.' || c == '_' || c == '~'

/-- The hexadecimal digit of a value below sixteen, a capital from ten on. -/
def escapeDigit (value : Nat) : Char :=
  if value < 10 then Char.ofNat (48 + value) else Char.ofNat (55 + value)

/-- The escape of an octet. -/
def escape (octet : UInt8) : List Char :=
  ['%', escapeDigit (octet.toNat / 16), escapeDigit (octet.toNat % 16)]

/-- A character as it is written in a URL. -/
def escapedChar (c : Char) : List Char :=
  if isUnreserved c then [c] else (Text.toOctets [c]).flatMap escape

/-- A text as it is written in a URL. -/
def escaped (s : List Char) : List Char := s.flatMap escapedChar

example : escaped "a@b/é%".toList = "a%40b%2F%C3%A9%25".toList := by decide +kernel

/-! ### The characters of an escaped text -/

theorem toNat_of_isUnreserved {c : Char} (h : isUnreserved c = true) :
    32 < c.toNat ∧ c.toNat < 127 := by
  have hrange : ∀ low high : Char, low ≤ c ∧ c ≤ high → 32 < low.toNat → high.toNat < 127 →
      32 < c.toNat ∧ c.toNat < 127 := fun low high hc hlow hhigh =>
    ⟨Nat.lt_of_lt_of_le hlow hc.1, Nat.lt_of_le_of_lt hc.2 hhigh⟩
  simp only [isUnreserved, Text.isAsciiLetter, Text.isAsciiDigit, Bool.or_eq_true,
    Bool.and_eq_true, decide_eq_true_eq, beq_iff_eq] at h
  rcases h with ((((((h | h) | h) | rfl) | rfl) | rfl) | rfl)
  · exact hrange 'a' 'z' h (by decide) (by decide)
  · exact hrange 'A' 'Z' h (by decide) (by decide)
  · exact hrange '0' '9' h (by decide) (by decide)
  all_goals decide

theorem isUnreserved_escapeDigit : ∀ value < 16, isUnreserved (escapeDigit value) = true := by
  decide

theorem hexValue?_escapeDigit : ∀ value < 16, Text.hexValue? (escapeDigit value) = some value := by
  decide

/-- The characters of a text are unreserved or among the marks. -/
def Within (marks s : List Char) : Prop := ∀ c ∈ s, isUnreserved c = true ∨ c ∈ marks

section Within

variable {marks s t : List Char}

theorem Within.append (hs : Within marks s) (ht : Within marks t) : Within marks (s ++ t) := by
  intro c hc
  rcases List.mem_append.mp hc with hc | hc
  · exact hs c hc
  · exact ht c hc

theorem Within.mono {more : List Char} (hs : Within marks s) (h : marks ⊆ more) : Within more s :=
  fun c hc => (hs c hc).imp_right fun hmark => h hmark

theorem Within.cons {c : Char} (hc : isUnreserved c = true ∨ c ∈ marks) (hs : Within marks s) :
    Within marks (c :: s) := List.forall_mem_cons.mpr ⟨hc, hs⟩

/-- A character that is neither unreserved nor a mark is not in the text. -/
theorem Within.not_mem {c : Char} (hs : Within marks s) (hc : isUnreserved c = false)
    (hmark : c ∉ marks) : c ∉ s := by
  intro hmem
  rcases hs c hmem with h | h
  · rw [hc] at h
    cases h
  · exact hmark h

theorem Within.beq_eq_false {d : Char} (hs : Within marks s) (hd : isUnreserved d = false)
    (hmark : d ∉ marks) : ∀ c ∈ s, (c == d) = false := by
  intro c hc
  rw [beq_eq_false_iff_ne]
  rintro rfl
  exact hs.not_mem hd hmark hc

/-- All characters of the text can be seen, if the marks can. -/
theorem Within.toNat (hs : Within marks s) (hmarks : ∀ c ∈ marks, 32 < c.toNat ∧ c.toNat < 127) :
    ∀ c ∈ s, 32 < c.toNat ∧ c.toNat < 127 := by
  intro c hc
  rcases hs c hc with h | h
  · exact toNat_of_isUnreserved h
  · exact hmarks c h

end Within

theorem within_escape (octet : UInt8) : Within ['%'] (escape octet) := by
  have hoctet : octet.toNat < 256 := octet.toNat_lt
  refine Within.cons (Or.inr List.mem_cons_self) ?_
  refine Within.cons (Or.inl (isUnreserved_escapeDigit _ (by omega))) ?_
  exact Within.cons (Or.inl (isUnreserved_escapeDigit _ (by omega))) (by simp [Within])

theorem within_escaped (s : List Char) : Within ['%'] (escaped s) := by
  intro c hc
  obtain ⟨d, -, hd⟩ := List.mem_flatMap.mp hc
  rw [escapedChar] at hd
  split at hd
  case isTrue hkept => exact Or.inl (List.mem_singleton.mp hd ▸ hkept)
  case isFalse =>
    obtain ⟨octet, -, hoctet⟩ := List.mem_flatMap.mp hd
    exact within_escape octet c hoctet

/-! ### Reading the escapes -/

theorem toOctets_singleton (c : Char) : Text.toOctets [c] = String.utf8EncodeChar c := by
  rw [Text.toOctets_eq, List.flatMap_singleton]

/-- The one octet of an unreserved character. -/
theorem utf8EncodeChar_of_isUnreserved {c : Char} (h : isUnreserved c = true) :
    String.utf8EncodeChar c = [UInt8.ofNat c.toNat] := by
  have hcode : c.val.toNat ≤ 127 := by
    have hbounds : c.val.toNat < 127 := (toNat_of_isUnreserved h).2
    omega
  unfold String.utf8EncodeChar
  exact if_pos hcode

theorem unescapedOctets_escape (octet : UInt8) (rest : List Char) :
    unescapedOctets (escape octet ++ rest) = octet :: unescapedOctets rest := by
  have hoctet : octet.toNat < 256 := octet.toNat_lt
  have hvalue : UInt8.ofNat (16 * (octet.toNat / 16) + octet.toNat % 16) = octet := by
    rw [Nat.div_add_mod, UInt8.ofNat_toNat]
  change unescapedOctets ('%' :: escapeDigit (octet.toNat / 16) ::
    escapeDigit (octet.toNat % 16) :: rest) = _
  rw [unescapedOctets]
  simp only [hexValue?_escapeDigit _ (show octet.toNat / 16 < 16 by omega),
    hexValue?_escapeDigit _ (show octet.toNat % 16 < 16 by omega), hvalue]

theorem unescapedOctets_escapes (octets : List UInt8) (rest : List Char) :
    unescapedOctets (octets.flatMap escape ++ rest) = octets ++ unescapedOctets rest := by
  induction octets with
  | nil => rfl
  | cons octet octets ih =>
    rw [List.flatMap_cons, List.append_assoc, unescapedOctets_escape, ih, List.cons_append]

theorem unescapedOctets_escapedChar (c : Char) (rest : List Char) :
    unescapedOctets (escapedChar c ++ rest) = Text.toOctets [c] ++ unescapedOctets rest := by
  rw [escapedChar]
  split
  case isTrue hkept =>
    have hpercent : c ≠ '%' := by
      rintro rfl
      exact absurd hkept (by decide)
    rw [toOctets_singleton, utf8EncodeChar_of_isUnreserved hkept, List.singleton_append,
      unescapedOctets.eq_def]
    split <;> simp_all
  case isFalse => exact unescapedOctets_escapes _ rest

/-- Where escapes are read, the octets of the text come back. -/
theorem unescapedOctets_escaped (s : List Char) :
    unescapedOctets (escaped s) = Text.toOctets s := by
  rw [Text.toOctets_eq]
  induction s with
  | nil => rfl
  | cons c s ih =>
    rw [escaped, List.flatMap_cons, unescapedOctets_escapedChar, ← escaped, ih,
      toOctets_singleton, List.flatMap_cons]

/-- A text of ASCII is one run. -/
theorem unescapedAfter_of_isAscii {s : List Char} (h : ∀ c ∈ s, isAscii c = true)
    (run : List Char) : unescapedAfter run s = unescapedRun (s.reverse ++ run) := by
  induction s generalizing run with
  | nil => rfl
  | cons c s ih =>
    obtain ⟨hc, hs⟩ := List.forall_mem_cons.mp h
    rw [unescapedAfter, if_pos hc, ih hs, List.reverse_cons, List.append_assoc,
      List.singleton_append]

/-- An escaped text is read as the text that it was written from, in a query as elsewhere. -/
theorem plain_escaped (s : List Char) : plain (escaped s) = s := by
  have hplus : (escaped s).map (fun c => if c = '+' then ' ' else c) = escaped s := by
    have hnot : '+' ∉ escaped s := (within_escaped s).not_mem (by decide) (by decide)
    refine (List.map_congr_left fun c hc => if_neg ?_).trans (List.map_id _)
    rintro rfl
    exact hnot hc
  have hascii : ∀ c ∈ escaped s, isAscii c = true := by
    intro c hc
    have hbounds := (within_escaped s).toNat (by simp) c hc
    exact decide_eq_true (by omega)
  rw [plain, hplus, unescaped, unescapedAfter_of_isAscii hascii, unescapedRun, List.append_nil,
    List.reverse_reverse, unescapedOctets_escaped, Text.ofOctets_toOctets]

/-! ### Texts that escaping leaves as they are -/

/-- What is not unreserved begins with the escape of an octet. -/
theorem exists_escapedChar_eq {c : Char} (h : isUnreserved c = false) :
    ∃ octet rest, escapedChar c = escape octet ++ rest := by
  obtain ⟨octet, octets, hoctets⟩ :=
    List.exists_cons_of_ne_nil (String.utf8EncodeChar_ne_nil (c := c))
  refine ⟨octet, octets.flatMap escape, ?_⟩
  rw [escapedChar, if_neg (by simp [h]), toOctets_singleton, hoctets, List.flatMap_cons]

theorem length_escapedChar {c : Char} (h : isUnreserved c = false) :
    3 ≤ (escapedChar c).length := by
  obtain ⟨octet, rest, hescape⟩ := exists_escapedChar_eq h
  rw [hescape, List.length_append]
  exact Nat.le_add_right 3 _

theorem length_le_length_escaped (s : List Char) : s.length ≤ (escaped s).length := by
  induction s with
  | nil => exact Nat.zero_le _
  | cons c s ih =>
    have hc : 0 < (escapedChar c).length := by
      cases hkept : isUnreserved c with
      | true => simp [escapedChar, hkept]
      | false => exact Nat.lt_of_lt_of_le (by decide) (length_escapedChar hkept)
    rw [escaped, List.flatMap_cons, List.length_append, List.length_cons, ← escaped]
    omega

theorem escaped_ne_nil {s : List Char} (h : s ≠ []) : escaped s ≠ [] := by
  have hlength := length_le_length_escaped s
  have hpos := List.length_pos_iff.mpr h
  exact List.ne_nil_of_length_pos (by omega)

/-- A text is its own escaped form if all of its characters are unreserved, and only then. -/
theorem escaped_eq_self_iff {s : List Char} :
    escaped s = s ↔ ∀ c ∈ s, isUnreserved c = true := by
  induction s with
  | nil => simp [escaped]
  | cons c s ih =>
    rw [List.forall_mem_cons, ← ih, escaped, List.flatMap_cons, ← escaped]
    cases hc : isUnreserved c with
    | true => simp [escapedChar, hc]
    | false =>
      have hlong := length_escapedChar hc
      have hrest := length_le_length_escaped s
      refine iff_of_false (fun heq => ?_) (by simp)
      have hlength := congrArg List.length heq
      rw [List.length_append, List.length_cons] at hlength
      omega

end ProcedureCall.Url
