import Mathlib.Data.List.Basic
import ProcedureCall.Proofs.Number.Numeral
import ProcedureCall.Proofs.Text.Case
import ProcedureCall.Proofs.Url.Escapes
import ProcedureCall.Url.Basic

/-!
# The parts of a URL that was written from them

A URL is written with an authority, a path and a query, the parts of which are escaped
(`written`). It is cut where they were joined (`parts_written`). The user, the password and the path
are found as they were escaped, and so is a host without capitals; the port and the pairs of the
query are found as they were before (`Parts.port_authorityOf`, `queryPairs_queryOf`).
-/

namespace ProcedureCall.Url

/-! ### Cutting -/

variable {c : Char} {before s : List Char}

theorem cutAt_append (h : c ∉ before) (rest : List Char) :
    cutAt c (before ++ c :: rest) = (before, rest) := by
  rw [cutAt, Text.cutFirst?_append h, Option.getD_some]

theorem cutAt_of_not_mem (h : c ∉ s) : cutAt c s = (s, []) := by
  rw [cutAt, Text.cutFirst?_eq_none_iff.mpr h, Option.getD_none]

theorem cutAuthority_append {authority : List Char}
    (h : ∀ c ∈ authority, c ≠ '/' ∧ c ≠ '?' ∧ c ≠ '#') (rest : List Char) :
    cutAuthority ('/' :: '/' :: (authority ++ '/' :: rest)) = (authority, '/' :: rest) := by
  have hinside : ∀ c ∈ authority, (c != '/' && c != '?' && c != '#') = true := by
    intro c hc
    obtain ⟨hslash, hquestion, hhash⟩ := h c hc
    simp [hslash, hquestion, hhash]
  rw [cutAuthority, List.takeWhile_append_of_pos hinside, List.dropWhile_append_of_pos hinside]
  simp

/-! ### Authority, path and query -/

/-- The characters that may stand between the escaped parts of an authority, and those of
escapes. -/
def authorityMarks : List Char := ['%', ':', '@']

/-- The characters that may stand between the escaped parts of a query, and those of escapes. -/
def queryMarks : List Char := ['%', '=', '&']

/-- The URL of a connection with an authority, a path and a query. -/
def written (authority path query : List Char) : List Char :=
  "postgresql://".toList ++ (authority ++ '/' :: (path ++ '?' :: query))

variable {authority path query : List Char}

theorem within_written (hauthority : Within authorityMarks authority) (hpath : Within ['%'] path)
    (hquery : Within queryMarks query) :
    Within ['%', ':', '@', '/', '?', '=', '&'] (written authority path query) := by
  refine Within.append (by simp [Within]; decide) ?_
  refine (hauthority.mono (by decide)).append (Within.cons (Or.inr (by decide)) ?_)
  exact (hpath.mono (by decide)).append (Within.cons (Or.inr (by decide)) (hquery.mono (by decide)))

theorem bracketsFault?_eq_none (h : Within authorityMarks authority) :
    bracketsFault? authority = none := by
  have hopened : authority.contains '[' = false := by
    simpa using h.not_mem (c := '[') (by decide) (by decide)
  have hclosed : authority.contains ']' = false := by
    simpa using h.not_mem (c := ']') (by decide) (by decide)
  unfold bracketsFault?
  simp only [hopened, hclosed]
  rfl

theorem lookalikeFault?_eq_none (h : Within authorityMarks authority) :
    lookalikeFault? authority = none := by
  have hrange : ∀ code < 127, Text.inRanges delimiterLookalikes code = false := by decide
  refine if_neg ?_
  rw [Bool.not_eq_true, List.any_eq_false]
  intro c hc
  have hbounds := h.toNat (by simp [authorityMarks]) c hc
  simp [hrange c.toNat hbounds.2]

/-- A URL is cut where its parts were joined. -/
theorem parts_written (hauthority : Within authorityMarks authority) (hpath : Within ['%'] path)
    (hquery : Within queryMarks query) :
    parts (written authority path query) =
      .ok ⟨"postgresql".toList, authority, '/' :: path, query⟩ := by
  have hvisible := (within_written hauthority hpath hquery).toNat (by simp)
  have hdrop : (written authority path query).dropWhile (fun c => c.toNat ≤ 32) =
      written authority path query := rfl
  have hfilter : (written authority path query).filter
      (fun c => c != '\t' && c != '\r' && c != '\n') = written authority path query := by
    refine List.filter_eq_self.mpr fun c hc => ?_
    have hc := (hvisible c hc).1
    simp only [Bool.and_eq_true, bne_iff_ne, ne_eq]
    refine ⟨⟨?_, ?_⟩, ?_⟩ <;> rintro rfl <;> exact absurd hc (by decide)
  have hscheme : cutScheme (written authority path query) =
      ("postgresql".toList, '/' :: '/' :: (authority ++ '/' :: (path ++ '?' :: query))) := rfl
  have hauthority' : ∀ c ∈ authority, c ≠ '/' ∧ c ≠ '?' ∧ c ≠ '#' := by
    intro c hc
    refine ⟨?_, ?_, ?_⟩ <;> rintro rfl <;> exact hauthority.not_mem (by decide) (by decide) hc
  have hhash : '#' ∉ '/' :: (path ++ '?' :: query) := by
    have hpath' := hpath.not_mem (c := '#') (by decide) (by decide)
    have hquery' := hquery.not_mem (c := '#') (by decide) (by decide)
    simp [hpath', hquery']
  have hquestion : '?' ∉ '/' :: path := by
    have hpath' := hpath.not_mem (c := '?') (by decide) (by decide)
    simp [hpath']
  unfold parts
  simp only [hdrop, hfilter, hscheme, cutAuthority_append hauthority', cutAt_of_not_mem hhash]
  rw [← List.cons_append, cutAt_append hquestion, bracketsFault?_eq_none hauthority,
    lookalikeFault?_eq_none hauthority]
  rfl

/-! ### User, password, host and port -/

/-- An authority with a user, a password, a host and a port. -/
def authorityOf (user password host : List Char) (port : Nat) : List Char :=
  (escaped user ++ ':' :: escaped password) ++ '@' :: (escaped host ++ ':' :: Numeral.text port)

/-- The decimal text of a natural number has nothing but digits. -/
theorem isDigit_of_mem_text {n : Nat} (h : c ∈ Numeral.text n) : c.isDigit = true := by
  rw [Numeral.text, if_neg (by omega), List.nil_append, Int.natAbs_natCast] at h
  exact Nat.isDigit_of_mem_toDigits (by decide) (Nat.le_refl 10) h

theorem within_text (n : Nat) : Within [] (Numeral.text n) := by
  intro c hc
  refine Or.inl ?_
  simp [isUnreserved, Numeral.isAsciiDigit_of_isDigit (isDigit_of_mem_text hc)]

variable (user password host : List Char) (port : Nat)

theorem within_authorityOf : Within authorityMarks (authorityOf user password host port) := by
  have hescaped : ∀ s : List Char, Within authorityMarks (escaped s) := fun s =>
    (within_escaped s).mono (by decide)
  have hmark : ∀ mark ∈ authorityMarks, ∀ {s t : List Char}, Within authorityMarks s →
      Within authorityMarks t → Within authorityMarks (s ++ mark :: t) :=
    fun mark hmark s t hs ht => hs.append (Within.cons (Or.inr hmark) ht)
  have huser := hmark ':' (by decide) (hescaped user) (hescaped password)
  have hhost := hmark ':' (by decide) (hescaped host) ((within_text port).mono (by decide))
  exact hmark '@' (by decide) huser hhost

theorem cutUser_authorityOf :
    cutUser (authorityOf user password host port) =
      (some (escaped user ++ ':' :: escaped password),
        escaped host ++ ':' :: Numeral.text port) := by
  have hhost := (within_escaped host).not_mem (c := '@') (by decide) (by decide)
  have hport := (within_text port).not_mem (c := '@') (by decide) (by decide)
  have hnot : '@' ∉ escaped host ++ ':' :: Numeral.text port := by simp [hhost, hport]
  rw [cutUser, authorityOf, Text.cutLast?_append _ hnot]

theorem cutHost_authorityOf :
    cutHost (authorityOf user password host port) = (escaped host, Numeral.text port) := by
  have hhost := (within_escaped host).not_mem (c := '[') (by decide) (by decide)
  have hport := (within_text port).not_mem (c := '[') (by decide) (by decide)
  have hnot : '[' ∉ escaped host ++ ':' :: Numeral.text port := by simp [hhost, hport]
  have hcolon := (within_escaped host).not_mem (c := ':') (by decide) (by decide)
  unfold cutHost
  simp only [cutUser_authorityOf, Text.cutFirst?_eq_none_iff.mpr hnot, cutAt_append hcolon]

/-- In front of its first escape, an escaped text is the text. -/
theorem subset_of_prefix_escaped {s t : List Char} (ht : t <+: escaped s) (hpercent : '%' ∉ t) :
    t ⊆ s := by
  induction s generalizing t with
  | nil => exact (List.prefix_nil.mp ht) ▸ List.Subset.refl []
  | cons c s ih =>
    cases t with
    | nil => exact List.nil_subset _
    | cons d t =>
      rw [escaped, List.flatMap_cons, ← escaped] at ht
      obtain ⟨hne, hrest⟩ := List.ne_and_not_mem_of_not_mem_cons hpercent
      cases hkept : isUnreserved c with
      | true =>
        rw [escapedChar, if_pos hkept, List.singleton_append, List.cons_prefix_cons] at ht
        obtain ⟨rfl, ht⟩ := ht
        exact List.cons_subset_cons d (ih ht hrest)
      | false =>
        obtain ⟨octet, rest, hescape⟩ := exists_escapedChar_eq hkept
        rw [hescape, escape, List.cons_append, List.cons_append, List.cons_prefix_cons] at ht
        exact absurd ht.1.symm hne

variable {host}

/-- A beginning of an escaped text without capitals, before its first escape, is its own small
form. -/
theorem lower_of_prefix_escaped {t : List Char} (hhost : ∀ c ∈ host, c.isUpper = false)
    (ht : t <+: escaped host) (hpercent : '%' ∉ t) : Text.lower t = t := by
  refine Text.lower_eq_self fun c hc => ⟨?_, hhost c (subset_of_prefix_escaped ht hpercent hc)⟩
  have hbounds := (within_escaped host).toNat (by simp) c (ht.subset hc)
  omega

variable {scheme path query : List Char}

theorem Parts.host_authorityOf (hhost : ∀ c ∈ host, c.isUpper = false) :
    Parts.host ⟨scheme, authorityOf user password host port, path, query⟩ = escaped host := by
  unfold Parts.host
  simp only [cutHost_authorityOf]
  split
  case h_1 front zone hcut =>
    obtain ⟨hpercent, hfront⟩ := Text.cutFirst?_eq_some hcut
    rw [lower_of_prefix_escaped hhost ⟨'%' :: zone, hfront.symm⟩ hpercent, ← hfront]
  case h_2 hcut =>
    have hpercent : '%' ∉ escaped host := Text.cutFirst?_eq_none_iff.mp hcut
    exact lower_of_prefix_escaped hhost (List.prefix_refl _) hpercent

variable (host)

theorem Parts.port_authorityOf (hport : port ≤ 65535) :
    Parts.port ⟨scheme, authorityOf user password host port, path, query⟩ = .ok port := by
  have hne : (Numeral.text port).isEmpty = false := by
    simp [Numeral.text, Nat.toDigits_ne_nil]
  have hdigits : (Numeral.text port).all Text.isAsciiDigit = true :=
    List.all_eq_true.mpr fun c hc => Numeral.isAsciiDigit_of_isDigit (isDigit_of_mem_text hc)
  have hlength : (Nat.toDigits 10 (port : Int).natAbs).length ≤ Numeral.mostDigits := by
    have hfive : (Nat.toDigits 10 port).length ≤ 5 :=
      (Nat.length_toDigits_le_iff (by decide) (by decide)).mpr (by omega)
    exact Nat.le_trans hfive (by decide)
  have hrange : (port : Int) ≤ 65535 := by omega
  unfold Parts.port
  simp only [cutHost_authorityOf, hne, hdigits, Numeral.integer_text hlength]
  exact if_pos hrange

theorem Parts.user_authorityOf :
    Parts.user ⟨scheme, authorityOf user password host port, path, query⟩ =
      (escaped user, escaped password) := by
  have hcolon := (within_escaped user).not_mem (c := ':') (by decide) (by decide)
  rw [Parts.user, cutUser_authorityOf, Option.getD_some, cutAt_append hcolon]

/-! ### The query -/

/-- A name and a value as they stand in a query. -/
def pieceOf (pair : String × List Char) : List Char :=
  escaped pair.1.toList ++ '=' :: escaped pair.2

/-- A query with names and values. -/
def queryOf (pairs : List (String × List Char)) : List Char := ['&'].intercalate (pairs.map pieceOf)

theorem within_pieceOf (pair : String × List Char) : Within ['%', '='] (pieceOf pair) := by
  have hescaped : ∀ s : List Char, Within ['%', '='] (escaped s) := fun s =>
    (within_escaped s).mono (by decide)
  exact (hescaped _).append (Within.cons (Or.inr (by decide)) (hescaped _))

theorem within_queryOf (pairs : List (String × List Char)) :
    Within queryMarks (queryOf pairs) := by
  have hpiece : ∀ pair, Within queryMarks (pieceOf pair) := fun pair =>
    (within_pieceOf pair).mono (by decide)
  induction pairs with
  | nil => simp [Within, queryOf]
  | cons pair pairs ih =>
    cases pairs with
    | nil => simpa [queryOf] using hpiece pair
    | cons next pairs =>
      rw [queryOf, List.map_cons, List.map_cons, List.intercalate_cons_cons, ← List.map_cons,
        ← queryOf, List.append_assoc, List.singleton_append]
      exact (hpiece pair).append (Within.cons (Or.inr (by decide)) ih)

/-- The names and values of a query are read as they were before they were escaped. -/
theorem queryPairs_queryOf {pairs : List (String × List Char)}
    (h : ∀ pair ∈ pairs, pair.2 ≠ []) : queryPairs (queryOf pairs) = pairs := by
  have hcut : ∀ pair : String × List Char,
      Text.cutFirst? '=' (pieceOf pair) = some (escaped pair.1.toList, escaped pair.2) :=
    fun pair => Text.cutFirst?_append ((within_escaped _).not_mem (by decide) (by decide)) _
  have hvalue : ∀ pair ∈ pairs, (escaped pair.2).isEmpty = false := by
    intro pair hpair
    simpa using escaped_ne_nil (h pair hpair)
  cases pairs with
  | nil => rfl
  | cons pair pairs =>
    have hpieces : ∀ piece ∈ pieceOf pair :: pairs.map pieceOf,
        ∀ d ∈ piece, (d == '&') = false := by
      intro piece hpiece
      obtain ⟨source, -, rfl⟩ := List.mem_map.mp (List.map_cons ▸ hpiece)
      exact (within_pieceOf source).beq_eq_false (by decide) (by decide)
    rw [queryPairs, queryOf, List.map_cons, Text.cutBy_intercalate (by decide) hpieces,
      ← List.map_cons, List.filterMap_map]
    refine (List.filterMap_congr fun pair hpair => ?_).trans List.filterMap_some
    simp only [Function.comp, hcut, hvalue pair hpair, plain_escaped, String.ofList_toList]
    rfl

end ProcedureCall.Url
