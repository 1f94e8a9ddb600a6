import ProcedureCall.Proofs.Fallible
import ProcedureCall.Settings.Profile

/-!
# What can be wrong with a connection URL

A connection URL supplies its fields, or its scheme is none of a connection, or it is not of the
right form (`Settings.urlFields_cases`). It is not of the right form (`Settings.IsMalformed`) if its
parts cannot be told from each other, or if its port or its time limit is no number. The fields of
one that is of the right form are texts, a port from 1 to 65535 and a time limit
(`Settings.isField_of_mem`).
-/

namespace ProcedureCall

theorem Entries.mem_of_get? {α β : Type} [DecidableEq α] {key : α} {value : β}
    {entries : List (α × β)} (h : get? key entries = some value) : (key, value) ∈ entries := by
  induction entries with
  | nil => cases h
  | cons entry entries ih =>
    obtain ⟨k, v⟩ := entry
    rw [get?] at h
    split at h
    case isTrue hk =>
      subst hk
      obtain rfl := Option.some.inj h
      exact List.mem_cons_self
    case isFalse => exact List.mem_cons_of_mem _ (ih h)

namespace Settings

variable {α : Type}

theorem malformed_eq_error {known : Except String α} {fault : Fault} :
    malformed known = .error fault ↔
      ∃ message, known = .error message ∧ fault = .mishap .badValue message := by
  cases known with
  | ok a => simp [malformed]
  | error message => simp [malformed, eq_comm]

/-- A connection URL is not of the right form. -/
inductive IsMalformed (url : String) : Prop where
  /-- Its parts cannot be told from each other. -/
  | parts {message : String} : Url.parts url.toList = .error message → IsMalformed url
  /-- Its port is no number, or too large a one. -/
  | port {parts : Url.Parts} {message : String} : Url.parts url.toList = .ok parts →
      String.ofList parts.scheme ∈ ["postgresql", "postgres"] → parts.port = .error message →
      IsMalformed url
  /-- The time limit is no number. -/
  | timeout {parts : Url.Parts} {value : List Char} {message : String} :
      Url.parts url.toList = .ok parts →
      String.ofList parts.scheme ∈ ["postgresql", "postgres"] →
      ("connect_timeout", value) ∈ firstOfEach (Url.queryPairs parts.query) →
      Numeral.integer value = .error message → IsMalformed url

/-- The fields of a query fail if a time limit is no number, and in no other way. -/
theorem queryFields_eq_error {pairs : List (String × List Char)} {fault : Fault}
    (h : queryFields pairs = .error fault) :
    ∃ value message, ("connect_timeout", value) ∈ pairs ∧
      Numeral.integer value = .error message ∧ fault = .mishap .badValue message := by
  induction pairs with
  | nil => cases h
  | cons pair pairs ih =>
    obtain ⟨name, value⟩ := pair
    unfold queryFields at h
    cases hfirst : queryField (name, value) with
    | ok first =>
      rw [hfirst] at h
      cases hrest : queryFields pairs with
      | ok rest =>
        rw [hrest] at h
        cases h
      | error other =>
        rw [hrest] at h
        obtain rfl := Except.error.inj h
        obtain ⟨value, message, hmem, hvalue, rfl⟩ := ih hrest
        exact ⟨value, message, List.mem_cons_of_mem _ hmem, hvalue, rfl⟩
    | error other =>
      rw [hfirst] at h
      obtain rfl := Except.error.inj h
      simp only [queryField] at hfirst
      split at hfirst
      case isTrue hname =>
        subst hname
        cases hread : readInteger value with
        | ok n =>
          rw [hread] at hfirst
          cases hfirst
        | error cause =>
          rw [hread] at hfirst
          obtain rfl := Except.error.inj hfirst
          obtain ⟨message, hvalue, rfl⟩ := malformed_eq_error.mp hread
          exact ⟨value, message, List.mem_cons_self, hvalue, rfl⟩
      case isFalse => split at hfirst <;> cases hfirst

theorem queryFields_fails {pairs : List (String × List Char)} {value : List Char}
    {message : String} (hmem : ("connect_timeout", value) ∈ pairs)
    (hvalue : Numeral.integer value = .error message) :
    ∃ fault, queryFields pairs = .error fault := by
  induction pairs with
  | nil => cases hmem
  | cons pair pairs ih =>
    unfold queryFields
    cases hfirst : queryField pair with
    | error fault => exact ⟨fault, rfl⟩
    | ok first =>
      rcases List.mem_cons.mp hmem with rfl | hrest
      · have hfails : queryField ("connect_timeout", value) =
            .error (.mishap .badValue message) := by
          rw [queryField, if_pos rfl, readInteger, hvalue]
          rfl
        rw [hfails] at hfirst
        cases hfirst
      · obtain ⟨fault, hfault⟩ := ih hrest
        exact ⟨fault, by rw [hfault]; rfl⟩

/-- A URL whose parts can be told supplies its fields, is of another scheme, or fails at its port or
its query. -/
theorem urlFields_of_known {url : String} {parts : Url.Parts}
    (hparts : Url.parts url.toList = .ok parts)
    (hscheme : String.ofList parts.scheme ∈ ["postgresql", "postgres"]) :
    urlFields url = (do
      let port ← malformed parts.port
      let fromQuery ← queryFields (firstOfEach (Url.queryPairs parts.query))
      pure <|
        textField "host" parts.host ++
        (if port = 0 then [] else [("port", .int port)]) ++
        textField "dbname" (Text.trimBy (· == '/') parts.path) ++
        textField "user" parts.user.1 ++ textField "password" parts.user.2 ++ fromQuery) := by
  have hknown : ¬ (String.ofList parts.scheme ≠ "postgresql" ∧
      String.ofList parts.scheme ≠ "postgres") := by
    rintro ⟨hfull, hshort⟩
    simp [hfull, hshort] at hscheme
  unfold urlFields
  rw [hparts]
  change (if _ then _ else _) = _
  rw [if_neg hknown]

theorem urlFields_of_unknown {url : String} {parts : Url.Parts}
    (hparts : Url.parts url.toList = .ok parts)
    (hscheme : String.ofList parts.scheme ∉ ["postgresql", "postgres"]) :
    urlFields url = .error (wrongScheme (String.ofList parts.scheme)) := by
  unfold urlFields
  rw [hparts]
  change (if _ then _ else _) = _
  rw [if_pos (by simpa using hscheme)]

/-- A connection URL is not of the right form, or of another scheme, or it supplies its fields. -/
theorem urlFields_cases (url : String) :
    (IsMalformed url ∧ ∃ message, urlFields url = .error (.mishap .badValue message)) ∨
      (¬ IsMalformed url ∧ ∃ scheme, urlFields url = .error (wrongScheme scheme)) ∨
      (¬ IsMalformed url ∧ ∃ fields, urlFields url = .ok fields) := by
  cases hparts : Url.parts url.toList with
  | error message =>
    refine Or.inl ⟨.parts hparts, message, ?_⟩
    unfold urlFields
    rw [hparts]
    rfl
  | ok parts =>
    by_cases hscheme : String.ofList parts.scheme ∈ ["postgresql", "postgres"]
    case neg =>
      refine Or.inr (Or.inl ⟨?_, _, urlFields_of_unknown hparts hscheme⟩)
      intro hmalformed
      cases hmalformed with
      | parts hfails => cases hparts.symm.trans hfails
      | port htold hknown | timeout htold hknown =>
        obtain rfl := Except.ok.inj (hparts.symm.trans htold)
        exact hscheme hknown
    rw [urlFields_of_known hparts hscheme]
    cases hport : parts.port with
    | error message => exact Or.inl ⟨.port hparts hscheme hport, message, rfl⟩
    | ok port =>
      cases hquery : queryFields (firstOfEach (Url.queryPairs parts.query)) with
      | error fault =>
        obtain ⟨value, message, hmem, hvalue, rfl⟩ := queryFields_eq_error hquery
        exact Or.inl ⟨.timeout hparts hscheme hmem hvalue, message, rfl⟩
      | ok fromQuery =>
        refine Or.inr (Or.inr ⟨?_, _, rfl⟩)
        intro hmalformed
        cases hmalformed with
        | parts hfails => cases hparts.symm.trans hfails
        | port htold _ hfails =>
          obtain rfl := Except.ok.inj (hparts.symm.trans htold)
          cases hport.symm.trans hfails
        | timeout htold _ hmem hvalue =>
          obtain rfl := Except.ok.inj (hparts.symm.trans htold)
          obtain ⟨fault, hfails⟩ := queryFields_fails hmem hvalue
          cases hquery.symm.trans hfails

/-! ### The fields of a connection URL -/

/-- What a connection URL may supply under a name. -/
inductive IsField : String → Value → Prop where
  /-- A text. -/
  | text {name s : String} :
      name ∈ ["host", "dbname", "user", "password", "sslmode", "application_name"] →
      IsField name (.text s)
  /-- A port. -/
  | port {port : Nat} : 1 ≤ port → port ≤ 65535 → IsField "port" (.int port)
  /-- A time limit. -/
  | timeout {seconds : Int} : IsField "connect_timeout" (.int seconds)

theorem IsField.exists_port {v : Value} (h : IsField "port" v) :
    ∃ port : Nat, v = .int port ∧ 1 ≤ port ∧ port ≤ 65535 := by
  generalize hname : "port" = name at h
  cases h with
  | text hmem =>
    subst hname
    simp at hmem
  | port hlow hhigh => exact ⟨_, rfl, hlow, hhigh⟩
  | timeout => exact absurd hname (by decide)

theorem port_le {parts : Url.Parts} {port : Nat} (h : parts.port = .ok port) : port ≤ 65535 := by
  unfold Url.Parts.port at h
  dsimp only at h
  split at h
  case isTrue =>
    obtain rfl := Except.ok.inj h
    exact Nat.zero_le _
  case isFalse =>
    split at h
    case isFalse => cases h
    case isTrue =>
      cases hread : Numeral.integer (Url.cutHost parts.authority).2 with
      | error message =>
        rw [hread] at h
        cases h
      | ok n =>
        rw [hread] at h
        change (if n ≤ 65535 then _ else _) = _ at h
        split at h
        case isTrue hle =>
          obtain rfl := Except.ok.inj h
          omega
        case isFalse => cases h

theorem isField_of_textField {key name : String} {s : List Char} {v : Value}
    (hkey : key ∈ ["host", "dbname", "user", "password", "sslmode", "application_name"])
    (h : (name, v) ∈ textField key s) : IsField name v := by
  unfold textField at h
  split at h
  · cases h
  · obtain ⟨rfl, rfl⟩ := Prod.mk.inj (List.mem_singleton.mp h)
    exact .text hkey

theorem isField_of_queryField {pair : String × List Char} {fields : List (String × Value)}
    (h : queryField pair = .ok fields) {name : String} {v : Value} (hmem : (name, v) ∈ fields) :
    IsField name v := by
  obtain ⟨key, value⟩ := pair
  simp only [queryField] at h
  split at h
  case isTrue htimeout =>
    subst htimeout
    cases hread : readInteger value with
    | error fault =>
      rw [hread] at h
      cases h
    | ok seconds =>
      rw [hread] at h
      obtain rfl := Except.ok.inj h
      obtain ⟨rfl, rfl⟩ := Prod.mk.inj (List.mem_singleton.mp hmem)
      exact .timeout
  case isFalse =>
    split at h
    case isTrue hkey =>
      obtain rfl := Except.ok.inj h
      obtain ⟨rfl, rfl⟩ := Prod.mk.inj (List.mem_singleton.mp hmem)
      exact .text (by rcases hkey with rfl | rfl <;> simp)
    case isFalse =>
      obtain rfl := Except.ok.inj h
      cases hmem

theorem isField_of_queryFields {pairs : List (String × List Char)} {fields : List (String × Value)}
    (h : queryFields pairs = .ok fields) {name : String} {v : Value} (hmem : (name, v) ∈ fields) :
    IsField name v := by
  induction pairs generalizing fields with
  | nil =>
    obtain rfl := Except.ok.inj h
    cases hmem
  | cons pair pairs ih =>
    obtain ⟨first, hfirst, hothers⟩ := Fallible.exists_of_bind_eq_ok h
    obtain ⟨rest, hrest, hdone⟩ := Fallible.exists_of_bind_eq_ok hothers
    obtain rfl := Except.ok.inj hdone
    rcases List.mem_append.mp hmem with hmem | hmem
    · exact isField_of_queryField hfirst hmem
    · exact ih hrest hmem

/-- What a connection URL supplies are texts, a port and a time limit. -/
theorem isField_of_mem {url : String} {fields : List (String × Value)}
    (h : urlFields url = .ok fields) {name : String} {v : Value} (hmem : (name, v) ∈ fields) :
    IsField name v := by
  cases hparts : Url.parts url.toList with
  | error message =>
    unfold urlFields at h
    rw [hparts] at h
    cases h
  | ok parts =>
    by_cases hscheme : String.ofList parts.scheme ∈ ["postgresql", "postgres"]
    case neg =>
      rw [urlFields_of_unknown hparts hscheme] at h
      cases h
    rw [urlFields_of_known hparts hscheme] at h
    cases hport : parts.port with
    | error message =>
      rw [hport] at h
      cases h
    | ok port =>
      cases hquery : queryFields (firstOfEach (Url.queryPairs parts.query)) with
      | error fault =>
        rw [hport, hquery] at h
        cases h
      | ok fromQuery =>
        rw [hport, hquery] at h
        obtain rfl := Except.ok.inj h
        simp only [List.mem_append] at hmem
        rcases hmem with ((((hhost | hport') | hdatabase) | huser) | hpassword) | hquery'
        · exact isField_of_textField (by simp) hhost
        · split at hport'
          case isTrue => cases hport'
          case isFalse hne =>
            obtain ⟨rfl, rfl⟩ := Prod.mk.inj (List.mem_singleton.mp hport')
            exact .port (Nat.one_le_iff_ne_zero.mpr hne) (port_le hport)
        · exact isField_of_textField (by simp) hdatabase
        · exact isField_of_textField (by simp) huser
        · exact isField_of_textField (by simp) hpassword
        · exact isField_of_queryFields hquery hquery'

end Settings

/-! ### The connection URL of a profile -/

namespace Profile

/-- A connection URL that a profile gives is at fault as one on the command line is, or it is no
text. -/
theorem urlFields_eq_error {url : Value} {fault : Fault} (h : urlFields url = .error fault) :
    (∃ message, fault = .mishap .badValue message) ∨
      (∃ scheme, fault = Settings.wrongScheme scheme) ∨
      fault = .mishap .missingMember "not a text" := by
  have hoctets : ∀ octets, Settings.octetUrlFault octets = fault →
      (∃ message, fault = .mishap .badValue message) ∨
        ∃ scheme, fault = Settings.wrongScheme scheme := by
    rintro octets rfl
    unfold Settings.octetUrlFault
    split
    · exact Or.inl ⟨_, rfl⟩
    · split
      · exact Or.inl ⟨_, rfl⟩
      · exact Or.inr ⟨_, rfl⟩
  unfold urlFields at h
  split at h
  case h_1 text =>
    rcases Settings.urlFields_cases text with
      ⟨-, message, hfails⟩ | ⟨-, scheme, hfails⟩ | ⟨-, fields, hgives⟩
    · exact Or.inl ⟨message, Except.error.inj (h.symm.trans hfails)⟩
    · exact Or.inr (Or.inl ⟨scheme, Except.error.inj (h.symm.trans hfails)⟩)
    · cases h.symm.trans hgives
  case h_2 octets => exact (hoctets octets (Except.error.inj h)).imp_right Or.inl
  case h_3 octets => exact (hoctets octets (Except.error.inj h)).imp_right Or.inl
  case h_4 => exact Or.inr (Or.inr (Except.error.inj h).symm)

end Profile

end ProcedureCall
