import ProcedureCall.Proofs.Url.Parts
import ProcedureCall.Settings.ConnectionUrl
import ProcedureCall.Settings.Profile

/-!
# What is read out of a connection URL

A connection URL is written from the parts of a connection, each of them escaped. Read again, it
gives the port, the security mode and the application name as they were. The user, the password, the
host and the database come out as they stand in the URL, with their escapes, so they are what they
were only if all of their characters are unreserved.

## What is proved

* `ConnectionParts.urlFields_url` — the fields that the URL of any parts supplies, and when they are
  the parts themselves.
-/

namespace ProcedureCall.Settings

/-- The parts of a connection that a URL is written from: texts that are not empty, a host without
capitals, a port and a known way of securing the connection. -/
structure ConnectionParts where
  /-- The user. -/
  user : String
  /-- The password. -/
  password : String
  /-- The host. -/
  host : String
  /-- The port. -/
  port : Nat
  /-- The database. -/
  database : String
  /-- The way in which the connection is secured. -/
  sslmode : String
  /-- The name under which the application is known to the server. -/
  application : String
  user_ne : user ≠ ""
  password_ne : password ≠ ""
  host_ne : host ≠ ""
  host_small : ∀ c ∈ host.toList, c.isUpper = false
  port_pos : 1 ≤ port
  port_le : port ≤ 65535
  database_ne : database ≠ ""
  sslmode_mem : sslmode ∈ Profile.sslmodes
  application_ne : application ≠ ""

/-- What a URL of the right scheme supplies, part by part. -/
theorem urlFields_of_parts {url : String} {parts : Url.Parts} {port : Nat}
    {fromQuery : List (String × Value)} (hparts : Url.parts url.toList = .ok parts)
    (hscheme : String.ofList parts.scheme = "postgresql") (hport : parts.port = .ok port)
    (hquery : queryFields (firstOfEach (Url.queryPairs parts.query)) = .ok fromQuery) :
    urlFields url =
      .ok (textField "host" parts.host ++ (if port = 0 then [] else [("port", .int port)]) ++
        textField "dbname" (Text.trimBy (· == '/') parts.path) ++
        textField "user" parts.user.1 ++ textField "password" parts.user.2 ++ fromQuery) := by
  have hknown : ¬ (String.ofList parts.scheme ≠ "postgresql" ∧
      String.ofList parts.scheme ≠ "postgres") := fun h => h.1 hscheme
  unfold urlFields
  rw [hparts]
  change (if _ then _ else _) = _
  rw [if_neg hknown, hport, hquery]
  rfl

/-- A text as it is written in a URL. -/
def escapedText (s : String) : String := String.ofList (Url.escaped s.toList)

theorem escapedText_eq_self_iff {s : String} :
    escapedText s = s ↔ ∀ c ∈ s.toList, Url.isUnreserved c = true := by
  rw [← Url.escaped_eq_self_iff, escapedText, ← String.toList_inj, String.toList_ofList]

theorem textField_escaped {name s : String} (h : s ≠ "") :
    textField name (Url.escaped s.toList) = [(name, .text (escapedText s))] := by
  have hne : (Url.escaped s.toList).isEmpty = false := by
    simpa using Url.escaped_ne_nil (s := s.toList) (by simpa using h)
  rw [textField, if_neg (by simp [hne]), escapedText]

/-- The slash in front of the database is no part of it. -/
theorem trimBy_path (s : List Char) :
    Text.trimBy (· == '/') ('/' :: Url.escaped s) = Url.escaped s := by
  have hslash : ∀ c ∈ Url.escaped s, (c == '/') = false :=
    (Url.within_escaped s).beq_eq_false (by decide) (by decide)
  have htrim : Text.trimBy (· == '/') (['/'] ++ (Url.escaped s ++ [])) = Url.escaped s :=
    Text.trimBy_eq (by simp) (by simp) (fun c hc => hslash c (List.mem_of_mem_head? hc))
      (fun c hc => hslash c (List.mem_of_getLast? hc))
  simpa using htrim

namespace ConnectionParts

variable (p : ConnectionParts)

/-- The names and values of the query. -/
def pairs : List (String × List Char) :=
  [("sslmode", p.sslmode.toList), ("application_name", p.application.toList)]

/-- The user, the password, the host and the port as they stand in the URL. -/
def authority : List Char :=
  Url.authorityOf p.user.toList p.password.toList p.host.toList p.port

/-- The URL that is written from the parts. -/
def url : String :=
  String.ofList (Url.written p.authority (Url.escaped p.database.toList) (Url.queryOf p.pairs))

/-- The fields of the parts, with those that stand outside the query as `shown` has them. -/
def fieldsAs (shown : String → String) : List (String × Value) :=
  [ ("host", .text (shown p.host)), ("port", .int p.port),
    ("dbname", .text (shown p.database)), ("user", .text (shown p.user)),
    ("password", .text (shown p.password)), ("sslmode", .text p.sslmode),
    ("application_name", .text p.application) ]

/-- The fields of the parts. -/
def fields : List (String × Value) := p.fieldsAs id

theorem queryFields_pairs :
    queryFields (firstOfEach p.pairs) =
      .ok [("sslmode", .text p.sslmode), ("application_name", .text p.application)] := by
  have hfirst : firstOfEach p.pairs = p.pairs := rfl
  have hmode : queryField ("sslmode", p.sslmode.toList) = .ok [("sslmode", .text p.sslmode)] := by
    simp [queryField]
  have hname : queryField ("application_name", p.application.toList) =
      .ok [("application_name", .text p.application)] := by
    simp [queryField]
  rw [hfirst, pairs, queryFields, queryFields, queryFields, hmode, hname]
  rfl

theorem parts_url :
    Url.parts p.url.toList =
      .ok ⟨"postgresql".toList, p.authority, '/' :: Url.escaped p.database.toList,
        Url.queryOf p.pairs⟩ := by
  rw [url, String.toList_ofList]
  exact Url.parts_written (Url.within_authorityOf _ _ _ _) (Url.within_escaped _)
    (Url.within_queryOf _)

theorem queryPairs_url : Url.queryPairs (Url.queryOf p.pairs) = p.pairs := by
  have hmode : p.sslmode ≠ "" := by
    intro heq
    exact absurd (heq ▸ p.sslmode_mem) (by decide)
  exact Url.queryPairs_queryOf (by simpa [pairs] using ⟨hmode, p.application_ne⟩)

theorem urlFields_url_eq : urlFields p.url = .ok (p.fieldsAs escapedText) := by
  have hport : ¬ p.port = 0 := Nat.one_le_iff_ne_zero.mp p.port_pos
  have hquery := p.queryFields_pairs
  rw [← p.queryPairs_url] at hquery
  rw [urlFields_of_parts p.parts_url String.ofList_toList
      (Url.Parts.port_authorityOf _ _ _ _ p.port_le) hquery,
    if_neg hport, authority, Url.Parts.host_authorityOf _ _ _ p.host_small,
    Url.Parts.user_authorityOf, trimBy_path, textField_escaped p.host_ne,
    textField_escaped p.database_ne, textField_escaped p.user_ne, textField_escaped p.password_ne]
  rfl

/-- The URL that is written from the parts of a connection, each of them escaped, supplies them as
they were, but for those outside the query: these stay escaped. So it supplies the parts themselves
exactly if user, password, host and database have nothing to escape. -/
theorem urlFields_url :
    urlFields p.url = .ok (p.fieldsAs escapedText) ∧
      (urlFields p.url = .ok p.fields ↔
        ∀ s ∈ [p.user, p.password, p.host, p.database], ∀ c ∈ s.toList,
          Url.isUnreserved c = true) := by
  refine ⟨p.urlFields_url_eq, ?_⟩
  simp only [p.urlFields_url_eq, ← escapedText_eq_self_iff, fields, fieldsAs, Except.ok.injEq,
    List.cons.injEq, Prod.mk.injEq, Value.text.injEq, id, true_and, and_true, List.forall_mem_cons,
    List.not_mem_nil, false_imp_iff, implies_true]
  tauto

/-- The password `p@ss` comes out of its URL with the escape of the sign. -/
theorem escaped_password_not_read :
    ∃ p : ConnectionParts,
      p.url = "postgresql://app:p%40ss@db:5432/sales?sslmode=require&application_name=jobs" ∧
        ("password", Value.text "p@ss") ∈ p.fields ∧ urlFields p.url ≠ .ok p.fields := by
  refine ⟨⟨"app", "p@ss", "db", 5432, "sales", "require", "jobs", by decide, by decide, by decide,
    by simp, by decide, by decide, by decide, by decide, by decide⟩, ?_, ?_, ?_⟩
  · decide +kernel
  · simp [fields, fieldsAs]
  · rw [urlFields_url_eq]
    have hpassword : escapedText "p@ss" ≠ "p@ss" := by decide +kernel
    simp [fields, fieldsAs, hpassword]

end ConnectionParts

end ProcedureCall.Settings
