import ProcedureCall.Settings.Profile

/-!
# Settings and profiles as they are read

A record is read field by field, and a reading that succeeds has read each of its fields. For a
setting this means that the value supplied for it was brought to the type of its field, which is
what `SettingKey.coerce` does. A value of that type is left as it is (`coerce_value`), so it does
not matter how often a setting is read. A profile reads what it gives itself before what its
connection URL gives (`Profile.read_supplies`).
-/

namespace ProcedureCall

open Reader

namespace Reading

variable {α β : Type}

theorem seq_eq_ok {f : Reading (α → β)} {a : Reading α} {b : β} :
    (f <*> a).result = .ok b ↔ ∃ g x, f.result = .ok g ∧ a.result = .ok x ∧ g x = b := by
  change (apply f a).result = _ ↔ _
  unfold apply
  rcases f.result with fault | g <;> rcases a.result with fault' | x
  case ok.ok => simp
  all_goals
    constructor
    · intro h
      split at h <;> simp_all
    · rintro ⟨_, _, hf, ha, -⟩
      cases hf <;> cases ha

theorem map_eq_ok {f : α → β} {a : Reading α} {b : β} :
    (f <$> a).result = .ok b ↔ ∃ x, a.result = .ok x ∧ f x = b := by
  change ((pure f : Reading (α → β)) <*> a).result = _ ↔ _
  rw [seq_eq_ok]
  constructor
  · rintro ⟨g, x, hg, hx, rfl⟩
    cases hg
    exact ⟨x, hx, rfl⟩
  · rintro ⟨x, hx, rfl⟩
    exact ⟨f, x, rfl, hx, rfl⟩

theorem pure_eq_ok {a b : α} : (pure a : Reading α).result = .ok b ↔ a = b := by
  change Except.ok a = Except.ok b ↔ _
  rw [Except.ok.injEq]

theorem inside_eq_ok {step : Step} {r : Reading α} {a : α} :
    (r.inside step).result = .ok a ↔ r.result = .ok a := by
  unfold inside
  split <;> simp_all

theorem checked_eq_ok {fault? : α → Option String} {r : Reading α} {a : α}
    (h : (r.checked fault?).result = .ok a) : r.result = .ok a := by
  unfold checked at h
  split at h
  case h_1 b hb =>
    split at h
    · cases h
    · exact h
  case h_2 fault hfault => exact h

/-- The reading gives something. -/
def Succeeds (r : Reading α) : Prop := ∃ a, r.result = .ok a

theorem succeeds_seq {f : Reading (α → β)} {a : Reading α} :
    (f <*> a).Succeeds ↔ f.Succeeds ∧ a.Succeeds := by
  simp only [Succeeds, seq_eq_ok]
  constructor
  · rintro ⟨_, g, x, hg, hx, -⟩
    exact ⟨⟨g, hg⟩, x, hx⟩
  · rintro ⟨⟨g, hg⟩, x, hx⟩
    exact ⟨g x, g, x, hg, hx, rfl⟩

theorem succeeds_map {f : α → β} {a : Reading α} : (f <$> a).Succeeds ↔ a.Succeeds := by
  simp only [Succeeds, map_eq_ok]
  constructor
  · rintro ⟨_, x, hx, -⟩
    exact ⟨x, hx⟩
  · rintro ⟨x, hx⟩
    exact ⟨f x, x, hx, rfl⟩

/-- Readings that all give something give it in order. -/
theorem all_map_eq_ok {f : α → Reading β} {g : α → β} (h : ∀ a, (f a).result = .ok (g a))
    (as : List α) : (all (as.map f)).result = .ok (as.map g) := by
  induction as with
  | nil => rfl
  | cons a as ih =>
    rw [List.map_cons, all, seq_eq_ok]
    exact ⟨List.cons (g a), as.map g, map_eq_ok.mpr ⟨g a, h a, rfl⟩, ih, rfl⟩

end Reading

open Reading

namespace Reader

variable {α : Type}

theorem find_eq_get? (name : String) (given : Given) :
    find name given = Entries.get? name given := by
  unfold find
  induction given with
  | nil => rfl
  | cons entry rest ih =>
    obtain ⟨k, v⟩ := entry
    by_cases hk : k = name <;> simp [Entries.get?, hk, ih]

theorem withDefault_eq_ok {given : Given} {name : String} {fallback a : α} {r : Reader α}
    {v : Value} (hv : find name given = some v) :
    (withDefault given name fallback r).result = .ok a ↔ (r v).result = .ok a := by
  unfold withDefault
  rw [hv]
  exact inside_eq_ok

theorem text_text (s : String) : (Reader.text (.text s)).result = .ok s := by
  simp [Reader.text, textOf?, pure_eq_ok]

theorem truth_bool (b : Bool) : (truth (.bool b)).result = .ok b := rfl

theorem optional_ofOption {α : Type} {r : Reader α} {show_ : α → Value} {a : Option α}
    (hshow : ∀ x, (show_ x).isNull = false) (hr : ∀ x, (r (show_ x)).result = .ok x) :
    (Reader.optional r (.ofOption show_ a)).result = .ok a := by
  cases a with
  | none => rfl
  | some x =>
    unfold Reader.optional Value.ofOption
    rw [Option.elim_some, if_neg (by simp [hshow]), map_eq_ok]
    exact ⟨x, hr x, rfl⟩

/-- A table of texts is read as it is. -/
theorem tableOf_ofFields (entries : List (String × String)) :
    (tableOf Reader.text (.ofFields (entries.map fun (name, s) => (name, .text s)))).result =
      .ok entries := by
  simp only [tableOf, Value.ofFields, List.map_map]
  refine (all_map_eq_ok (fun entry => ?_) entries).trans (congrArg Except.ok (List.map_id entries))
  rw [Function.comp_apply, Function.comp_apply, seq_eq_ok]
  exact ⟨Prod.mk entry.1, entry.2,
    map_eq_ok.mpr ⟨entry.1, inside_eq_ok.mpr (inside_eq_ok.mpr (text_text _)), rfl⟩,
    inside_eq_ok.mpr (text_text _), rfl⟩

end Reader

/-! ### Values of the type of a field -/

namespace SettingKey

/-- A value brought to the type of the field of a setting. -/
def coerce (key : SettingKey) (v : Value) : Except Fault Value :=
  match key with
  | host | database | sslmode | applicationName | format => (Reader.text v).result.map .text
  | port | connectTimeout => (integer v).result.map .int
  | user | password | schema => (Reader.optional Reader.text v).result.map (.ofOption .text)
  | timeout => (number v).result.map .float
  | multipleResults => (Reader.optional truth v).result.map (.ofOption .bool)

theorem mem_all (key : SettingKey) : key ∈ all := by cases key <;> decide

theorem ofText?_eq_some {s : String} {key : SettingKey} : ofText? s = some key ↔ s = key.text := by
  constructor
  · intro h
    unfold ofText? at h
    have hfound := List.find?_some h
    exact (eq_of_beq hfound).symm
  · rintro rfl
    cases key <;> decide

theorem text_injective : Function.Injective text := by
  intro a b h
  exact Option.some.inj ((ofText?_eq_some.mpr h).symm.trans (ofText?_eq_some.mpr rfl)).symm

theorem text_ne_active_profile (key : SettingKey) : key.text ≠ "active_profile" := by
  cases key <;> decide

theorem text_ne_sources (key : SettingKey) : key.text ≠ "sources" := by cases key <;> decide

end SettingKey

namespace Settings

/-- The value of a setting has the type of its field. -/
theorem coerce_value (s : Settings) (key : SettingKey) :
    key.coerce (s.value key) = .ok (s.value key) := by
  cases key with
  | host | database | sslmode | applicationName | format =>
    simp only [SettingKey.coerce, value, text_text, Except.map]
  | port | connectTimeout => rfl
  | timeout => rfl
  | user | password | schema =>
    simp only [SettingKey.coerce, value, optional_ofOption (fun _ => rfl) text_text, Except.map]
  | multipleResults =>
    simp only [SettingKey.coerce, value, Except.map,
      optional_ofOption (fun _ => rfl) truth_bool]

/-- A setting that is given is read as a value of the type of its field, and so are the names of
the sources. -/
theorem read_eq_ok {given : Given} {s : Settings} (h : (read given).result = .ok s) :
    (∀ (key : SettingKey) (v : Value), find key.text given = some v →
        key.coerce v = .ok (s.value key)) ∧
      ∀ v, find "sources" given = some v → (tableOf Reader.text v).result = .ok s.sources := by
  obtain ⟨f₁, sources, h₁, hsources, rfl⟩ := seq_eq_ok.mp h
  obtain ⟨f₂, profile, h₂, -, rfl⟩ := seq_eq_ok.mp h₁
  obtain ⟨f₃, multipleResults, h₃, hmultipleResults, rfl⟩ := seq_eq_ok.mp h₂
  obtain ⟨f₄, schema, h₄, hschema, rfl⟩ := seq_eq_ok.mp h₃
  obtain ⟨f₅, format, h₅, hformat, rfl⟩ := seq_eq_ok.mp h₄
  obtain ⟨f₆, timeout, h₆, htimeout, rfl⟩ := seq_eq_ok.mp h₅
  obtain ⟨f₇, applicationName, h₇, happlicationName, rfl⟩ := seq_eq_ok.mp h₆
  obtain ⟨f₈, connectTimeout, h₈, hconnectTimeout, rfl⟩ := seq_eq_ok.mp h₇
  obtain ⟨f₉, sslmode, h₉, hsslmode, rfl⟩ := seq_eq_ok.mp h₈
  obtain ⟨f₁₀, password, h₁₀, hpassword, rfl⟩ := seq_eq_ok.mp h₉
  obtain ⟨f₁₁, user, h₁₁, huser, rfl⟩ := seq_eq_ok.mp h₁₀
  obtain ⟨f₁₂, database, h₁₂, hdatabase, rfl⟩ := seq_eq_ok.mp h₁₁
  obtain ⟨f₁₃, port, h₁₃, hport, rfl⟩ := seq_eq_ok.mp h₁₂
  obtain ⟨host, hhost, rfl⟩ := map_eq_ok.mp h₁₃
  refine ⟨fun key v hv => ?_, fun v hv => (withDefault_eq_ok hv).mp hsources⟩
  cases key with
  | host => exact congrArg (Except.map _) ((withDefault_eq_ok hv).mp hhost)
  | port => exact congrArg (Except.map _) ((withDefault_eq_ok hv).mp hport)
  | database => exact congrArg (Except.map _) ((withDefault_eq_ok hv).mp hdatabase)
  | user => exact congrArg (Except.map _) ((withDefault_eq_ok hv).mp huser)
  | password => exact congrArg (Except.map _) ((withDefault_eq_ok hv).mp hpassword)
  | sslmode => exact congrArg (Except.map _) ((withDefault_eq_ok hv).mp hsslmode)
  | connectTimeout => exact congrArg (Except.map _) ((withDefault_eq_ok hv).mp hconnectTimeout)
  | applicationName => exact congrArg (Except.map _) ((withDefault_eq_ok hv).mp happlicationName)
  | timeout => exact congrArg (Except.map _) ((withDefault_eq_ok hv).mp htimeout)
  | format => exact congrArg (Except.map _) ((withDefault_eq_ok hv).mp hformat)
  | schema => exact congrArg (Except.map _) ((withDefault_eq_ok hv).mp hschema)
  | multipleResults => exact congrArg (Except.map _) ((withDefault_eq_ok hv).mp hmultipleResults)

end Settings

/-- A field is read if a value that is given for it can be brought to the type of its setting. -/
theorem SettingKey.withDefault_succeeds {α : Type} (key : SettingKey) {given : Given} {fallback : α}
    {r : Reader α} {shown : α → Value} (hcoerce : ∀ v, key.coerce v = (r v).result.map shown)
    (h : ∀ v, find key.text given = some v → ∃ u, key.coerce v = .ok u) :
    (withDefault given key.text fallback r).Succeeds := by
  cases hv : find key.text given with
  | none =>
    unfold withDefault
    rw [hv]
    exact ⟨fallback, rfl⟩
  | some v =>
    obtain ⟨u, hu⟩ := h v hv
    rw [hcoerce] at hu
    cases hread : (r v).result with
    | error fault =>
      rw [hread] at hu
      cases hu
    | ok a => exact ⟨a, (withDefault_eq_ok hv).mpr hread⟩

namespace Settings

/-- Settings are read if each value that is given can be brought to the type of its setting, and the
chosen profile and the sources are read. -/
theorem read_succeeds {given : Given}
    (hvalue : ∀ (key : SettingKey) (v : Value), find key.text given = some v →
      ∃ u, key.coerce v = .ok u)
    (hprofile : (withDefault given "active_profile" none (Reader.optional Reader.text)).Succeeds)
    (hsources : (withDefault given "sources" [] (tableOf Reader.text)).Succeeds) :
    (read given).Succeeds := by
  simp only [read, succeeds_seq, succeeds_map, and_assoc]
  exact ⟨SettingKey.host.withDefault_succeeds (fun _ => rfl) (hvalue .host),
    SettingKey.port.withDefault_succeeds (fun _ => rfl) (hvalue .port),
    SettingKey.database.withDefault_succeeds (fun _ => rfl) (hvalue .database),
    SettingKey.user.withDefault_succeeds (fun _ => rfl) (hvalue .user),
    SettingKey.password.withDefault_succeeds (fun _ => rfl) (hvalue .password),
    SettingKey.sslmode.withDefault_succeeds (fun _ => rfl) (hvalue .sslmode),
    SettingKey.connectTimeout.withDefault_succeeds (fun _ => rfl) (hvalue .connectTimeout),
    SettingKey.applicationName.withDefault_succeeds (fun _ => rfl) (hvalue .applicationName),
    SettingKey.timeout.withDefault_succeeds (fun _ => rfl) (hvalue .timeout),
    SettingKey.format.withDefault_succeeds (fun _ => rfl) (hvalue .format),
    SettingKey.schema.withDefault_succeeds (fun _ => rfl) (hvalue .schema),
    SettingKey.multipleResults.withDefault_succeeds (fun _ => rfl) (hvalue .multipleResults),
    hprofile, hsources⟩

end Settings

/-! ### Profiles -/

namespace Profile

/-- Each setting of a profile is read from the field of its name. -/
structure ReadsSettings (given : Given) (s : Settings) : Prop where
  /-- The host. -/
  host : (withDefault given "host" ({} : Settings).host text).result = .ok s.host
  /-- The port, which is checked. -/
  port : (withDefault given "port" ({} : Settings).port
    fun v => (integer v).checked portFault?).result = .ok s.port
  /-- The database. -/
  database : (withDefault given "dbname" ({} : Settings).database text).result = .ok s.database
  /-- The user. -/
  user : (withDefault given "user" ({} : Settings).user (optional text)).result = .ok s.user
  /-- The password. -/
  password : (withDefault given "password" ({} : Settings).password (optional text)).result =
    .ok s.password
  /-- How the connection is secured, which is checked. -/
  sslmode : (withDefault given "sslmode" ({} : Settings).sslmode
    fun v => (text v).checked sslmodeFault?).result = .ok s.sslmode
  /-- The seconds that connecting may take. -/
  connectTimeout : (withDefault given "connect_timeout" ({} : Settings).connectTimeout
    integer).result = .ok s.connectTimeout
  /-- The name that the program gives itself. -/
  applicationName : (withDefault given "application_name" ({} : Settings).applicationName
    text).result = .ok s.applicationName
  /-- The schema in which names of one segment are looked up. -/
  schema : (withDefault given "default_schema" ({} : Settings).schema (optional text)).result =
    .ok s.schema
  /-- Do cursors come back as result sets of their own? -/
  multipleResults : (withDefault given "multiple_results" ({} : Settings).multipleResults
    (optional truth)).result = .ok s.multipleResults

theorem readsSettings {given : Given} {s : Settings} (h : (readSettings given).result = .ok s) :
    ReadsSettings given s := by
  obtain ⟨f₁, multipleResults, h₁, hmultipleResults, rfl⟩ := seq_eq_ok.mp h
  obtain ⟨f₂, schema, h₂, hschema, rfl⟩ := seq_eq_ok.mp h₁
  obtain ⟨f₃, applicationName, h₃, happlicationName, rfl⟩ := seq_eq_ok.mp h₂
  obtain ⟨f₄, connectTimeout, h₄, hconnectTimeout, rfl⟩ := seq_eq_ok.mp h₃
  obtain ⟨f₅, sslmode, h₅, hsslmode, rfl⟩ := seq_eq_ok.mp h₄
  obtain ⟨f₆, password, h₆, hpassword, rfl⟩ := seq_eq_ok.mp h₅
  obtain ⟨f₇, user, h₇, huser, rfl⟩ := seq_eq_ok.mp h₆
  obtain ⟨f₈, database, h₈, hdatabase, rfl⟩ := seq_eq_ok.mp h₇
  obtain ⟨f₉, port, h₉, hport, rfl⟩ := seq_eq_ok.mp h₈
  obtain ⟨host, hhost, rfl⟩ := map_eq_ok.mp h₉
  exact
    { host := hhost
      port := hport
      database := hdatabase
      user := huser
      password := hpassword
      sslmode := hsslmode
      connectTimeout := hconnectTimeout
      applicationName := happlicationName
      schema := hschema
      multipleResults := hmultipleResults }

/-- A setting of a profile that is given is read as a value of the type of its field. -/
theorem readSettings_eq_ok {given : Given} {s : Settings}
    (h : (readSettings given).result = .ok s) :
    ∀ key ∈ keys, ∀ v, find key.text given = some v → key.coerce v = .ok (s.value key) := by
  have hreads := readsSettings h
  intro key hkey v hv
  cases key with
  | host => exact congrArg (Except.map _) ((withDefault_eq_ok hv).mp hreads.host)
  | port => exact congrArg (Except.map _) (checked_eq_ok ((withDefault_eq_ok hv).mp hreads.port))
  | database => exact congrArg (Except.map _) ((withDefault_eq_ok hv).mp hreads.database)
  | user => exact congrArg (Except.map _) ((withDefault_eq_ok hv).mp hreads.user)
  | password => exact congrArg (Except.map _) ((withDefault_eq_ok hv).mp hreads.password)
  | sslmode =>
    exact congrArg (Except.map _) (checked_eq_ok ((withDefault_eq_ok hv).mp hreads.sslmode))
  | connectTimeout =>
    exact congrArg (Except.map _) ((withDefault_eq_ok hv).mp hreads.connectTimeout)
  | applicationName =>
    exact congrArg (Except.map _) ((withDefault_eq_ok hv).mp hreads.applicationName)
  | timeout => exact absurd hkey (by decide)
  | format => exact absurd hkey (by decide)
  | schema => exact congrArg (Except.map _) ((withDefault_eq_ok hv).mp hreads.schema)
  | multipleResults =>
    exact congrArg (Except.map _) ((withDefault_eq_ok hv).mp hreads.multipleResults)

/-- The fields that the profile's own connection URL gives, if it has one. -/
def ownFields (given : Given) : Given :=
  (((find "dsn" given).filter Value.isTruthy).bind fun url => (urlFields url).toOption).getD []

/-- The value that a profile supplies for a setting: the one that it gives itself, or else the one
of its own connection URL. -/
def supplied? (given : Given) (key : SettingKey) : Option Value :=
  if key ∈ keys then find key.text given <|> find key.text (ownFields given) else none

theorem find_foldl_putNew (name : String) (fields given : Given) :
    find name (fields.foldl (fun given (name, v) => Entries.putNew name v given) given) =
      (find name given <|> find name fields) := by
  simp only [find_eq_get?]
  induction fields generalizing given with
  | nil => simp [Entries.get?]
  | cons field fields ih =>
    obtain ⟨k, v⟩ := field
    rw [List.foldl_cons, ih, Entries.get?_putNew]
    by_cases hk : k = name <;> cases Entries.get? name given <;> simp [Entries.get?, hk]

theorem withUrl_eq_ok {given whole : Given} (h : (withUrl given).result = .ok whole)
    (name : String) : find name whole = (find name given <|> find name (ownFields given)) := by
  unfold withUrl at h
  unfold ownFields
  cases hurl : (find "dsn" given).filter Value.isTruthy with
  | none =>
    rw [hurl] at h
    obtain rfl := pure_eq_ok.mp h
    simp [find]
  | some url =>
    rw [hurl] at h
    dsimp only at h
    cases hfields : urlFields url with
    | ok fields =>
      rw [hfields] at h
      obtain rfl := pure_eq_ok.mp h
      rw [find_foldl_putNew, Option.bind_some, hfields]
      rfl
    | error fault =>
      rw [hfields] at h
      split at h
      case h_1 hok => cases hok
      all_goals cases h

/-- A profile gives what is supplied for it, as values of the types of the fields. -/
theorem read_supplies {given : Given} {p : Profile} (h : (read given).result = .ok p)
    (key : SettingKey) :
    (key ∈ keys ∧ p.given.contains key.text = true ↔ (supplied? given key).isSome = true) ∧
      ∀ v, supplied? given key = some v → key.coerce v = .ok (p.settings.value key) := by
  unfold read at h
  split at h
  case h_1 fault hfault => cases h
  case h_2 whole hwhole =>
    obtain ⟨f, names, h₁, hnames, rfl⟩ := seq_eq_ok.mp h
    obtain ⟨g, settings, h₂, hsettings, rfl⟩ := seq_eq_ok.mp h₁
    obtain ⟨url, -, rfl⟩ := map_eq_ok.mp h₂
    obtain rfl := pure_eq_ok.mp hnames
    by_cases hkey : key ∈ keys
    · have hsupplied : find key.text whole = supplied? given key := by
        rw [withUrl_eq_ok hwhole, supplied?, if_pos hkey]
      have hname : key.text ∈ Profile.names := List.mem_cons_of_mem _ (List.mem_map_of_mem hkey)
      refine ⟨?_, fun v hv => readSettings_eq_ok hsettings key hkey v (hsupplied.trans hv)⟩
      rw [← hsupplied]
      simp [hkey, hname]
    · simp [supplied?, hkey]

end Profile

end ProcedureCall
