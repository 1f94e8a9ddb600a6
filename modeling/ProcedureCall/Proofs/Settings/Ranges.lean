import ProcedureCall.Proofs.Settings.Supplies

/-!
# Which settings are in range

A port is in range from 1 to 65535, and a connection is secured in one of a few ways. A profile is
checked for both when its file is loaded, and the port of a connection URL when the URL is read.
What the options, the environment and the parameters of a connection URL say beyond that is taken as
it is, so that settings are in range exactly if these sources say so where they count
(`in_range_iff`).
-/

namespace ProcedureCall

open Reader Reading Resolution

/-- The port is one that a server can listen on. -/
def IsPort (port : Int) : Prop := 1 ≤ port ∧ port ≤ 65535
  deriving Decidable

/-- The connection is secured in one of the ways that are known. -/
def IsMode (mode : String) : Prop := mode ∈ Profile.sslmodes
  deriving Decidable

theorem isPort_default : IsPort ({} : Settings).port := by decide

theorem isMode_default : IsMode ({} : Settings).sslmode := by decide

/-! ### What was checked when it was read -/

namespace Reading

variable {α : Type}

theorem fault?_of_checked {fault? : α → Option String} {r : Reading α} {a : α}
    (h : (r.checked fault?).result = .ok a) : fault? a = none := by
  have hread := checked_eq_ok h
  unfold checked at h
  rw [hread] at h
  dsimp only at h
  split at h
  case h_1 => cases h
  case h_2 hnone => exact hnone

/-- What is read of a list is read of its members. -/
theorem exists_of_mem_all {rs : List (Reading α)} {as : List α} (h : (all rs).result = .ok as)
    {a : α} (ha : a ∈ as) : ∃ r ∈ rs, r.result = .ok a := by
  induction rs generalizing as with
  | nil =>
    obtain rfl := pure_eq_ok.mp h
    cases ha
  | cons r rs ih =>
    obtain ⟨f, rest, hf, hrest, rfl⟩ := seq_eq_ok.mp h
    obtain ⟨first, hfirst, rfl⟩ := map_eq_ok.mp hf
    rcases List.mem_cons.mp ha with rfl | ha
    · exact ⟨r, List.mem_cons_self, hfirst⟩
    · obtain ⟨r', hr', ha⟩ := ih hrest ha
      exact ⟨r', List.mem_cons_of_mem _ hr', ha⟩

end Reading

namespace Reader

variable {α : Type}

/-- What is read of a field is its own value or what is read of the value that is given. -/
theorem eq_or_exists_of_withDefault {given : Given} {name : String} {fallback a : α} {r : Reader α}
    (h : (withDefault given name fallback r).result = .ok a) :
    a = fallback ∨ ∃ v, (r v).result = .ok a := by
  cases hv : find name given with
  | none =>
    unfold withDefault at h
    rw [hv] at h
    exact Or.inl (pure_eq_ok.mp h).symm
  | some v => exact Or.inr ⟨v, (withDefault_eq_ok hv).mp h⟩

/-- What is read of a table is read of the values of its entries. -/
theorem exists_of_mem_tableOf {r : Reader α} {v : Value} {entries : List (String × α)}
    (h : (tableOf r v).result = .ok entries) {entry : String × α} (hentry : entry ∈ entries) :
    ∃ w, (r w).result = .ok entry.2 := by
  cases v with
  | mapping given =>
    obtain ⟨reading, hreading, hread⟩ := exists_of_mem_all h hentry
    obtain ⟨⟨key, w⟩, -, rfl⟩ := List.mem_map.mp hreading
    obtain ⟨f, a, hf, ha, rfl⟩ := seq_eq_ok.mp hread
    obtain ⟨name, -, rfl⟩ := map_eq_ok.mp hf
    exact ⟨w, inside_eq_ok.mp ha⟩
  | _ => cases h

end Reader

/-! ### Profiles -/

namespace Profile

theorem isPort_of_portFault? {port : Int} (h : portFault? port = none) : IsPort port := by
  unfold portFault? at h
  split at h
  case isTrue hport => exact hport
  case isFalse =>
    dsimp only at h
    split at h <;> cases h

theorem isMode_of_sslmodeFault? {mode : String} (h : sslmodeFault? mode = none) : IsMode mode := by
  unfold sslmodeFault? at h
  split at h
  case isTrue hmode => exact List.contains_iff_mem.mp hmode
  case isFalse => cases h

/-- The settings of a profile are in range. -/
theorem readSettings_in_range {given : Given} {s : Settings}
    (h : (readSettings given).result = .ok s) : IsPort s.port ∧ IsMode s.sslmode := by
  have hreads := readsSettings h
  constructor
  · rcases eq_or_exists_of_withDefault hreads.port with hport | ⟨v, hv⟩
    · exact hport ▸ isPort_default
    · exact isPort_of_portFault? (fault?_of_checked hv)
  · rcases eq_or_exists_of_withDefault hreads.sslmode with hmode | ⟨v, hv⟩
    · exact hmode ▸ isMode_default
    · exact isMode_of_sslmodeFault? (fault?_of_checked hv)

theorem read_in_range {v : Value} {p : Profile}
    (h : (recordOf "PgProfile" read v).result = .ok p) :
    IsPort p.settings.port ∧ IsMode p.settings.sslmode := by
  cases v with
  | mapping entries =>
    change (read (givenBy entries)).result = _ at h
    unfold read at h
    split at h
    case h_1 => cases h
    case h_2 whole hwhole =>
      obtain ⟨f, names, h₁, -, rfl⟩ := seq_eq_ok.mp h
      obtain ⟨g, settings, h₂, hsettings, rfl⟩ := seq_eq_ok.mp h₁
      obtain ⟨url, -, rfl⟩ := map_eq_ok.mp h₂
      exact readSettings_in_range hsettings
  | _ => cases h

end Profile

namespace FileSettings

/-- A file that was loaded says nothing or was read. -/
theorem load_eq_ok {file : ConfigFile} {settings : FileSettings} (h : load file = .ok settings) :
    settings = {} ∨ ∃ members, (read members).result = .ok settings := by
  obtain ⟨path, state⟩ := file
  unfold load at h
  cases state with
  | missing => exact Or.inl (Except.ok.inj h).symm
  | directory | nameTooLong => cases h
  | content octets =>
    dsimp only at h
    split at h
    case h_1 => cases h
    case h_2 text htext =>
      split at h
      case h_1 | h_2 => cases h
      case h_3 members hmembers =>
        split at h
        case h_1 others hread => exact Or.inr ⟨members, hread.trans h⟩
        all_goals cases h

/-- The profiles of a file that was read are in range. -/
theorem read_in_range {members : Given} {settings : FileSettings}
    (h : (read members).result = .ok settings) {name : String} {p : Profile}
    (hp : (name, p) ∈ settings.profiles) : IsPort p.settings.port ∧ IsMode p.settings.sslmode := by
  obtain ⟨f, profiles, h₁, hprofiles, rfl⟩ := seq_eq_ok.mp h
  obtain ⟨g, defaultProfile, h₂, -, rfl⟩ := seq_eq_ok.mp h₁
  obtain ⟨g', format, h₃, -, rfl⟩ := seq_eq_ok.mp h₂
  obtain ⟨timeout, -, rfl⟩ := map_eq_ok.mp h₃
  rcases eq_or_exists_of_withDefault hprofiles with rfl | ⟨v, hv⟩
  · cases hp
  · obtain ⟨w, hw⟩ := exists_of_mem_tableOf hv hp
    exact Profile.read_in_range hw

/-- The profiles of a file that was loaded are in range. -/
theorem load_in_range {file : ConfigFile} {settings : FileSettings}
    (h : load file = .ok settings) {name : String} {p : Profile}
    (hp : (name, p) ∈ settings.profiles) : IsPort p.settings.port ∧ IsMode p.settings.sslmode := by
  rcases load_eq_ok h with rfl | ⟨members, hread⟩
  · cases hp
  · exact read_in_range hread hp

end FileSettings

/-! ### Resolved settings -/

namespace Settings

variable {file : ConfigFile} {settings : FileSettings} {o : Overrides} {s : Settings}

/-- A setting has the value of the first source that supplies it. -/
theorem coerce_of_isFirst (h : resolve settings o = .ok s) {key : SettingKey} {origin : Origin}
    {v : Value} {source : String} (hfirst : origin.IsFirst settings o key v source) :
    key.coerce v = .ok (s.value key) := by
  obtain ⟨pick, hpick, hvalue, -⟩ := resolve_eq_ok h
  have hsame : pick key = (v, source) := by
    rw [← Option.some.injEq, ← hpick, hfirst.findSome?]
  have hcoerced := hvalue key
  rwa [hsame] at hcoerced

theorem read_of_map {α : Type} {r : Except Fault α} {shown : α → Value}
    (hshown : Function.Injective shown) {a : α} (h : r.map shown = .ok (shown a)) : r = .ok a := by
  cases r with
  | error fault => cases h
  | ok b => exact congrArg _ (hshown (Except.ok.inj h))

/-- The port is read from what the first source supplies for it. -/
theorem port_of_isFirst (h : resolve settings o = .ok s) {origin : Origin} {v : Value}
    {source : String} (hfirst : origin.IsFirst settings o .port v source) :
    (integer v).result = .ok s.port :=
  read_of_map (fun _ _ => Value.int.inj) (coerce_of_isFirst h hfirst)

/-- The way in which the connection is secured is read from what the first source supplies for
it. -/
theorem sslmode_of_isFirst (h : resolve settings o = .ok s) {origin : Origin} {v : Value}
    {source : String} (hfirst : origin.IsFirst settings o .sslmode v source) :
    (Reader.text v).result = .ok s.sslmode :=
  read_of_map (fun _ _ => Value.text.inj) (coerce_of_isFirst h hfirst)

theorem exists_isFirst (h : resolve settings o = .ok s) (key : SettingKey) :
    ∃ origin v source, Origin.IsFirst settings o key origin v source := by
  obtain ⟨pick, hpick, -, -⟩ := resolve_eq_ok h
  obtain ⟨origin, hfirst⟩ := Origin.exists_isFirst (hpick key)
  exact ⟨origin, _, _, hfirst⟩

/-- Whether a setting is in range depends on the sources that are not checked, if the others supply
values in range. -/
theorem holds_iff_of_isFirst {key : SettingKey} {α : Type} {read : Reader α} {a : α} {P : α → Prop}
    {unchecked : Origin → Prop} (h : resolve settings o = .ok s)
    (hread : ∀ {origin v source}, Origin.IsFirst settings o key origin v source →
      (read v).result = .ok a)
    (hchecked : ∀ {origin v source}, ¬ unchecked origin →
      origin.supply settings o key = some (v, source) → (read v).result = .ok a → P a) :
    P a ↔ ∀ origin v source b, unchecked origin → Origin.IsFirst settings o key origin v source →
      (read v).result = .ok b → P b := by
  constructor
  · intro ha origin v source b _ hfirst hb
    obtain rfl := Except.ok.inj ((hread hfirst).symm.trans hb)
    exact ha
  · intro hsupplied
    obtain ⟨origin, v, source, hfirst⟩ := exists_isFirst h key
    by_cases hunchecked : unchecked origin
    · exact hsupplied origin v source a hunchecked hfirst (hread hfirst)
    · exact hchecked hunchecked hfirst.2 (hread hfirst)

/-- A port that neither an option nor the environment supplies is in range. -/
theorem isPort_of_supply (hload : FileSettings.load file = .ok settings) {origin : Origin}
    {v : Value} {source : String} {port : Int}
    (horigin : ¬ (origin = .option ∨ origin = .environment))
    (hsupply : origin.supply settings o .port = some (v, source))
    (hread : (integer v).result = .ok port) : IsPort port := by
  cases origin with
  | option => exact absurd (Or.inl rfl) horigin
  | environment => exact absurd (Or.inr rfl) horigin
  | url =>
    obtain ⟨n, rfl, hlow, hhigh⟩ := (Origin.isField_of_supply_url hsupply).exists_port
    obtain rfl := Except.ok.inj hread
    exact ⟨by omega, by omega⟩
  | profile =>
    obtain ⟨name, p, hp, rfl⟩ := Origin.exists_profile_of_supply hsupply
    obtain rfl := Except.ok.inj hread
    exact (FileSettings.load_in_range hload hp).1
  | file => cases hsupply
  | builtIn =>
    obtain rfl := (Prod.mk.inj (Option.some.inj hsupply)).1
    obtain rfl := Except.ok.inj hread
    exact isPort_default

/-- A way of securing the connection that neither an option nor the connection URL supplies is one
that is known. -/
theorem isMode_of_supply (hload : FileSettings.load file = .ok settings) {origin : Origin}
    {v : Value} {source mode : String} (horigin : ¬ (origin = .option ∨ origin = .url))
    (hsupply : origin.supply settings o .sslmode = some (v, source))
    (hread : (Reader.text v).result = .ok mode) : IsMode mode := by
  cases origin with
  | option => exact absurd (Or.inl rfl) horigin
  | url => exact absurd (Or.inr rfl) horigin
  | environment => cases hsupply
  | profile =>
    obtain ⟨name, p, hp, rfl⟩ := Origin.exists_profile_of_supply hsupply
    obtain rfl := Except.ok.inj ((text_text _).symm.trans hread)
    exact (FileSettings.load_in_range hload hp).2
  | file => cases hsupply
  | builtIn =>
    obtain rfl := (Prod.mk.inj (Option.some.inj hsupply)).1
    obtain rfl := Except.ok.inj ((text_text _).symm.trans hread)
    exact isMode_default

/-- **When settings are in range.** In settings that are resolved with a file that was loaded, the
port is in range exactly if it is where an option or the environment supplies it, and the connection
is secured in one of the known ways exactly if it is where an option or the connection URL says how.
What a profile or the defaults supply, and the port of a connection URL, is always in range. -/
theorem in_range_iff (hload : FileSettings.load file = .ok settings)
    (h : resolve settings o = .ok s) :
    (IsPort s.port ↔ ∀ origin v source port, (origin = .option ∨ origin = .environment) →
      Origin.IsFirst settings o .port origin v source → (integer v).result = .ok port →
        IsPort port) ∧
    (IsMode s.sslmode ↔ ∀ origin v source mode, (origin = .option ∨ origin = .url) →
      Origin.IsFirst settings o .sslmode origin v source → (Reader.text v).result = .ok mode →
        IsMode mode) :=
  ⟨holds_iff_of_isFirst h (port_of_isFirst h) (isPort_of_supply hload),
    holds_iff_of_isFirst h (sslmode_of_isFirst h) (isMode_of_supply hload)⟩

/-- A file with a profile that says how the connection is secured. -/
def securedFile : ConfigFile where
  path := "config.toml"
  state := .content ("[profiles.dev]\nport = 5433\nsslmode = 'require'".toList.map
    fun c => UInt8.ofNat c.toNat)

/-- The profile is chosen, and the environment says a port. -/
def securedOverrides : Overrides where
  profile := some "dev"
  environment := [("PGPORT", "6000")]

theorem secured_in_range :
    ∃ settings s, FileSettings.load securedFile = .ok settings ∧
      resolve settings securedOverrides = .ok s ∧ (s.port, s.sslmode) = (6000, "require") ∧
      IsPort s.port ∧ IsMode s.sslmode := by
  have hvalues : (FileSettings.load securedFile).toOption.bind (fun settings =>
      (resolve settings securedOverrides).toOption.map fun s => (s.port, s.sslmode)) =
      some (6000, "require") := by decide +kernel
  cases hload : FileSettings.load securedFile with
  | error fault =>
    rw [hload] at hvalues
    cases hvalues
  | ok settings =>
    rw [hload] at hvalues
    cases h : resolve settings securedOverrides with
    | error fault =>
      change (resolve settings securedOverrides).toOption.map _ = _ at hvalues
      rw [h] at hvalues
      cases hvalues
    | ok s =>
      change (resolve settings securedOverrides).toOption.map _ = _ at hvalues
      rw [h] at hvalues
      have hpair := Option.some.inj hvalues
      obtain ⟨hport, hmode⟩ := in_range_iff hload h
      refine ⟨settings, s, rfl, h, hpair, hport.mpr ?_, hmode.mpr ?_⟩
      · rintro origin v source port - hfirst hread
        obtain rfl := Except.ok.inj ((port_of_isFirst h hfirst).symm.trans hread)
        rw [(Prod.mk.inj hpair).1]
        decide
      · rintro origin v source mode (rfl | rfl) hfirst -
        · cases hfirst.2
        · cases hfirst.2

/-- A port that the environment says, and a way of securing the connection that a connection URL
says, are taken as they are. -/
theorem unchecked_settings :
    FileSettings.load ⟨"", .missing⟩ = .ok {} ∧
      (∃ s, resolve {} { environment := [("PGPORT", "70000")] } = .ok s ∧ s.port = 70000 ∧
        ¬ IsPort s.port) ∧
      ∃ s, resolve {} { url := some "postgresql://db/x?sslmode=none" } = .ok s ∧
        s.sslmode = "none" ∧ ¬ IsMode s.sslmode :=
  ⟨rfl, ⟨_, rfl, rfl, by decide⟩, ⟨_, rfl, rfl, by decide⟩⟩

end Settings

end ProcedureCall
