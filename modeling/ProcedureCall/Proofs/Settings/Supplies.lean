import ProcedureCall.Proofs.Settings.Precedence
import ProcedureCall.Proofs.Settings.UrlFaults

/-!
# What the sources of settings supply

Each source supplies values of its own kind: a connection URL its fields, a profile the settings of
one that stands in the file, the environment texts and a port. Whatever the source, the values are
of the types of the settings (`Origin.holds_supply`), if the options have the types that they are
declared with.
-/

namespace ProcedureCall

open Resolution

/-- A value that a setting can have. -/
def SettingKey.Holds (key : SettingKey) (v : Value) : Prop := ∃ s : Settings, v = s.value key

theorem SettingKey.Holds.coerce {key : SettingKey} {v : Value} (h : key.Holds v) :
    key.coerce v = .ok v := by
  obtain ⟨s, rfl⟩ := h
  exact s.coerce_value key

/-- The options have the types that they are declared with: each says nothing, or it has a value of
its setting. -/
def Overrides.AreTyped (o : Overrides) : Prop :=
  ∀ entry ∈ optionKeys, ∀ v, Entries.get? entry.1 o.options = some v →
    v.isNull = true ∨ entry.2.Holds v

theorem mem_of_nameIn {table : List (String × SettingKey)} {key : SettingKey} {name : String}
    (h : nameIn table key = some name) : (name, key) ∈ table := by
  obtain ⟨entry, hentry, rfl⟩ := Option.map_eq_some_iff.mp h
  have hkey : entry.2 = key := by simpa using List.find?_some hentry
  exact hkey ▸ List.mem_of_find?_eq_some hentry

/-- A field of a connection URL can be the value of its setting. -/
theorem Settings.IsField.holds {key : SettingKey} {v : Value} (h : IsField key.text v) :
    key.Holds v := by
  generalize hname : key.text = name at h
  cases h with
  | @text _ s hmem =>
    subst hname
    cases key with
    | host => exact ⟨{ host := s }, rfl⟩
    | database => exact ⟨{ database := s }, rfl⟩
    | user => exact ⟨{ user := some s }, rfl⟩
    | password => exact ⟨{ password := some s }, rfl⟩
    | sslmode => exact ⟨{ sslmode := s }, rfl⟩
    | applicationName => exact ⟨{ applicationName := s }, rfl⟩
    | _ => exact absurd hmem (by decide)
  | @port port =>
    obtain rfl : key = .port := SettingKey.text_injective hname
    exact ⟨{ port := port }, rfl⟩
  | @timeout seconds =>
    obtain rfl : key = .connectTimeout := SettingKey.text_injective hname
    exact ⟨{ connectTimeout := seconds }, rfl⟩

/-- A variable of the environment can be the value of its setting. -/
theorem holds_variableValue {environment : List (String × String)} {name : String}
    {key : SettingKey} {v : Value} (hmem : (name, key) ∈ environmentKeys)
    (h : variableValue environment name key = some v) : key.Holds v := by
  obtain ⟨s, -, hs⟩ := Option.bind_eq_some_iff.mp h
  split at hs
  case isTrue hport =>
    subst hport
    obtain ⟨port, -, rfl⟩ := Option.map_eq_some_iff.mp hs
    exact ⟨{ port := port }, rfl⟩
  case isFalse hport =>
    obtain rfl := Option.some.inj hs
    cases key with
    | host => exact ⟨{ host := s }, rfl⟩
    | database => exact ⟨{ database := s }, rfl⟩
    | user => exact ⟨{ user := some s }, rfl⟩
    | password => exact ⟨{ password := some s }, rfl⟩
    | port => exact absurd rfl hport
    | _ => simp [environmentKeys] at hmem

namespace Origin

variable {file : FileSettings} {o : Overrides} {key : SettingKey} {v : Value} {source : String}

/-- What a connection URL supplies is a field of the URL. -/
theorem isField_of_supply_url (h : Origin.url.supply file o key = some (v, source)) :
    Settings.IsField key.text v := by
  obtain ⟨url, -, hsupplied⟩ := Option.bind_eq_some_iff.mp h
  obtain ⟨fields, hfields, hsupplied⟩ := Option.bind_eq_some_iff.mp hsupplied
  obtain ⟨w, hw, heq⟩ := Option.map_eq_some_iff.mp hsupplied
  obtain rfl := (Prod.mk.inj heq).1
  cases hurl : Settings.urlFields url with
  | error fault =>
    rw [hurl] at hfields
    cases hfields
  | ok others =>
    rw [hurl] at hfields
    obtain rfl := Option.some.inj hfields
    exact Settings.isField_of_mem hurl (Entries.mem_of_get? hw)

/-- What a profile supplies is a setting of a profile of the file. -/
theorem exists_profile_of_supply (h : Origin.profile.supply file o key = some (v, source)) :
    ∃ name p, (name, p) ∈ file.profiles ∧ v = p.settings.value key := by
  obtain ⟨⟨name, p⟩, hchosen, hsupplied⟩ := Option.bind_eq_some_iff.mp h
  obtain ⟨wanted, -, hwanted⟩ := Option.bind_eq_some_iff.mp hchosen
  obtain ⟨q, hq, heq⟩ := Option.map_eq_some_iff.mp hwanted
  obtain ⟨rfl, rfl⟩ := Prod.mk.inj heq
  dsimp only at hsupplied
  split at hsupplied
  case isTrue =>
    obtain rfl := (Prod.mk.inj (Option.some.inj hsupplied)).1
    exact ⟨wanted, q, Entries.mem_of_get? hq, rfl⟩
  case isFalse => cases hsupplied

/-- Whatever source supplies a setting, it supplies a value that the setting can have. -/
theorem holds_supply (ho : o.AreTyped) {origin : Origin}
    (h : origin.supply file o key = some (v, source)) : key.Holds v := by
  cases origin with
  | option =>
    obtain ⟨name, hname, hsupplied⟩ := Option.bind_eq_some_iff.mp h
    obtain ⟨w, hw, heq⟩ := Option.map_eq_some_iff.mp hsupplied
    obtain rfl := (Prod.mk.inj heq).1
    obtain ⟨hget, hnull⟩ := Option.filter_eq_some_iff.mp hw
    rcases ho _ (mem_of_nameIn hname) w hget with hnone | hholds
    · simp [hnone] at hnull
    · exact hholds
  | url => exact (isField_of_supply_url h).holds
  | environment =>
    obtain ⟨name, hname, hsupplied⟩ := Option.bind_eq_some_iff.mp h
    obtain ⟨w, hw, heq⟩ := Option.map_eq_some_iff.mp hsupplied
    obtain rfl := (Prod.mk.inj heq).1
    exact holds_variableValue (mem_of_nameIn hname) hw
  | profile =>
    obtain ⟨name, p, -, rfl⟩ := exists_profile_of_supply h
    exact ⟨p.settings, rfl⟩
  | file =>
    obtain ⟨w, hw, heq⟩ := Option.map_eq_some_iff.mp h
    obtain rfl := (Prod.mk.inj heq).1
    cases key with
    | timeout =>
      simp only [fileValue] at hw
      split at hw
      · cases hw
      · exact ⟨{ timeout := file.timeout }, (Option.some.inj hw).symm⟩
    | format =>
      simp only [fileValue] at hw
      split at hw
      · cases hw
      · exact ⟨{ format := file.format }, (Option.some.inj hw).symm⟩
    | _ => cases hw
  | builtIn =>
    obtain rfl := (Prod.mk.inj (Option.some.inj h)).1
    exact ⟨{}, rfl⟩

end Origin

end ProcedureCall
