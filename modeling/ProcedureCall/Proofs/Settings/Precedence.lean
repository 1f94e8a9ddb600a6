import ProcedureCall.Proofs.Fallible
import ProcedureCall.Proofs.Settings.Reading
import ProcedureCall.Settings.Resolution

/-!
# The order in which sources of settings count

Settings are resolved by laying one source over the other, the weakest first. Seen from a setting,
this is the other way round: the sources are gone through from the strongest on, and the first one
that supplies the setting counts. `Origin.supply` says for each source what it supplies for a
setting, in the terms of that source alone, and `settle_layers` that the layers come to the same.

## What is proved

* `resolve_by_precedence` — a setting has the value of the first source that supplies it, brought
  to the type of its field; its source is told once; and sources that supply nothing for it or come
  later have no influence on it.
-/

namespace ProcedureCall

open Reader Resolution

/-- The sources of settings. -/
inductive Origin where
  /-- The options of the command line. -/
  | option
  /-- The connection URL. -/
  | url
  /-- The environment. -/
  | environment
  /-- The chosen profile. -/
  | profile
  /-- What the configuration file says for every profile. -/
  | file
  /-- The defaults of the program. -/
  | builtIn
  deriving DecidableEq, Repr

/-- The profile that is chosen, with its name. -/
def chosen (file : FileSettings) (o : Overrides) : Option (String × Profile) :=
  (nonEmpty (chosenProfile file o).toOption.join).bind fun name =>
    (Entries.get? name file.profiles).map (name, ·)

/-- The name by which a table of names supplies a setting. -/
def nameIn (table : List (String × SettingKey)) (key : SettingKey) : Option String :=
  (table.find? (·.2 = key)).map (·.1)

/-- What an environment variable says of a setting. A port is an integer. -/
def variableValue (environment : List (String × String)) (name : String) (key : SettingKey) :
    Option Value :=
  (Entries.get? name environment).bind fun s =>
    if key = .port then (Numeral.lenient? s.toList).map .int else some (.text s)

/-- What an option says, unless that is nothing. -/
def optionValue (options : List (String × Value)) (name : String) : Option Value :=
  (Entries.get? name options).filter fun v => !v.isNull

/-- What the configuration file says of a setting for every profile, if that is not the default. -/
def fileValue (settings : FileSettings) : SettingKey → Option Value
  | .timeout =>
    if settings.timeout.same (Binary.ofInt 30) then none else some (.float settings.timeout)
  | .format => if settings.format = "table" then none else some (.text settings.format)
  | _ => none

namespace Origin

/-- The sources, the strongest first. -/
def order : List Origin := [option, url, environment, profile, file, builtIn]

/-- The sources that count before one of them. -/
def stronger (origin : Origin) : List Origin := order.takeWhile (· ≠ origin)

/-- What a source supplies for a setting, with the name by which the source is told. -/
def supply (settings : FileSettings) (o : Overrides) (key : SettingKey) :
    Origin → Option (Value × String)
  | option =>
    (nameIn optionKeys key).bind fun name =>
      (optionValue o.options name).map (·, "cli: " ++ optionText name)
  | url =>
    (nonEmpty o.url).bind fun url =>
      (Settings.urlFields url).toOption.bind fun fields =>
        (Entries.get? key.text fields).map (·, "dsn")
  | environment =>
    (nameIn environmentKeys key).bind fun name =>
      (variableValue o.environment name key).map (·, "env: " ++ name)
  | profile =>
    (chosen settings o).bind fun (name, p) =>
      if key ∈ Profile.keys ∧ p.given.contains key.text = true then
        some (p.settings.value key, "profile: " ++ name)
      else none
  | file => (fileValue settings key).map (·, "config")
  | builtIn => some (({} : Settings).value key, "default")

/-- The source supplies the setting, and no source that counts before it does. -/
def IsFirst (settings : FileSettings) (o : Overrides) (key : SettingKey) (origin : Origin)
    (v : Value) (source : String) : Prop :=
  (∀ other ∈ origin.stronger, other.supply settings o key = none) ∧
    origin.supply settings o key = some (v, source)

variable {settings : FileSettings} {o : Overrides} {key : SettingKey} {v : Value} {source : String}

theorem IsFirst.findSome? {origin : Origin} (h : origin.IsFirst settings o key v source) :
    order.findSome? (supply settings o key) = some (v, source) := by
  obtain ⟨hstronger, hsupply⟩ := h
  cases origin <;> simp_all [stronger, order, List.findSome?]

/-- What is first depends on the sources up to it. -/
theorem IsFirst.congr {settings' : FileSettings} {o' : Overrides} {origin : Origin}
    (h : origin.IsFirst settings o key v source)
    (hsame : ∀ other ∈ origin :: origin.stronger,
      other.supply settings' o' key = other.supply settings o key) :
    origin.IsFirst settings' o' key v source := by
  obtain ⟨hself, hstronger⟩ := List.forall_mem_cons.mp hsame
  exact ⟨fun other hother => (hstronger other hother).trans (h.1 other hother), hself.trans h.2⟩

theorem exists_isFirst (h : order.findSome? (supply settings o key) = some (v, source)) :
    ∃ origin, IsFirst settings o key origin v source := by
  obtain ⟨before, origin, after, horder, hsupply, hbefore⟩ := List.findSome?_eq_some_iff.mp h
  refine ⟨origin, ?_, hsupply⟩
  have hnodup : order.Nodup := by decide
  rw [horder] at hnodup
  have hne : ∀ other ∈ before, other ≠ origin := fun other hother =>
    (List.nodup_append.mp hnodup).2.2 other hother origin (List.mem_cons_self ..)
  unfold stronger
  rw [horder, List.takeWhile_append_of_pos (by simpa using hne)]
  simpa using hbefore

end Origin

/-! ### The layers, seen from one setting -/

namespace Resolution

variable {key : SettingKey}

theorem settle_append (weaker stronger : List Layer) (key : SettingKey) :
    settle (weaker ++ stronger) key = (settle stronger key).or (settle weaker key) := by
  unfold settle
  rw [List.reverse_append, List.findSome?_append]

theorem settle_singleton (layer : Layer) (key : SettingKey) :
    settle [layer] key = (Entries.get? key layer.values).map (·, layer.source) := by
  simp [settle]

/-- The layers of a table of names, each of which supplies one setting at most. -/
def tableLayers (value : String → SettingKey → Option Value) (shown : String → String)
    (table : List (String × SettingKey)) : List Layer :=
  table.filterMap fun (name, key) => (value name key).map fun v => ⟨shown name, [(key, v)]⟩

theorem tableLayers_cons (value : String → SettingKey → Option Value) (shown : String → String)
    (name : String) (key : SettingKey) (table : List (String × SettingKey)) :
    tableLayers value shown ((name, key) :: table) =
      ((value name key).map fun v => (⟨shown name, [(key, v)]⟩ : Layer)).toList ++
        tableLayers value shown table := by
  unfold tableLayers
  cases h : value name key with
  | none => simp [List.filterMap_cons_none, h]
  | some v => simp [h]

/-- A setting that is in the table once is supplied by its name alone. -/
theorem settle_tableLayers (value : String → SettingKey → Option Value) (shown : String → String)
    {table : List (String × SettingKey)} (hnodup : (table.map Prod.snd).Nodup) (key : SettingKey) :
    settle (tableLayers value shown table) key =
      (nameIn table key).bind fun name => (value name key).map (·, shown name) := by
  induction table with
  | nil => rfl
  | cons entry table ih =>
    obtain ⟨name, k⟩ := entry
    obtain ⟨hk, htable⟩ := List.nodup_cons.mp hnodup
    have hfirst : settle ((value name k).map fun v => (⟨shown name, [(k, v)]⟩ : Layer)).toList key =
        if k = key then (value name key).map (·, shown name) else none := by
      cases hvalue : value name k with
      | none => by_cases hkey : k = key <;> simp_all [settle]
      | some v =>
        rw [Option.map_some, Option.toList_some, settle_singleton]
        by_cases hkey : k = key
        · subst hkey
          simp [Entries.get?, hvalue]
        · simp [Entries.get?, hkey]
    rw [tableLayers_cons, settle_append, hfirst, ih htable, nameIn, nameIn, List.find?_cons]
    by_cases hkey : k = key
    · subst hkey
      have hnone : table.find? (·.2 = k) = none := by
        rw [List.find?_eq_none]
        rintro entry hentry heq
        exact hk (List.mem_map.mpr ⟨entry, hentry, by simpa using heq⟩)
      simp [hnone]
    · simp [hkey]

theorem optionLayers_eq (options : List (String × Value)) :
    optionLayers options =
      tableLayers (fun name _ => optionValue options name) (fun name => "cli: " ++ optionText name)
        optionKeys := rfl

theorem environmentLayer_eq_ok {environment : List (String × String)} {name : String}
    {layers : List Layer} (h : environmentLayer environment name key = .ok layers) :
    layers = ((variableValue environment name key).map fun v =>
      (⟨"env: " ++ name, [(key, v)]⟩ : Layer)).toList := by
  unfold environmentLayer at h
  unfold variableValue
  cases hname : Entries.get? name environment with
  | none =>
    rw [hname] at h
    exact (Except.ok.inj h).symm
  | some s =>
    rw [hname] at h
    dsimp only at h
    split at h
    case isTrue hport =>
      rw [Option.bind_some, if_pos hport]
      split at h
      case h_1 port hvalue =>
        rw [hvalue]
        exact (Except.ok.inj h).symm
      case h_2 => cases h
    case isFalse hport =>
      rw [Option.bind_some, if_neg hport]
      exact (Except.ok.inj h).symm

theorem environmentLayers_eq_ok {environment : List (String × String)}
    {table : List (String × SettingKey)} {layers : List Layer}
    (h : environmentLayers environment table = .ok layers) :
    layers = tableLayers (variableValue environment) (fun name => "env: " ++ name) table := by
  induction table generalizing layers with
  | nil => exact (Except.ok.inj h).symm
  | cons entry table ih =>
    obtain ⟨first, hfirst, hrest⟩ := Fallible.exists_of_bind_eq_ok h
    obtain ⟨others, hothers, hdone⟩ := Fallible.exists_of_bind_eq_ok hrest
    rw [tableLayers_cons, ← ih hothers, ← environmentLayer_eq_ok hfirst]
    exact (Except.ok.inj hdone).symm

/-- The fields of a connection URL supply the settings that have their names. -/
theorem get?_filterMap_ofText? (fields : List (String × Value)) (key : SettingKey) :
    Entries.get? key (fields.filterMap fun (name, v) => (SettingKey.ofText? name).map (·, v)) =
      Entries.get? key.text fields := by
  induction fields with
  | nil => rfl
  | cons field fields ih =>
    obtain ⟨name, v⟩ := field
    cases hname : SettingKey.ofText? name with
    | none =>
      have hne : name ≠ key.text := by
        rintro rfl
        rw [SettingKey.ofText?_eq_some.mpr rfl] at hname
        cases hname
      rw [List.filterMap_cons_none (by simp [hname]), ih, Entries.get?, if_neg hne]
    | some k =>
      obtain rfl := SettingKey.ofText?_eq_some.mp hname
      rw [List.filterMap_cons_some (b := (k, v)) (by simp [hname]), Entries.get?, Entries.get?, ih]
      simp [SettingKey.text_injective.eq_iff]

theorem settle_urlLayer (settings : FileSettings) {o : Overrides} {layers : List Layer}
    (h : urlLayer o.url = .ok layers) (key : SettingKey) :
    settle layers key = Origin.url.supply settings o key := by
  unfold urlLayer at h
  rw [Origin.supply]
  cases hurl : nonEmpty o.url with
  | none =>
    rw [hurl] at h
    obtain rfl := Except.ok.inj h
    rfl
  | some url =>
    rw [hurl] at h
    obtain ⟨fields, hfields, hdone⟩ := Fallible.exists_of_bind_eq_ok h
    obtain rfl := Except.ok.inj hdone
    rw [settle_singleton, get?_filterMap_ofText?, Option.bind_some, hfields]
    rfl

/-- Entries made of keys have a value for these keys. -/
theorem get?_map_key {α β γ : Type} [DecidableEq β] {f : α → β} (hf : Function.Injective f)
    (g : α → γ) (a : α) [DecidableEq α] (keys : List α) :
    Entries.get? (f a) (keys.map fun k => (f k, g k)) = if a ∈ keys then some (g a) else none := by
  induction keys with
  | nil => rfl
  | cons k keys ih =>
    rw [List.map_cons, Entries.get?, ih]
    by_cases hk : k = a
    · subst hk
      simp
    · simp [hf.ne hk, Ne.symm hk]

theorem settle_profileLayer (name : String) (p : Profile) (key : SettingKey) :
    settle [profileLayer name p] key =
      if key ∈ Profile.keys ∧ p.given.contains key.text = true then
        some (p.settings.value key, "profile: " ++ name)
      else none := by
  have hvalue := get?_map_key Function.injective_id p.settings.value key
    (Profile.keys.filter fun key => p.given.contains key.text)
  rw [settle_singleton]
  refine (congrArg (Option.map _) hvalue).trans ?_
  simp only [List.mem_filter]
  split <;> rfl

theorem settle_chosenLayer {settings : FileSettings} {o : Overrides} {name : Option String}
    (h : chosenProfile settings o = .ok name) (key : SettingKey) :
    settle (chosenLayer settings name) key = Origin.profile.supply settings o key := by
  have hjoin : (chosenProfile settings o).toOption.join = name := by rw [h]; rfl
  rw [Origin.supply, chosenLayer, chosen, hjoin]
  cases nonEmpty name with
  | none => rfl
  | some name =>
    rw [Option.bind_some, Option.bind_some]
    cases Entries.get? name settings.profiles with
    | none => rfl
    | some p => exact settle_profileLayer name p key

theorem settle_fileLayer {settings : FileSettings} {o : Overrides} (key : SettingKey) :
    settle [fileLayer settings] key = Origin.file.supply settings o key := by
  rw [settle_singleton, Origin.supply]
  refine congrArg (Option.map _) ?_
  unfold fileLayer
  by_cases htimeout : settings.timeout.same (Binary.ofInt 30) = true <;>
    by_cases hformat : settings.format = "table" <;> cases key <;>
      simp [htimeout, hformat, Entries.get?, fileValue]

theorem settle_defaultLayer {settings : FileSettings} {o : Overrides} (key : SettingKey) :
    settle [defaultLayer] key = Origin.builtIn.supply settings o key := by
  rw [settle_singleton]
  have hvalue := get?_map_key Function.injective_id (({} : Settings).value) key SettingKey.all
  rw [if_pos (SettingKey.mem_all key)] at hvalue
  exact congrArg _ hvalue

theorem findSome?_cons_or {α β : Type} (f : α → Option β) (a : α) (as : List α) :
    (a :: as).findSome? f = (f a).or (as.findSome? f) := by
  rw [List.findSome?_cons]
  cases f a <;> rfl

/-- Seen from one setting, the layers are the sources, the strongest first. -/
theorem settle_layers {settings : FileSettings} {o : Overrides} {name : Option String}
    {all : List Layer} (h : layers settings o = .ok (name, all)) (key : SettingKey) :
    settle all key = Origin.order.findSome? (Origin.supply settings o key) := by
  obtain ⟨chosenName, hname, hrest⟩ := Fallible.exists_of_bind_eq_ok h
  obtain ⟨environment, henvironment, hrest⟩ := Fallible.exists_of_bind_eq_ok hrest
  obtain ⟨url, hurl, hdone⟩ := Fallible.exists_of_bind_eq_ok hrest
  obtain ⟨rfl, rfl⟩ := Prod.mk.inj (Except.ok.inj hdone)
  have hfirst : settle [defaultLayer, fileLayer settings] key =
      (Origin.file.supply settings o key).or (Origin.builtIn.supply settings o key) := by
    rw [← settle_fileLayer, ← settle_defaultLayer, ← settle_append]
    rfl
  rw [settle_append, settle_append, settle_append, settle_append, hfirst,
    settle_chosenLayer hname, settle_urlLayer settings hurl,
    environmentLayers_eq_ok henvironment,
    optionLayers_eq, settle_tableLayers _ _ (by decide), settle_tableLayers _ _ (by decide)]
  simp only [Origin.order, findSome?_cons_or, List.findSome?_nil, Option.or_none]
  rfl

theorem settled_eq {layers : List Layer} {pick : SettingKey → Value × String}
    (h : ∀ key, settle layers key = some (pick key)) :
    settled layers = SettingKey.all.map fun key => (key, pick key) := by
  have hpick : (fun key => (settle layers key).map (key, ·)) =
      some ∘ fun key => (key, pick key) := funext fun key => by rw [h]; rfl
  rw [settled, hpick, List.filterMap_eq_map]

end Resolution

/-! ### The settings -/

namespace Settings

variable {file : FileSettings} {o : Overrides} {s : Settings}

/-- What settings are read from: a value for each, the chosen profile, and the names of the
sources. -/
def suppliedFields (pick : SettingKey → Value × String) (profile : Option String) : Given :=
  SettingKey.all.map (fun key => (key.text, (pick key).1)) ++
    [ ("active_profile", .ofOption .text profile),
      ("sources", .ofFields (SettingKey.all.map fun key => (key.text, .text (pick key).2))) ]

theorem find_suppliedFields (pick : SettingKey → Value × String) (profile : Option String)
    (key : SettingKey) : find key.text (suppliedFields pick profile) = some (pick key).1 := by
  have hget := get?_map_key SettingKey.text_injective (fun key => (pick key).1) key SettingKey.all
  rw [if_pos (SettingKey.mem_all key)] at hget
  rw [find_eq_get?, suppliedFields, Entries.get?_append, hget]
  rfl

/-- A name that is none of a setting is looked for behind the settings. -/
theorem find_suppliedFields_of_ne (pick : SettingKey → Value × String) (profile : Option String)
    {name : String} (hname : ∀ key : SettingKey, key.text ≠ name) :
    find name (suppliedFields pick profile) =
      Entries.get? name
        [("active_profile", .ofOption .text profile),
          ("sources",
            .ofFields (SettingKey.all.map fun key => (key.text, .text (pick key).2)))] := by
  have hnone : Entries.get? name (SettingKey.all.map fun key => (key.text, (pick key).1)) =
      none := by
    refine Entries.get?_of_forall_ne fun entry hentry => ?_
    obtain ⟨key, -, rfl⟩ := List.mem_map.mp hentry
    exact hname key
  rw [find_eq_get?, suppliedFields, Entries.get?_append, hnone]
  rfl

/-- The names of the sources are read as they are. -/
theorem read_sources (pick : SettingKey → Value × String) :
    (tableOf Reader.text
      (.ofFields (SettingKey.all.map fun key => (key.text, .text (pick key).2)))).result =
      .ok (SettingKey.all.map fun key => (key.text, (pick key).2)) := by
  have htable := tableOf_ofFields (SettingKey.all.map fun key => (key.text, (pick key).2))
  rwa [List.map_map] at htable

/-- If all layers can be laid, settings are read from what the first source supplies for each. -/
theorem resolve_of_layers {name : Option String} {all : List Layer}
    (hlayers : layers file o = .ok (name, all)) :
    ∃ pick : SettingKey → Value × String,
      (∀ key, Origin.order.findSome? (Origin.supply file o key) = some (pick key)) ∧
      resolve file o = (read (suppliedFields pick name)).result := by
  have hsome : ∀ key, ∃ v, settle all key = some v := by
    intro key
    refine Option.isSome_iff_exists.mp ?_
    rw [settle_layers hlayers, List.findSome?_isSome_iff]
    exact ⟨.builtIn, by decide, rfl⟩
  obtain ⟨pick, hpick⟩ := Classical.skolem.mp hsome
  refine ⟨pick, fun key => (settle_layers hlayers key).symm.trans (hpick key), ?_⟩
  have hread : resolve file o = (read
      ((settled all).map (fun entry => (entry.1.text, entry.2.1)) ++
        [("active_profile", .ofOption .text name),
          ("sources", .ofFields ((settled all).map fun entry =>
            (entry.1.text, .text entry.2.2)))])).result := by
    unfold resolve
    rw [hlayers]
    rfl
  rw [hread, settled_eq hpick, List.map_map, List.map_map]
  rfl

/-- Settings that are resolved are read from what the first source supplies for each, and from the
names of these sources. -/
theorem resolve_eq_ok (h : resolve file o = .ok s) :
    ∃ pick : SettingKey → Value × String,
      (∀ key, Origin.order.findSome? (Origin.supply file o key) = some (pick key)) ∧
      (∀ key : SettingKey, key.coerce (pick key).1 = .ok (s.value key)) ∧
      s.sources = SettingKey.all.map fun key => (key.text, (pick key).2) := by
  obtain ⟨found, hlayers, -⟩ := Fallible.exists_of_bind_eq_ok h
  obtain ⟨pick, hpick, hread⟩ := resolve_of_layers hlayers
  obtain ⟨hvalues, hsources⟩ := read_eq_ok (hread.symm.trans h)
  refine ⟨pick, hpick, fun key => hvalues key _ (find_suppliedFields pick _ key), ?_⟩
  have htable := hsources _ (find_suppliedFields_of_ne pick _ SettingKey.text_ne_sources)
  exact Except.ok.inj (htable.symm.trans (read_sources pick))

theorem get?_sources {pick : SettingKey → Value × String}
    (h : s.sources = SettingKey.all.map fun key => (key.text, (pick key).2)) (key : SettingKey) :
    Entries.get? key.text s.sources = some (pick key).2 := by
  rw [h, get?_map_key SettingKey.text_injective (fun key => (pick key).2),
    if_pos (SettingKey.mem_all key)]

/-- A profile that was read supplies what it gives itself, or else what its own URL gives, as a
value of the type of the field. -/
theorem profile_supply {name : String} {p : Profile} {given : Given}
    (hchosen : chosen file o = some (name, p)) (hp : (Profile.read given).result = .ok p)
    (key : SettingKey) :
    (Profile.supplied? given key = none → Origin.profile.supply file o key = none) ∧
      ∀ v, Profile.supplied? given key = some v →
        ∃ u, Origin.profile.supply file o key = some (u, "profile: " ++ name) ∧
          key.coerce v = .ok u ∧ key.coerce u = .ok u := by
  obtain ⟨hgiven, hread⟩ := Profile.read_supplies hp key
  rw [Origin.supply, hchosen, Option.bind_some]
  constructor
  · intro hnone
    exact if_neg (by rw [hgiven, hnone]; simp)
  · intro v hv
    exact ⟨p.settings.value key, if_pos (hgiven.mpr (by rw [hv]; rfl)), hread v hv,
      p.settings.coerce_value key⟩

/-- **The first source that supplies a setting counts.** In settings that are resolved, each setting
has the value of the first source in the order that supplies it, brought to the type of its field.
The sources are told in a table with one entry for each setting, which names that source. What a
profile supplies is what it gives itself, or else what its own connection URL gives. And nothing
else has an influence: if in another resolution that source and those before it supply the same for
a setting, this has the same value and the same source there. -/
theorem resolve_by_precedence (h : resolve file o = .ok s) :
    (∀ key : SettingKey, ∃ origin v source, Origin.IsFirst file o key origin v source ∧
      key.coerce v = .ok (s.value key) ∧ Entries.get? key.text s.sources = some source) ∧
    s.sources.map Prod.fst = SettingKey.all.map SettingKey.text ∧
    (∀ name p given, chosen file o = some (name, p) → (Profile.read given).result = .ok p →
      ∀ key : SettingKey,
        (Profile.supplied? given key = none → Origin.profile.supply file o key = none) ∧
        ∀ v, Profile.supplied? given key = some v →
          ∃ u, Origin.profile.supply file o key = some (u, "profile: " ++ name) ∧
            key.coerce v = .ok u ∧ key.coerce u = .ok u) ∧
    ∀ file' o' s', resolve file' o' = .ok s' → ∀ (key : SettingKey) origin v source,
      Origin.IsFirst file o key origin v source →
      (∀ other ∈ origin :: origin.stronger,
        other.supply file' o' key = other.supply file o key) →
      s'.value key = s.value key ∧
        Entries.get? key.text s'.sources = Entries.get? key.text s.sources := by
  obtain ⟨pick, hpick, hvalue, hsources⟩ := resolve_eq_ok h
  refine ⟨fun key => ?_, ?_, fun name p given => profile_supply, ?_⟩
  · obtain ⟨origin, hfirst⟩ := Origin.exists_isFirst (hpick key)
    exact ⟨origin, _, _, hfirst, hvalue key, get?_sources hsources key⟩
  · rw [hsources, List.map_map]
    rfl
  · intro file' o' s' h' key origin v source hfirst hsame
    obtain ⟨pick', hpick', hvalue', hsources'⟩ := resolve_eq_ok h'
    have hfirst' : origin.IsFirst file' o' key v source :=
      hfirst.congr hsame
    have heq : pick' key = pick key := by
      rw [← Option.some.injEq, ← hpick, ← hpick', hfirst.findSome?, hfirst'.findSome?]
    rw [get?_sources hsources, get?_sources hsources', heq]
    have hcoerced := (heq ▸ hvalue' key).symm.trans (hvalue key)
    exact ⟨Except.ok.inj hcoerced, rfl⟩

/-- A file whose profile gives a host, and a URL of its own. -/
def layeredFile : FileSettings :=
  { format := "csv",
    profiles := [("dev",
      { url := some "postgresql://own@ownhost:5433/owndb",
        settings := { host := "given", port := 5433, database := "owndb", user := some "own" },
        given := ["dsn", "host", "port", "dbname", "user"] })] }

/-- Every source says something, but the option for the host is absent. -/
def layeredOverrides : Overrides where
  profile := some "dev"
  environment := [("PGUSER", "env")]
  url := some "postgres://urlhost?connect_timeout=3"
  options := [("host", .null), ("port", .text "6000")]

/-- Each of these settings comes from another source, and a text becomes a port. -/
theorem resolved_by_precedence :
    ∃ s, resolve layeredFile layeredOverrides = .ok s ∧
      (s.port, s.host, s.user, s.database, s.format) =
        (6000, "urlhost", some "env", "owndb", "csv") ∧
      (["port", "host", "user", "dbname", "default_format", "default_schema"].map fun name =>
        Entries.get? name s.sources) =
        [some "cli: --port", some "dsn", some "env: PGUSER", some "profile: dev", some "config",
          some "default"] ∧
      s.sources.map Prod.fst = SettingKey.all.map SettingKey.text ∧
      ∀ key : SettingKey, ∃ origin v source,
        Origin.IsFirst layeredFile layeredOverrides key origin v source ∧
          key.coerce v = .ok (s.value key) ∧ Entries.get? key.text s.sources = some source := by
  have hvalues : (resolve layeredFile layeredOverrides).toOption.map (fun s =>
      ((s.port, s.host, s.user, s.database, s.format),
        ["port", "host", "user", "dbname", "default_format", "default_schema"].map fun name =>
          Entries.get? name s.sources)) =
      some ((6000, "urlhost", some "env", "owndb", "csv"),
        [some "cli: --port", some "dsn", some "env: PGUSER", some "profile: dev", some "config",
          some "default"]) := by decide +kernel
  cases h : resolve layeredFile layeredOverrides with
  | error fault =>
    rw [h] at hvalues
    cases hvalues
  | ok s =>
    rw [h] at hvalues
    obtain ⟨hsettings, hsources⟩ := Prod.mk.inj (Option.some.inj hvalues)
    obtain ⟨hfirst, hnames, -, -⟩ := resolve_by_precedence h
    exact ⟨s, rfl, hsettings, hsources, hnames, hfirst⟩

end Settings

end ProcedureCall
