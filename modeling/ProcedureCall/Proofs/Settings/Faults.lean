import ProcedureCall.Proofs.Settings.Stops
import ProcedureCall.Proofs.Settings.Supplies

/-!
# When settings cannot be told

Loading a configuration file and resolving settings end with settings, or with a fault that tells
what is wrong with the configuration (`Fault.isConfiguration`), or with a fault of another kind.
When the last is the case is said in the terms of the file (`ConfigFile.Slips`) and of what is said
beside it (`Overrides.Slips`). Everything else is covered: the document is read part by part and
each wrong part is told, and every source supplies its settings as values of the right types.

## What is proved

* `FileSettings.load_cases` — how loading ends.
* `Settings.resolve_cases` — how resolving ends, if the options have the types that they are
  declared with.
-/

namespace ProcedureCall

open Reader Resolution

/-- Does the fault tell what is wrong with the configuration? -/
def Fault.isConfiguration : Fault → Bool
  | tool .config _ => true
  | misconfigured .. => true
  | _ => false

/-! ### Loading -/

/-- Of the profiles whose connection URL is no text or of the wrong scheme, the first has one that
is no text. -/
def FileSettings.StrayUrl (members : Given) : Prop :=
  FileSettings.stop? members = some (.mishap .missingMember "not a text")

/-- Loading a configuration file fails without telling what is wrong with it. -/
def ConfigFile.Slips (file : ConfigFile) : Prop :=
  match file.state with
  | .missing => False
  -- the system does not give its octets
  | .directory | .nameTooLong => True
  | .content octets =>
    match Text.ofOctets? octets with
    -- the octets are no text
    | none => True
    | some text =>
      match Toml.document text with
      | .error .malformed => False
      -- an integer in it has too many digits
      | .error (.tooLong _) => True
      | .ok members => FileSettings.StrayUrl members

namespace FileSettings

/-- The fault of a profile that ends the reading of a file is told, or its connection URL is no
text. -/
theorem stop?_eq_some {members : Given} {fault : Fault} (h : stop? members = some fault) :
    (∃ scheme, fault = Settings.wrongScheme scheme) ∨
      fault = .mishap .missingMember "not a text" := by
  unfold stop? at h
  split at h
  case h_2 => cases h
  case h_1 entries hentries =>
    obtain ⟨before, entry, after, -, hentry, -⟩ := List.findSome?_eq_some_iff.mp h
    obtain ⟨url, -, hurl⟩ := Option.bind_eq_some_iff.mp hentry
    split at hurl
    case h_1 => cases hurl
    case h_2 => cases hurl
    case h_3 other hne hfields =>
      obtain rfl := Option.some.inj hurl
      rcases Profile.urlFields_eq_error hfields with ⟨message, rfl⟩ | hscheme | hstray
      · exact absurd rfl (hne message)
      · exact Or.inl hscheme
      · exact Or.inr hstray

/-- What is read is what is loaded, unless a connection URL ends the reading. -/
theorem read_cases (members : Given) :
    (StrayUrl members ∧ (read members).result = .error (.mishap .missingMember "not a text")) ∨
      (¬ StrayUrl members ∧ ((∃ settings, (read members).result = .ok settings) ∨
        (∃ details, (read members).result = .error (.invalid details)) ∨
        ∃ message, (read members).result = .error (.tool .config message))) := by
  unfold StrayUrl
  rw [← stop?_read]
  rcases (read members).result_cases with ⟨settings, hok⟩ | ⟨ds, hinvalid⟩ | ⟨fault, herror, hstop⟩
  · exact Or.inr ⟨by simp [Reading.stop?, hok], Or.inl ⟨settings, hok⟩⟩
  · exact Or.inr ⟨by simp [Reading.stop?, hinvalid], Or.inr (Or.inl ⟨ds, hinvalid⟩)⟩
  · rw [hstop, herror]
    rw [stop?_read] at hstop
    rcases stop?_eq_some hstop with ⟨scheme, rfl⟩ | rfl
    · exact Or.inr ⟨by simp [Settings.wrongScheme], Or.inr (Or.inr ⟨_, rfl⟩)⟩
    · exact Or.inl ⟨rfl, rfl⟩

/-- **How loading ends.** A configuration file is loaded, or it is told what is wrong with it,
unless it slips. -/
theorem load_cases (file : ConfigFile) :
    (file.Slips ∧ ∃ kind message, load file = .error (.mishap kind message)) ∨
      (¬ file.Slips ∧ ((∃ settings, load file = .ok settings) ∨
        ∃ fault, load file = .error fault ∧ fault.isConfiguration = true)) := by
  obtain ⟨path, state⟩ := file
  unfold ConfigFile.Slips load
  cases state with
  | missing => exact Or.inr ⟨id, Or.inl ⟨_, rfl⟩⟩
  | directory | nameTooLong => exact Or.inl ⟨trivial, _, _, rfl⟩
  | content octets =>
    dsimp only
    cases Text.ofOctets? octets with
    | none => exact Or.inl ⟨trivial, _, _, rfl⟩
    | some text =>
      dsimp only
      cases Toml.document text with
      | error refusal =>
        cases refusal with
        | malformed => exact Or.inr ⟨id, Or.inr ⟨_, rfl, rfl⟩⟩
        | tooLong digits => exact Or.inl ⟨trivial, _, _, rfl⟩
      | ok members =>
        rcases read_cases members with
          ⟨hstray, hread⟩ | ⟨hnot, ⟨settings, hread⟩ | ⟨details, hread⟩ | ⟨message, hread⟩⟩
        · exact Or.inl ⟨hstray, _, _, by dsimp only; rw [hread]⟩
        · exact Or.inr ⟨hnot, Or.inl ⟨settings, by dsimp only; rw [hread]⟩⟩
        · exact Or.inr ⟨hnot, Or.inr ⟨_, by dsimp only; rw [hread], rfl⟩⟩
        · exact Or.inr ⟨hnot, Or.inr ⟨_, by dsimp only; rw [hread], rfl⟩⟩

end FileSettings

/-! ### Resolving -/

/-- Resolving fails without telling what is wrong with the configuration: all that is heard before
the connection URL is in order, and the connection URL is not of the right form. -/
def Overrides.Slips (file : FileSettings) (o : Overrides) : Prop :=
  (∃ name, chosenProfile file o = .ok name) ∧
    (∀ s, Entries.get? "PGPORT" o.environment = some s →
      ∃ port, Numeral.lenient? s.toList = some port) ∧
    ∃ url, nonEmpty o.url = some url ∧ Settings.IsMalformed url

namespace Resolution

/-- A profile is chosen, or it is told that there is none of that name. -/
theorem chosenProfile_cases (file : FileSettings) (o : Overrides) :
    (∃ name, chosenProfile file o = .ok name) ∨
      ∃ message, chosenProfile file o = .error (.tool .config message) := by
  unfold chosenProfile
  dsimp only
  split
  · exact Or.inl ⟨_, rfl⟩
  · split
    · exact Or.inl ⟨_, rfl⟩
    · exact Or.inr ⟨_, rfl⟩

/-- A variable supplies its setting, or it is told that a port is no integer. -/
theorem environmentLayer_cases (environment : List (String × String)) (name : String)
    (key : SettingKey) :
    ((key = .port → ∀ s, Entries.get? name environment = some s →
        ∃ port, Numeral.lenient? s.toList = some port) ∧
      ∃ layers, environmentLayer environment name key = .ok layers) ∨
    ((key = .port ∧ ∃ s, Entries.get? name environment = some s ∧
        Numeral.lenient? s.toList = none) ∧
      ∃ message, environmentLayer environment name key = .error (.tool .config message)) := by
  unfold environmentLayer
  cases hget : Entries.get? name environment with
  | none => exact Or.inl ⟨fun _ s hs => (by cases hs), _, rfl⟩
  | some s =>
    by_cases hport : key = .port
    case neg =>
      refine Or.inl ⟨fun h => absurd h hport, ?_⟩
      dsimp only
      rw [if_neg hport]
      exact ⟨_, rfl⟩
    dsimp only
    rw [if_pos hport]
    cases hread : Numeral.lenient? s.toList with
    | some port =>
      refine Or.inl ⟨fun _ s' hs => ?_, _, rfl⟩
      obtain rfl := Option.some.inj hs
      exact ⟨port, hread⟩
    | none => exact Or.inr ⟨⟨hport, s, rfl, hread⟩, _, rfl⟩

/-- The environment supplies its settings, or it is told that a port is no integer. -/
theorem environmentLayers_cases (environment : List (String × String))
    (table : List (String × SettingKey)) :
    ((∀ name, (name, SettingKey.port) ∈ table → ∀ s, Entries.get? name environment = some s →
        ∃ port, Numeral.lenient? s.toList = some port) ∧
      ∃ layers, environmentLayers environment table = .ok layers) ∨
    ((∃ name, (name, SettingKey.port) ∈ table ∧ ∃ s, Entries.get? name environment = some s ∧
        Numeral.lenient? s.toList = none) ∧
      ∃ message, environmentLayers environment table = .error (.tool .config message)) := by
  induction table with
  | nil => exact Or.inl ⟨fun _ h => (List.not_mem_nil h).elim, [], rfl⟩
  | cons entry table ih =>
    obtain ⟨name, key⟩ := entry
    unfold environmentLayers
    rcases environmentLayer_cases environment name key with
      ⟨hfirst, first, hok⟩ | ⟨⟨rfl, hfirst⟩, message, herror⟩
    case inr => exact Or.inr ⟨⟨name, List.mem_cons_self, hfirst⟩, message, by rw [herror]; rfl⟩
    rw [hok]
    rcases ih with ⟨hothers, others, hrest⟩ | ⟨⟨other, hmem, hother⟩, message, hrest⟩
    · refine Or.inl ⟨fun name' hmem => ?_, _, by rw [hrest]; rfl⟩
      rcases List.mem_cons.mp hmem with heq | hmem
      · obtain ⟨rfl, rfl⟩ := Prod.mk.inj heq
        exact hfirst rfl
      · exact hothers name' hmem
    · exact Or.inr ⟨⟨other, List.mem_cons_of_mem _ hmem, hother⟩, message, by rw [hrest]; rfl⟩

/-- The layers can be laid, or it is told why they cannot be, unless resolving slips. -/
theorem layers_cases (file : FileSettings) (o : Overrides) :
    (o.Slips file ∧ ∃ message, layers file o = .error (.mishap .badValue message)) ∨
      (¬ o.Slips file ∧ ((∃ found, layers file o = .ok found) ∨
        ∃ message, layers file o = .error (.tool .config message))) := by
  unfold layers
  rcases chosenProfile_cases file o with ⟨name, hname⟩ | ⟨message, hname⟩
  case inr =>
    refine Or.inr ⟨?_, Or.inr ⟨message, by rw [hname]; rfl⟩⟩
    rintro ⟨⟨name, hok⟩, -⟩
    cases hname.symm.trans hok
  rw [hname]
  rcases environmentLayers_cases o.environment environmentKeys with
    ⟨hports, environment, henvironment⟩ | ⟨⟨named, hmem, s, hs, hread⟩, message, henvironment⟩
  case inr =>
    refine Or.inr ⟨?_, Or.inr ⟨message, by rw [henvironment]; rfl⟩⟩
    rintro ⟨-, hports, -⟩
    obtain rfl : named = "PGPORT" := by simpa [environmentKeys] using hmem
    obtain ⟨port, hport⟩ := hports s hs
    cases hread.symm.trans hport
  rw [henvironment]
  unfold urlLayer
  cases hurl : nonEmpty o.url with
  | none =>
    refine Or.inr ⟨?_, Or.inl ⟨_, rfl⟩⟩
    rintro ⟨-, -, url, hsome, -⟩
    cases hurl.symm.trans hsome
  | some url =>
    have hsound : ¬ Settings.IsMalformed url → ¬ o.Slips file := by
      rintro hnot ⟨-, -, other, hother, hmalformed⟩
      obtain rfl := Option.some.inj (hurl.symm.trans hother)
      exact hnot hmalformed
    dsimp only
    rcases Settings.urlFields_cases url with
      ⟨hmalformed, message, hfails⟩ | ⟨hnot, scheme, hfails⟩ | ⟨hnot, fields, hgives⟩
    · have hport := hports "PGPORT" (by simp [environmentKeys])
      exact Or.inl ⟨⟨⟨name, hname⟩, hport, url, hurl, hmalformed⟩, message, by rw [hfails]; rfl⟩
    · exact Or.inr ⟨hsound hnot, Or.inr ⟨_, by rw [hfails]; rfl⟩⟩
    · exact Or.inr ⟨hsound hnot, Or.inl ⟨_, by rw [hgives]; rfl⟩⟩

end Resolution

namespace Settings

/-- If all layers can be laid, settings come out: every source supplies values of the right
types. -/
theorem resolve_succeeds {file : FileSettings} {o : Overrides} (ho : o.AreTyped)
    {name : Option String} {all : List Layer} (h : layers file o = .ok (name, all)) :
    ∃ s, resolve file o = .ok s := by
  obtain ⟨pick, hpick, hread⟩ := resolve_of_layers h
  rw [hread]
  refine read_succeeds (fun key v hv => ?_) ?_ ?_
  · obtain rfl := Option.some.inj ((find_suppliedFields pick name key).symm.trans hv)
    obtain ⟨origin, -, hsupply⟩ := List.exists_of_findSome?_eq_some (hpick key)
    exact ⟨_, (Origin.holds_supply ho hsupply).coerce⟩
  · exact ⟨name, (withDefault_eq_ok
      (find_suppliedFields_of_ne pick name SettingKey.text_ne_active_profile)).mpr
        (optional_ofOption (fun _ => rfl) text_text)⟩
  · exact ⟨_, (withDefault_eq_ok
      (find_suppliedFields_of_ne pick name SettingKey.text_ne_sources)).mpr
        (read_sources pick)⟩

/-- **How resolving ends.** If the options have the types that they are declared with, settings are
resolved, or it is told what is wrong with the configuration, unless resolving slips. -/
theorem resolve_cases (file : FileSettings) {o : Overrides} (ho : o.AreTyped) :
    (o.Slips file ∧ ∃ message, resolve file o = .error (.mishap .badValue message)) ∨
      (¬ o.Slips file ∧ ((∃ s, resolve file o = .ok s) ∨
        ∃ message, resolve file o = .error (.tool .config message))) := by
  rcases layers_cases file o with
    ⟨hslips, message, hlayers⟩ | ⟨hnot, ⟨⟨name, all⟩, hlayers⟩ | ⟨message, hlayers⟩⟩
  · exact Or.inl ⟨hslips, message, by rw [resolve, hlayers]; rfl⟩
  · exact Or.inr ⟨hnot, Or.inl (resolve_succeeds ho hlayers)⟩
  · exact Or.inr ⟨hnot, Or.inr ⟨message, by rw [resolve, hlayers]; rfl⟩⟩

end Settings

end ProcedureCall
