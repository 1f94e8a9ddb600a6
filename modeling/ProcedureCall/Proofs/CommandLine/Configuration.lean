import ProcedureCall.Proofs.Settings.Faults
import ProcedureCall.Proofs.Action
import ProcedureCall.CommandLine.Run
import ProcedureCall.Rehearsal.Server

/-!
# Configurations that cannot be used

A program that cannot tell its settings ends before it turns to the server. If what is wrong is told
as a fault of the configuration, it ends with the code for that; there are configurations with which
it ends with the code for a failure of no particular class (`Settings.Slips`).

## What is proved

* `configured_or_told_iff` — settings come out, or it is told what is wrong with the configuration,
  unless the file or what is said beside it slips; and the program ends accordingly.
-/

namespace ProcedureCall

open ProcedureCall.Action

namespace Settings

/-- The settings that a configuration file and what is said beside it come to. -/
def configured (file : ConfigFile) (o : Overrides) : Except Fault Settings := do
  resolve (← FileSettings.load file) o

/-- It is not told what is wrong with the configuration: the file slips, or it is loaded and what is
said beside it slips. -/
def Slips (file : ConfigFile) (o : Overrides) : Prop :=
  file.Slips ∨ ∃ settings, FileSettings.load file = .ok settings ∧ o.Slips settings

/-- Settings come out, or it is told what is wrong with the configuration. -/
def ConfiguredOrTold (file : ConfigFile) (o : Overrides) : Prop :=
  (∃ s, configured file o = .ok s) ∨
    ∃ fault, configured file o = .error fault ∧ fault.isConfiguration = true

variable {file : ConfigFile} {o : Overrides}

/-- **How a configuration ends.** Settings come out, or it is told what is wrong with the
configuration, unless it slips. -/
theorem configured_cases (file : ConfigFile) (ho : o.AreTyped) :
    (Slips file o ∧ ∃ kind message, configured file o = .error (.mishap kind message)) ∨
      (¬ Slips file o ∧ ConfiguredOrTold file o) := by
  unfold ConfiguredOrTold configured
  rcases FileSettings.load_cases file with
    ⟨hslips, kind, message, hload⟩ | ⟨hnot, ⟨settings, hload⟩ | ⟨fault, hload, htold⟩⟩
  · exact Or.inl ⟨Or.inl hslips, kind, message, by rw [hload]; rfl⟩
  · rw [hload]
    rcases resolve_cases settings ho with
      ⟨hslips, message, hresolve⟩ | ⟨hnone, ⟨s, hresolve⟩ | ⟨message, hresolve⟩⟩
    · exact Or.inl ⟨Or.inr ⟨settings, hload, hslips⟩, _, message, hresolve⟩
    all_goals
      have hsound : ¬ Slips file o := by
        rintro (hslips | ⟨others, hloaded, hslips⟩)
        · exact hnot hslips
        · obtain rfl := Except.ok.inj (hload.symm.trans hloaded)
          exact hnone hslips
    · exact Or.inr ⟨hsound, Or.inl ⟨s, hresolve⟩⟩
    · exact Or.inr ⟨hsound, Or.inr ⟨_, hresolve, rfl⟩⟩
  · refine Or.inr ⟨?_, Or.inr ⟨fault, by rw [hload]; rfl, htold⟩⟩
    rintro (hslips | ⟨settings, hloaded, -⟩)
    · exact hnot hslips
    · cases hload.symm.trans hloaded

/-- A mishap is no settings, and does not tell what is wrong with the configuration. -/
theorem not_configuredOrTold {kind : Mishap} {message : String}
    (h : configured file o = .error (.mishap kind message)) : ¬ ConfiguredOrTold file o := by
  rintro (⟨s, hs⟩ | ⟨fault, hfault, htold⟩)
  · cases h.symm.trans hs
  · obtain rfl := Except.error.inj (h.symm.trans hfault)
    cases htold

end Settings

namespace CommandLine

open Settings

/-- If it is told what is wrong with the configuration, the program ends with the code for that. -/
theorem code_ofFault_of_isConfiguration {fault : Fault} (h : fault.isConfiguration = true) :
    (Ending.ofFault fault).code = ExitCode.configError.number := by
  cases fault with
  | tool kind message =>
    cases kind with
    | config => rfl
    | _ => cases h
  | misconfigured => rfl
  | _ => cases h

/-- After a mishap the program ends with the code for a failure of no particular class. -/
theorem code_ofFault_mishap (kind : Mishap) (message : String) :
    (Ending.ofFault (.mishap kind message)).code = ExitCode.generalError.number := by
  cases kind <;> rfl

/-! ### What is asked for on a command line -/

theorem askedBy_ne_run {s : Scanned CommonOption} {key : CommonOption} {request : Request}
    (h : askedBy s key = some (some request)) (i : Invocation) : request ≠ .run i := by
  rintro rfl
  cases key with
  | port | width =>
    obtain ⟨_, -, hnone⟩ := Option.map_eq_some_iff.mp h
    cases hnone
  | format =>
    obtain ⟨_, -, hnone⟩ := Option.map_eq_some_iff.mp h
    cases hnone
  | config =>
    have hpath := Option.some.inj h
    split at hpath <;> cases hpath
  | _ => cases h

theorem askedByFirst_ne_run {s : Scanned CommonOption} {keys : List CommonOption}
    {request : Request} (h : askedByFirst s keys = some (some request)) (i : Invocation) :
    request ≠ .run i := by
  induction keys with
  | nil => cases h
  | cons key keys ih =>
    unfold askedByFirst at h
    split at h
    case h_1 => exact ih h
    case h_2 => exact askedBy_ne_run h i

/-- What an option asks for by itself is no command. -/
theorem asked_ne_run {s : Scanned CommonOption} {request : Request}
    (h : asked s = some (some request)) (i : Invocation) : request ≠ .run i := by
  unfold asked at h
  split at h
  case h_1 early hearly =>
    obtain rfl := Option.some.inj (Option.some.inj h)
    obtain ⟨⟨key, value⟩, -, hkey⟩ := List.exists_of_findSome?_eq_some hearly
    rintro rfl
    cases key <;> cases hkey
  case h_2 => exact askedByFirst_ne_run h i

/-- The settings that a command line gives as options are read from its options. -/
theorem exists_settingOptions {words : List String} {i : Invocation}
    (h : requestOf words = some (.run i)) : ∃ s port, i.options = settingOptions s port := by
  obtain ⟨s, -, h⟩ := Option.bind_eq_some_iff.mp h
  obtain ⟨known, hasked, h⟩ := Option.bind_eq_some_iff.mp h
  split at h
  case h_1 request => exact absurd (Option.some.inj h) (asked_ne_run hasked i)
  case h_2 =>
    obtain ⟨port, -, h⟩ := Option.bind_eq_some_iff.mp h
    obtain ⟨wishes, -, h⟩ := Option.bind_eq_some_iff.mp h
    unfold commandOf at h
    split at h
    case h_1 => cases h
    case h_2 name rest hwords =>
      split at h
      case h_1 =>
        obtain ⟨t, -, h⟩ := Option.bind_eq_some_iff.mp h
        exact absurd rfl (asked_ne_run (Option.join_eq_some_iff.mp h) i)
      case h_2 command hcommand =>
        obtain ⟨t, -, h⟩ := Option.bind_eq_some_iff.mp h
        split at h
        case isTrue => cases h
        case isFalse =>
          split at h
          case h_1 text htext =>
            obtain rfl := Request.run.inj (Option.some.inj h)
            exact ⟨s, port, rfl⟩
          case h_2 => cases h

/-- An option of a command line has a value of its setting. -/
theorem holds_of_mem_settingOptions {s : Scanned CommonOption} {port : Option Int} {name : String}
    {key : SettingKey} {v : Value} (hkey : (name, key) ∈ optionKeys)
    (h : (name, v) ∈ settingOptions s port) : key.Holds v := by
  unfold settingOptions at h
  rcases List.mem_append.mp h with h | hcursors
  rcases List.mem_append.mp h with htexts | hport
  · obtain ⟨⟨written, option⟩, hmem, hvalue⟩ := List.mem_filterMap.mp htexts
    obtain ⟨text, -, heq⟩ := Option.map_eq_some_iff.mp hvalue
    obtain ⟨rfl, rfl⟩ := Prod.mk.inj heq
    simp only [List.mem_cons, Prod.mk.injEq, List.not_mem_nil, or_false] at hmem
    rcases hmem with ⟨rfl, -⟩ | ⟨rfl, -⟩ | ⟨rfl, -⟩ | ⟨rfl, -⟩ | ⟨rfl, -⟩
    · obtain rfl : key = .host := by simpa [optionKeys] using hkey
      exact ⟨{ host := text }, rfl⟩
    · obtain rfl : key = .database := by simpa [optionKeys] using hkey
      exact ⟨{ database := text }, rfl⟩
    · obtain rfl : key = .user := by simpa [optionKeys] using hkey
      exact ⟨{ user := some text }, rfl⟩
    · obtain rfl : key = .password := by simpa [optionKeys] using hkey
      exact ⟨{ password := some text }, rfl⟩
    · obtain rfl : key = .schema := by simpa [optionKeys] using hkey
      exact ⟨{ schema := some text }, rfl⟩
  · obtain ⟨n, -, heq⟩ := Option.map_eq_some_iff.mp (Option.mem_toList.mp hport)
    obtain ⟨rfl, rfl⟩ := Prod.mk.inj heq
    obtain rfl : key = .port := by simpa [optionKeys] using hkey
    exact ⟨{ port := n }, rfl⟩
  · obtain ⟨b, -, heq⟩ := Option.map_eq_some_iff.mp (Option.mem_toList.mp hcursors)
    obtain ⟨rfl, rfl⟩ := Prod.mk.inj heq
    obtain rfl : key = .multipleResults := by simpa [optionKeys] using hkey
    exact ⟨{ multipleResults := some b }, rfl⟩

/-! ### How an invocation ends without settings -/

/-- What is said on a command line and in the environment beside the configuration file. -/
def overridesOf (s : Surroundings) (i : Invocation) : Overrides where
  profile := i.profile
  environment := s.environment
  url := i.url
  options := i.options

/-- The configuration file of an invocation. -/
def configFileOf (s : Surroundings) (i : Invocation) : ConfigFile :=
  let path := Path.ofText (i.configPath.getD s.configPath)
  ⟨path.text, s.fileAt path⟩

theorem settingsOf_eq (s : Surroundings) (i : Invocation) :
    settingsOf s i = configured (configFileOf s i) (overridesOf s i) := rfl

/-- The options of a command line have the types that they are declared with. -/
theorem areTyped_overridesOf {words : List String} {i : Invocation}
    (h : requestOf words = some (.run i)) (s : Surroundings) : (overridesOf s i).AreTyped := by
  obtain ⟨scanned, port, hoptions⟩ := exists_settingOptions h
  rintro ⟨name, key⟩ hkey v hv
  have hv : Entries.get? name i.options = some v := hv
  rw [hoptions] at hv
  exact Or.inr (holds_of_mem_settingOptions hkey (Entries.mem_of_get? hv))

variable {σ : Type}

/-- Without settings nothing is done: the server is not turned to. -/
theorem run_gives_ofFault (server : Postgres.Server σ) {s : Surroundings} {words : List String}
    {i : Invocation} {fault : Fault} (hrequest : requestOf words = some (.run i))
    (hfault : settingsOf s i = .error fault) (w : Postgres.World σ) :
    (run server s words).Gives w (Ending.ofFault fault, i.verbose) w [] := by
  have hinvocation : (runInvocation server s i).Gives w (Ending.ofFault fault) w [] := by
    unfold runInvocation
    rw [hfault]
    rfl
  unfold run
  rw [hrequest]
  exact hinvocation.bind (pure_gives _ w)

/-- **A configuration that cannot be used is told.** For every configuration file and whatever is
said beside it, settings come out or it is told what is wrong with the configuration, unless it
slips: the file is one of those of `ConfigFile.Slips`, or it is loaded and the connection URL is not
of the right form. Then the fault is none of the configuration. A command line whose settings cannot
be told ends with the fault, without turning to the server, and with the code of a configuration
that cannot be used exactly if it does not slip. -/
theorem configured_or_told_iff (server : Postgres.Server σ) :
    (∀ (file : ConfigFile) (o : Overrides), o.AreTyped →
      (ConfiguredOrTold file o ↔ ¬ Slips file o) ∧
        (Slips file o → ∃ kind message, configured file o = .error (.mishap kind message))) ∧
    ∀ (s : Surroundings) (words : List String) (i : Invocation),
      requestOf words = some (.run i) →
        settingsOf s i = configured (configFileOf s i) (overridesOf s i) ∧
        ∀ fault, settingsOf s i = .error fault →
          (∀ w, (run server s words).Gives w (Ending.ofFault fault, i.verbose) w []) ∧
            ((Ending.ofFault fault).code = ExitCode.configError.number ↔
              ¬ Slips (configFileOf s i) (overridesOf s i)) := by
  constructor
  · intro file o ho
    rcases configured_cases file ho with ⟨hslips, kind, message, hfails⟩ | ⟨hnot, hends⟩
    · exact ⟨⟨fun htold => absurd htold (not_configuredOrTold hfails),
        fun hnot => absurd hslips hnot⟩, fun _ => ⟨kind, message, hfails⟩⟩
    · exact ⟨⟨fun _ => hnot, fun _ => hends⟩, fun hslips => absurd hslips hnot⟩
  · intro s words i hrequest
    refine ⟨settingsOf_eq s i, fun fault hfault => ⟨run_gives_ofFault server hrequest hfault, ?_⟩⟩
    rw [settingsOf_eq] at hfault
    rcases configured_cases (configFileOf s i) (areTyped_overridesOf hrequest s) with
      ⟨hslips, kind, message, hfails⟩ | ⟨hnot, ⟨settings, hsettings⟩ | ⟨told, htold, hconfig⟩⟩
    · obtain rfl := Except.error.inj (hfault.symm.trans hfails)
      rw [code_ofFault_mishap]
      exact ⟨fun h => absurd h (by decide), fun hnot => absurd hslips hnot⟩
    · cases hfault.symm.trans hsettings
    · obtain rfl := Except.error.inj (hfault.symm.trans htold)
      exact ⟨fun _ => hnot, fun _ => code_ofFault_of_isConfiguration hconfig⟩

/-- Surroundings without a configuration file. -/
def bareSurroundings : Surroundings := { fileAt := fun _ => .missing, configPath := "" }

/-- The invocation that resolves `p` with a connection URL and a port. -/
def resolvingAt (url : String) (port : Int) : Invocation where
  verbose := false
  configPath := none
  profile := none
  url := some url
  options := [("port", .int port)]
  wishes := {}
  command := .resolve
  text := "p"
  arguments := []

/-- A connection URL of another scheme is told. -/
theorem other_scheme_is_told :
    requestOf ["--port", "6000", "--dsn", "mysql://db/x", "resolve", "p"] =
        some (.run (resolvingAt "mysql://db/x" 6000)) ∧
      (overridesOf bareSurroundings (resolvingAt "mysql://db/x" 6000)).AreTyped ∧
      settingsOf bareSurroundings (resolvingAt "mysql://db/x" 6000) =
        .error (Settings.wrongScheme "mysql") ∧
      ¬ Slips (configFileOf bareSurroundings (resolvingAt "mysql://db/x" 6000))
        (overridesOf bareSurroundings (resolvingAt "mysql://db/x" 6000)) ∧
      (Ending.ofFault (Settings.wrongScheme "mysql")).code = ExitCode.configError.number := by
  have hrequest : requestOf ["--port", "6000", "--dsn", "mysql://db/x", "resolve", "p"] =
      some (.run (resolvingAt "mysql://db/x" 6000)) := rfl
  have htyped := areTyped_overridesOf hrequest bareSurroundings
  have hfault : settingsOf bareSurroundings (resolvingAt "mysql://db/x" 6000) =
      .error (Settings.wrongScheme "mysql") := rfl
  obtain ⟨hconfigured, hprogram⟩ := configured_or_told_iff (Rehearsal.ServerScript.server {})
  obtain ⟨heq, hends⟩ := hprogram bareSurroundings _ _ hrequest
  have hsound := (hconfigured _ _ htyped).1.mp (Or.inr ⟨_, heq.symm.trans hfault, rfl⟩)
  exact ⟨hrequest, htyped, hfault, hsound, (hends _ hfault).2.mpr hsound⟩

/-- A port that is no number in a connection URL is not told, and the program ends with another
code. A file that is no text is not told either. -/
theorem unreadable_port_is_not_told :
    ¬ ConfiguredOrTold ⟨"", .missing⟩ { url := some "postgresql://db:abc/x" } ∧
      (∀ w, (run (Rehearsal.ServerScript.server {}) bareSurroundings
          ["--port", "6000", "--dsn", "postgresql://db:abc/x", "resolve", "p"]).Gives w
        ({ code := 1, errors := "Error: Port could not be cast to integer value as 'abc'\n" },
          false) w []) ∧
      ¬ ConfiguredOrTold ⟨"", .content [0xff]⟩ {} := by
  have hending : Ending.ofFault
      (.mishap .badValue "Port could not be cast to integer value as 'abc'") =
        { code := 1, errors := "Error: Port could not be cast to integer value as 'abc'\n" } := by
    decide +kernel
  refine ⟨not_configuredOrTold rfl, fun w => ?_, not_configuredOrTold rfl⟩
  rw [← hending]
  exact run_gives_ofFault _ (i := resolvingAt "postgresql://db:abc/x" 6000) rfl rfl w

end CommandLine

end ProcedureCall
