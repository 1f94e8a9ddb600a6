import ProcedureCall.Settings.Path
import ProcedureCall.Settings.Profile
import ProcedureCall.Text.Quoted
import ProcedureCall.Toml.Document

/-!
# Resolving settings

Every source of settings is a layer, and of the layers that supply a setting the last one counts:
defaults, the configuration file, the chosen profile, the environment, a connection URL, the options
of the command line.
-/

namespace ProcedureCall

/-- A configuration file: where it is, and what is found there. -/
structure ConfigFile where
  /-- The path as it is shown. -/
  path : String
  /-- What the path leads to. -/
  state : FileState

/-- The fault of a path that the system refuses to read. -/
def ConfigFile.refused (file : ConfigFile) (code : Nat) (words : String) : Fault :=
  .mishap .system <| String.ofList <|
    "[Errno ".toList ++ Nat.toDigits 10 code ++ "] ".toList ++ words.toList ++ ": ".toList ++
      Text.quoted file.path.toList

/-- Reads a configuration file. One that does not exist says nothing. -/
def FileSettings.load (file : ConfigFile) : Except Fault FileSettings :=
  match file.state with
  | .missing => .ok {}
  | .directory => .error (file.refused 21 "Is a directory")
  | .nameTooLong => .error (file.refused 36 "File name too long")
  | .content octets =>
    match Text.ofOctets? octets with
    | none => .error (.mishap .badValue "the configuration file is not encoded in UTF-8")
    | some text =>
      match Toml.document text with
      | .error .malformed => .error (.misconfigured file.path .malformed)
      | .error (.tooLong digits) =>
        .error (.mishap .badValue (Numeral.Refusal.message text (.tooLong digits)))
      | .ok members =>
        match (FileSettings.read members).result with
        | .ok settings => .ok settings
        | .error (.invalid details) => .error (.misconfigured file.path (.details details))
        | .error (.tool .config message) => .error (.misconfigured file.path (.message message))
        | .error fault => .error fault

/-- A source of settings, and what it supplies. -/
structure Layer where
  /-- The name of the source. -/
  source : String
  /-- The settings that it supplies. -/
  values : List (SettingKey × Value)
  deriving Repr

/-- The environment variables and the settings that they supply. -/
def environmentKeys : List (String × SettingKey) :=
  [ ("PGHOST", .host), ("PGPORT", .port), ("PGDATABASE", .database), ("PGUSER", .user),
    ("PGPASSWORD", .password) ]

/-- The environment variable that chooses a profile. -/
def profileVariable : String := "PROC_TOOL_PROFILE"

/-- The options and the settings that they supply. -/
def optionKeys : List (String × SettingKey) :=
  [ ("host", .host), ("port", .port), ("database", .database), ("user", .user),
    ("password", .password), ("sslmode", .sslmode), ("timeout", .timeout), ("schema", .schema),
    ("multiple_results", .multipleResults) ]

/-- What is said beside the configuration file. -/
structure Overrides where
  /-- The profile that was asked for. -/
  profile : Option String := none
  /-- The environment variables. -/
  environment : List (String × String) := []
  /-- The connection URL. -/
  url : Option String := none
  /-- The options of the command line. -/
  options : List (String × Value) := []

namespace Resolution

/-- A text that is not empty. -/
def nonEmpty (s : Option String) : Option String := s.filter (!·.isEmpty)

/-- The profile that is chosen: the one asked for, the one of the environment, or the one of the
file. It must be one of the file's. -/
def chosenProfile (file : FileSettings) (o : Overrides) : Except Fault (Option String) :=
  let name := nonEmpty o.profile <|> nonEmpty (Entries.get? profileVariable o.environment) <|>
    file.defaultProfile
  match nonEmpty name with
  | none => .ok name
  | some wanted =>
    if (Entries.get? wanted file.profiles).isSome then .ok name
    else
      let available :=
        if file.profiles.isEmpty then "none"
        else ", ".intercalate (sortTexts (file.profiles.map (·.1)))
      .error (.tool .config
        ("Unknown profile: '" ++ wanted ++ "'. Available profiles: " ++ available))

/-- The defaults. -/
def defaultLayer : Layer :=
  ⟨"default", SettingKey.all.map fun key => (key, ({} : Settings).value key)⟩

/-- What the file sets for every profile, so far as it differs from the defaults. -/
def fileLayer (file : FileSettings) : Layer :=
  let d : FileSettings := {}
  ⟨"config",
    (if file.timeout.same d.timeout then [] else [(.timeout, .float file.timeout)]) ++
      (if file.format = d.format then [] else [(.format, .text file.format)])⟩

/-- What a profile gives. -/
def profileLayer (name : String) (p : Profile) : Layer :=
  ⟨"profile: " ++ name,
    (Profile.keys.filter fun key => p.given.contains key.text).map fun key =>
      (key, p.settings.value key)⟩

/-- The layer of the chosen profile, if one is chosen. -/
def chosenLayer (file : FileSettings) (name : Option String) : List Layer :=
  ((nonEmpty name).bind fun name =>
    (Entries.get? name file.profiles).map (profileLayer name)).toList

/-- What an environment variable supplies. -/
def environmentLayer (environment : List (String × String)) (name : String) (key : SettingKey) :
    Except Fault (List Layer) :=
  match Entries.get? name environment with
  | none => .ok []
  | some s =>
    if key = .port then
      match Numeral.lenient? s.toList with
      | some port => .ok [⟨"env: " ++ name, [(key, .int port)]⟩]
      | none =>
        .error (.tool .config
          ("Invalid " ++ name ++ " value: '" ++ s ++ "'. Must be an integer"))
    else .ok [⟨"env: " ++ name, [(key, .text s)]⟩]

/-- What the environment supplies. -/
def environmentLayers (environment : List (String × String)) :
    List (String × SettingKey) → Except Fault (List Layer)
  | [] => .ok []
  | (name, key) :: rest => do
    let first ← environmentLayer environment name key
    let others ← environmentLayers environment rest
    pure (first ++ others)

/-- What a connection URL supplies. -/
def urlLayer (url : Option String) : Except Fault (List Layer) :=
  match nonEmpty url with
  | none => .ok []
  | some url => do
    let fields ← Settings.urlFields url
    pure [⟨"dsn", fields.filterMap fun (name, v) => (SettingKey.ofText? name).map (·, v)⟩]

/-- The name of an option as it is written. -/
def optionText (name : String) : String :=
  "--" ++ String.ofList (name.toList.map fun c => if c = '_' then '-' else c)

/-- What the options supply. -/
def optionLayers (options : List (String × Value)) : List Layer :=
  optionKeys.filterMap fun (name, key) =>
    ((Entries.get? name options).filter fun v => !v.isNull).map fun v =>
      ⟨"cli: " ++ optionText name, [(key, v)]⟩

/-- All layers, the weakest first, and the profile that was chosen. -/
def layers (file : FileSettings) (o : Overrides) : Except Fault (Option String × List Layer) := do
  let profile ← chosenProfile file o
  let environment ← environmentLayers o.environment environmentKeys
  let url ← urlLayer o.url
  pure (profile, [defaultLayer, fileLayer file] ++ chosenLayer file profile ++ environment ++ url ++
    optionLayers o.options)

/-- The value of a setting and the name of its source: those of the last layer that supplies it. -/
def settle (layers : List Layer) (key : SettingKey) : Option (Value × String) :=
  layers.reverse.findSome? fun layer => (Entries.get? key layer.values).map (·, layer.source)

/-- Every setting that is supplied, with its value and its source. -/
def settled (layers : List Layer) : List (SettingKey × Value × String) :=
  SettingKey.all.filterMap fun key => (settle layers key).map (key, ·)

end Resolution

/-- The settings of a run. -/
def Settings.resolve (file : FileSettings) (o : Overrides) : Except Fault Settings := do
  let (profile, layers) ← Resolution.layers file o
  let settled := Resolution.settled layers
  let sources := settled.map fun (key, _, source) => (key.text, Value.text source)
  (Settings.read
    (settled.map (fun (key, v, _) => (key.text, v)) ++
      [("active_profile", .ofOption .text profile), ("sources", .ofFields sources)])).result

end ProcedureCall
