import ProcedureCall.Settings.ConnectionUrl
import ProcedureCall.Settings.Key

/-!
# The configuration file

A configuration file sets a few defaults and names profiles. A profile may hold a connection URL,
whose parts stand in for the fields that the profile does not give itself.
-/

namespace ProcedureCall

open Reader

/-- A named set of connection settings. -/
structure Profile where
  /-- The connection URL, if there is one. -/
  url : Option String
  /-- The settings, those that are not given having their defaults. -/
  settings : Settings
  /-- The names of the fields that were given, by the profile or by its URL. -/
  given : List String
  deriving Repr

namespace Profile

/-- The settings that a profile may give. -/
def keys : List SettingKey :=
  [ .host, .port, .database, .user, .password, .sslmode, .connectTimeout, .applicationName,
    .schema, .multipleResults ]

/-- The names of the fields of a profile. -/
def names : List String := "dsn" :: keys.map SettingKey.text

/-- The ways in which a connection can be secured. -/
def sslmodes : List String :=
  ["allow", "disable", "prefer", "require", "verify-ca", "verify-full"]

/-- What is wrong with the way in which a connection is secured, if anything. -/
def sslmodeFault? (mode : String) : Option String :=
  if sslmodes.contains mode then none
  else some ("Invalid sslmode: '" ++ mode ++ "'. Must be one of: " ++ ", ".intercalate sslmodes)

/-- What is wrong with a port, if anything. An integer with too many digits has no text. -/
def portFault? (port : Int) : Option String :=
  if 1 ≤ port ∧ port ≤ 65535 then none
  else
    let shown := Nat.toDigits 10 port.natAbs
    if Numeral.mostDigits < shown.length then
      some ("Exceeds the limit (4300 digits) for integer string conversion; " ++
        "use sys.set_int_max_str_digits() to increase the limit")
    else some ("Invalid port: " ++ String.ofList (Numeral.text port) ++ ". Must be 1-65535")

/-- The fields of a connection URL that may be a text or octets. -/
def urlFields (url : Value) : Except Fault (List (String × Value)) :=
  match url with
  | .text url => Settings.urlFields url
  | .octets .constant octets => .error (Settings.octetUrlFault octets)
  | .octets .buffer octets => .error (Settings.octetUrlFault octets)
  | _ => .error (.mishap .missingMember "not a text")

/-- The fields with those of the connection URL, if one is given. What the profile gives itself
comes first. A URL that is not of the right form is wrong with the profile as a whole. -/
def withUrl (given : Given) : Reading Given :=
  match (find "dsn" given).filter Value.isTruthy with
  | none => pure given
  | some url =>
    match urlFields url with
    | .ok fields =>
      pure (fields.foldl (fun given (name, v) => Entries.putNew name v given) given)
    | .error (.mishap .badValue message) => .wrong "value_error" ("Value error, " ++ message)
    | .error fault => ⟨.error fault⟩

/-- Reads the settings of a profile. -/
def readSettings (given : Given) : Reading Settings :=
  let d : Settings := {}
  (fun host port database user password sslmode connectTimeout applicationName schema
      multipleResults =>
    ({ host, port, database, user, password, sslmode, connectTimeout, applicationName, schema,
       multipleResults } : Settings)) <$>
    withDefault given "host" d.host text <*>
    withDefault given "port" d.port (fun v => (integer v).checked portFault?) <*>
    withDefault given "dbname" d.database text <*>
    withDefault given "user" d.user (optional text) <*>
    withDefault given "password" d.password (optional text) <*>
    withDefault given "sslmode" d.sslmode (fun v => (text v).checked sslmodeFault?) <*>
    withDefault given "connect_timeout" d.connectTimeout integer <*>
    withDefault given "application_name" d.applicationName text <*>
    withDefault given "default_schema" d.schema (optional text) <*>
    withDefault given "multiple_results" d.multipleResults (optional truth)

/-- Reads a profile. -/
def read (given : Given) : Reading Profile :=
  match (withUrl given).result with
  | .error fault => ⟨.error fault⟩
  | .ok given =>
    Profile.mk <$> withDefault given "dsn" none (optional text) <*> readSettings given <*>
      pure (names.filter fun name => (find name given).isSome)

/-- The fields of a profile. -/
def fields (p : Profile) : List (String × Value) :=
  ("dsn", .ofOption .text p.url) :: keys.map fun key => (key.text, p.settings.value key)

end Profile

/-- What a configuration file says. -/
structure FileSettings where
  /-- The seconds that a statement may take. -/
  timeout : Binary := Binary.ofInt 30
  /-- The format of reports. -/
  format : String := "table"
  /-- The profile that is chosen if nothing else is said. -/
  defaultProfile : Option String := none
  /-- The profiles. -/
  profiles : List (String × Profile) := []
  deriving Repr

namespace FileSettings

/-- Reads what a configuration file says. -/
def read (given : Given) : Reading FileSettings :=
  let d : FileSettings := {}
  FileSettings.mk <$> withDefault given "default_timeout" d.timeout number <*>
    withDefault given "default_format" d.format text <*>
    withDefault given "default_profile" d.defaultProfile (optional text) <*>
    withDefault given "profiles" d.profiles (tableOf (recordOf "PgProfile" Profile.read))

/-- The fields of what a configuration file says. -/
def fields (f : FileSettings) : List (String × Value) :=
  [ ("default_timeout", .float f.timeout), ("default_format", .text f.format),
    ("default_profile", .ofOption .text f.defaultProfile),
    ("profiles", .ofFields (f.profiles.map fun (name, p) => (name, .ofFields p.fields))) ]

end FileSettings

end ProcedureCall
