import ProcedureCall.Record.Parameter
import ProcedureCall.Settings.Basic

/-!
# Settings by name

Each setting has a name, by which the sources of settings supply it.
-/

namespace ProcedureCall

/-- A setting. -/
inductive SettingKey where
  /-- The host of the server. -/
  | host
  /-- The port of the server. -/
  | port
  /-- The database. -/
  | database
  /-- The user. -/
  | user
  /-- The password. -/
  | password
  /-- How the connection is secured. -/
  | sslmode
  /-- The seconds that connecting may take. -/
  | connectTimeout
  /-- The name that the program gives itself. -/
  | applicationName
  /-- The seconds that a statement may take. -/
  | timeout
  /-- The format of reports. -/
  | format
  /-- The schema in which names of one segment are looked up. -/
  | schema
  /-- Do cursors come back as result sets of their own? -/
  | multipleResults
  deriving DecidableEq, Repr

namespace SettingKey

/-- Every setting. -/
def all : List SettingKey :=
  [ host, port, database, user, password, sslmode, connectTimeout, applicationName, timeout, format,
    schema, multipleResults ]

/-- The name of a setting. -/
def text : SettingKey → String
  | host => "host"
  | port => "port"
  | database => "dbname"
  | user => "user"
  | password => "password"
  | sslmode => "sslmode"
  | connectTimeout => "connect_timeout"
  | applicationName => "application_name"
  | timeout => "default_timeout"
  | format => "default_format"
  | schema => "default_schema"
  | multipleResults => "multiple_results"

/-- The setting with a name. -/
def ofText? (s : String) : Option SettingKey := all.find? (·.text == s)

end SettingKey

namespace Settings

open Reader

/-- The value of a setting. -/
def value (s : Settings) : SettingKey → Value
  | .host => .text s.host
  | .port => .int s.port
  | .database => .text s.database
  | .user => .ofOption .text s.user
  | .password => .ofOption .text s.password
  | .sslmode => .text s.sslmode
  | .connectTimeout => .int s.connectTimeout
  | .applicationName => .text s.applicationName
  | .timeout => .float s.timeout
  | .format => .text s.format
  | .schema => .ofOption .text s.schema
  | .multipleResults => .ofOption .bool s.multipleResults

/-- The fields of settings. -/
def fields (s : Settings) : List (String × Value) :=
  SettingKey.all.map (fun key => (key.text, s.value key)) ++
    [ ("active_profile", .ofOption .text s.profile),
      ("sources", .ofFields (s.sources.map fun (name, source) => (name, .text source))) ]

/-- Reads settings. Only the types of the values are looked at. -/
def read (given : Given) : Reading Settings :=
  let d : Settings := {}
  Settings.mk <$> withDefault given "host" d.host text <*>
    withDefault given "port" d.port integer <*>
    withDefault given "dbname" d.database text <*>
    withDefault given "user" d.user (optional text) <*>
    withDefault given "password" d.password (optional text) <*>
    withDefault given "sslmode" d.sslmode text <*>
    withDefault given "connect_timeout" d.connectTimeout integer <*>
    withDefault given "application_name" d.applicationName text <*>
    withDefault given "default_timeout" d.timeout number <*>
    withDefault given "default_format" d.format text <*>
    withDefault given "default_schema" d.schema (optional text) <*>
    withDefault given "multiple_results" d.multipleResults (optional truth) <*>
    withDefault given "active_profile" d.profile (optional text) <*>
    withDefault given "sources" d.sources (tableOf text)

end Settings

end ProcedureCall
