import ProcedureCall.Fault
import ProcedureCall.Journal

/-!
# Settings

What the program runs with after every source of settings was heard.
-/

namespace ProcedureCall

/-- The settings of a run. -/
structure Settings where
  /-- The host of the server. -/
  host : String := "localhost"
  /-- The port of the server. -/
  port : Int := 5432
  /-- The database. -/
  database : String := "postgres"
  /-- The user. -/
  user : Option String := none
  /-- The password. -/
  password : Option String := none
  /-- How the connection is secured. -/
  sslmode : String := "prefer"
  /-- The seconds that connecting may take. -/
  connectTimeout : Int := 10
  /-- The name that the program gives itself. -/
  applicationName : String := "proc-tool"
  /-- The seconds that a statement may take. -/
  timeout : Binary := Binary.ofInt 30
  /-- The format of reports. -/
  format : String := "table"
  /-- The schema in which names of one segment are looked up. -/
  schema : Option String := none
  /-- Do cursors come back as result sets of their own? -/
  multipleResults : Option Bool := none
  /-- The profile that was chosen. -/
  profile : Option String := none
  /-- Where each setting comes from. -/
  sources : List (String × String) := []
  deriving Repr

namespace Settings

/-- The particulars of a connection with these settings. -/
def connection (s : Settings) : ConnectionOptions where
  host := s.host
  port := s.port
  database := s.database
  user := s.user
  password := s.password
  sslmode := s.sslmode
  connectTimeout := s.connectTimeout
  applicationName := s.applicationName

/-- The milliseconds that a statement may take, toward zero. -/
def timeoutMillis (s : Settings) : Except Fault Int :=
  let product := s.timeout.scale 1000
  match product.truncate? with
  | some millis => .ok millis
  | none =>
    match product with
    | .notANumber => .error (.mishap .badValue "cannot convert float NaN to integer")
    | _ => .error (.mishap .overflow "cannot convert float infinity to integer")

end Settings

end ProcedureCall
