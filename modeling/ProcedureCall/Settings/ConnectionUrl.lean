import ProcedureCall.Entries
import ProcedureCall.Fault
import ProcedureCall.Url.Basic
import ProcedureCall.Value.Basic

/-!
# Settings from a connection URL

A URL such as `postgresql://user@host:5433/database?sslmode=require` supplies some settings. A part
that is absent or empty supplies nothing.
-/

namespace ProcedureCall.Settings

/-- Something that is not of the right form. -/
def malformed {α : Type} : Except String α → Except Fault α
  | .ok a => .ok a
  | .error message => .error (.mishap .badValue message)

/-- An integer from a part of a URL. -/
def readInteger (s : List Char) : Except Fault Int := malformed (Numeral.integer s)

/-- A field that is supplied if its text is not empty. -/
def textField (name : String) (s : List Char) : List (String × Value) :=
  if s.isEmpty then [] else [(name, .text (String.ofList s))]

/-- The first pair with each name. -/
def firstOfEach (pairs : List (String × List Char)) : List (String × List Char) :=
  pairs.foldl (fun entries (name, value) => Entries.putNew name value entries) []

/-- The field that a pair of the query supplies, if it is one of those that are known. -/
def queryField : String × List Char → Except Fault (List (String × Value))
  | (name, value) =>
    if name = "connect_timeout" then do
      pure [(name, .int (← readInteger value))]
    else if name = "sslmode" ∨ name = "application_name" then
      .ok [(name, .text (String.ofList value))]
    else .ok []

/-- The fields that the query supplies. -/
def queryFields : List (String × List Char) → Except Fault (List (String × Value))
  | [] => .ok []
  | pair :: pairs => do
    let first ← queryField pair
    let rest ← queryFields pairs
    pure (first ++ rest)

/-- A scheme that is none of a connection URL, as it is shown. -/
def wrongScheme (scheme : String) : Fault :=
  .tool .config
    ("Invalid DSN scheme: '" ++ scheme ++ "'. Expected 'postgresql' or 'postgres'")

/-- The fields that a connection URL supplies. -/
def urlFields (url : String) : Except Fault (List (String × Value)) := do
  let parts ← malformed (Url.parts url.toList)
  let scheme := String.ofList parts.scheme
  if scheme ≠ "postgresql" ∧ scheme ≠ "postgres" then .error (wrongScheme scheme)
  else do
    let port ← malformed parts.port
    let (user, password) := parts.user
    let fromQuery ← queryFields (firstOfEach (Url.queryPairs parts.query))
    pure <|
      textField "host" parts.host ++
      (if port = 0 then [] else [("port", .int port)]) ++
      textField "dbname" (Text.trimBy (· == '/') parts.path) ++
      textField "user" user ++ textField "password" password ++ fromQuery

/-- What is wrong with a connection URL that is given as octets. They must be ASCII, and then the
scheme, being octets too, is none of those that are expected. -/
def octetUrlFault (octets : List UInt8) : Fault :=
  match octets.zipIdx.find? fun entry => 128 ≤ entry.1 with
  | some (octet, place) =>
    .mishap .badValue
      ("'ascii' codec can't decode byte 0x" ++ String.ofList (Text.hexDigits 2 octet.toNat) ++
        " in position " ++ String.ofList (Numeral.text place) ++ ": ordinal not in range(128)")
  | none =>
    match Url.parts (octets.map fun octet => Char.ofNat octet.toNat) with
    | .error message => .mishap .badValue message
    | .ok parts => wrongScheme ("b'" ++ String.ofList parts.scheme ++ "'")

end ProcedureCall.Settings
