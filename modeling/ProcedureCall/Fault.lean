/-!
# Faults

Everything that can keep an action from its result, by cause. An interrupt is no failure of the
action itself, so nothing that deals with failures deals with it.
-/

namespace ProcedureCall

/-- The codes that the program ends with. -/
inductive ExitCode where
  /-- All went well. -/
  | success
  /-- A failure of no other class. -/
  | generalError
  /-- The command line cannot be read. -/
  | usageError
  /-- An argument cannot be used. -/
  | inputError
  /-- A result cannot be written. -/
  | outputError
  /-- The server cannot be reached. -/
  | networkError
  /-- A time limit was passed. -/
  | timeout
  /-- The configuration cannot be used. -/
  | configError
  /-- The catalog cannot be read. -/
  | catalogError
  /-- The driver refused. -/
  | driverError
  /-- A result was used outside its lifetime. -/
  | projectionError
  deriving DecidableEq, Repr

namespace ExitCode

/-- Every code with its name, in the order of the numbers. -/
def table : List (ExitCode × String) :=
  [ (success, "SUCCESS"), (generalError, "GENERAL_ERROR"), (usageError, "USAGE_ERROR"),
    (inputError, "INPUT_ERROR"), (outputError, "OUTPUT_ERROR"), (networkError, "NETWORK_ERROR"),
    (timeout, "TIMEOUT"), (configError, "CONFIG_ERROR"), (catalogError, "CATALOG_ERROR"),
    (driverError, "DRIVER_ERROR"), (projectionError, "PROJECTION_ERROR") ]

/-- The number of a code. -/
def number : ExitCode → Nat
  | success => 0
  | generalError => 1
  | usageError => 2
  | inputError => 3
  | outputError => 4
  | networkError => 5
  | timeout => 6
  | configError => 7
  | catalogError => 8
  | driverError => 9
  | projectionError => 10

end ExitCode

/-- The classes of the program's own failures. -/
inductive ToolError where
  /-- A failure of no narrower class. -/
  | general
  /-- The server cannot be reached. -/
  | network
  /-- A time limit was passed, which is a network failure too. -/
  | timeout
  /-- An argument cannot be used. -/
  | input
  /-- The configuration cannot be used. -/
  | config
  /-- The catalog cannot be read. -/
  | catalog
  /-- The driver refused. -/
  | driver
  /-- A result was used outside its lifetime. -/
  | projection
  deriving DecidableEq, Repr

namespace ToolError

/-- The code that the program ends with after such a failure. -/
def exitCode : ToolError → ExitCode
  | general => .generalError
  | network => .networkError
  | timeout => .timeout
  | input => .inputError
  | config => .configError
  | catalog => .catalogError
  | driver => .driverError
  | projection => .projectionError

/-- Is it a failure of the network? -/
def isNetwork : ToolError → Bool
  | network | timeout => true
  | _ => false

end ToolError

/-- What a server or its driver can report. -/
inductive Condition where
  /-- An error of no narrower class. -/
  | error
  /-- The driver was misused. -/
  | interface
  /-- An error of the database. -/
  | database
  /-- An error of its operation. -/
  | operational
  /-- The statement was cancelled. -/
  | queryCanceled
  /-- The server is going down. -/
  | adminShutdown
  /-- A lock could not be had. -/
  | lockNotAvailable
  /-- Two transactions waited for each other. -/
  | deadlockDetected
  /-- The connection took too long. -/
  | connectionTimeout
  /-- An error in the statement. -/
  | programming
  /-- The statement cannot be read. -/
  | syntaxError
  /-- There is no such function. -/
  | undefinedFunction
  /-- There is no such table. -/
  | undefinedTable
  /-- A right is lacking. -/
  | insufficientPrivilege
  /-- An error in the data. -/
  | data
  /-- The database cannot do this. -/
  | notSupported
  /-- A constraint was broken. -/
  | integrity
  /-- A value that must be unique came twice. -/
  | uniqueViolation
  deriving DecidableEq, Repr

namespace Condition

/-- Is it an error of the operation of the server or of the connection? -/
def isOperational : Condition → Bool
  | operational | queryCanceled | adminShutdown | lockNotAvailable | deadlockDetected
  | connectionTimeout => true
  | _ => false

end Condition

/-- Failures that are not the program's own and that no server reports. -/
inductive Mishap where
  /-- The system refused. -/
  | system
  /-- A value is not of the right form. -/
  | badValue
  /-- A key is not known. -/
  | unknownKey
  /-- Something went wrong at run time. -/
  | runtime
  /-- A value is of the wrong type. -/
  | wrongType
  /-- An object lacks a member. -/
  | missingMember
  /-- An index lies outside a sequence. -/
  | badIndex
  /-- A number is too large. -/
  | overflow
  /-- What is no number was computed with. -/
  | badOperation
  /-- Styled text has a closing tag without an opening one. -/
  | markup
  deriving DecidableEq, Repr

/-- A step on the way to a part of a record. -/
inductive Step where
  /-- To a field or an entry. -/
  | field (name : String)
  /-- To an element, or to the entry of an integer. -/
  | element (index : Int)
  deriving DecidableEq, Repr

/-- What is wrong with a part of a record. -/
structure Detail where
  /-- The way to the part. -/
  path : List Step
  /-- The class of the fault. -/
  kind : String
  /-- The fault in words. -/
  message : String
  deriving DecidableEq, Repr

/-- Why a configuration file was turned down. -/
inductive Misconfiguration where
  /-- It is no document of its format. -/
  | malformed
  /-- Some parts of it are wrong. -/
  | details (details : List Detail)
  /-- It was turned down as a whole. -/
  | message (message : String)
  deriving DecidableEq, Repr

namespace Misconfiguration

/-- The beginning of the words for it, which name the file. -/
def headline (path : String) : Misconfiguration → String
  | malformed => "Malformed TOML in " ++ path
  | _ => "Invalid configuration in " ++ path

/-- The rest of the words for it. -/
def particulars : Misconfiguration → String
  | malformed => "not a TOML document"
  | details ds => "\n".intercalate (ds.map Detail.message)
  | message words => words

end Misconfiguration

/-- What keeps an action from its result. -/
inductive Fault where
  /-- A failure of the program's own. -/
  | tool (kind : ToolError) (message : String)
  /-- What a server reported. -/
  | server (condition : Condition) (message : String)
  /-- Another failure. -/
  | mishap (kind : Mishap) (message : String)
  /-- A record with wrong parts. -/
  | invalid (details : List Detail)
  /-- A configuration file that was turned down. -/
  | misconfigured (path : String) (cause : Misconfiguration)
  /-- The user stopped the program. -/
  | interrupt
  deriving DecidableEq, Repr

namespace Fault

/-- Is it a failure, and not an interrupt? -/
def isFailure : Fault → Bool
  | interrupt => false
  | _ => true

/-- The words of a fault. -/
def message : Fault → String
  | tool _ message => message
  | server _ message => message
  | mishap _ message => message
  | invalid details => "\n".intercalate (details.map Detail.message)
  | misconfigured path cause => cause.headline path ++ ": " ++ cause.particulars
  | interrupt => ""

end Fault

end ProcedureCall
