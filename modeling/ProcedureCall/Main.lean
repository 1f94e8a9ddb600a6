import ProcedureCall.CommandLine.Run

/-!
# The program

The outermost layer: it reads the environment and the configuration file, runs the command line and
writes what comes of it. The program has no transport to a server of its own, so that every
connection is refused here; an embedding hands its own server to `CommandLine.run`.
-/

namespace ProcedureCall

open CommandLine

/-- A server that refuses every connection. -/
def refusingServer : Postgres.Server Unit where
  connect _ := Action.fail (.server .operational "no transport to a server is available")
  isOpen := pure false
  run _ _ := Action.fail (.server .operational "no connection")
  disconnect := pure ()

/-- The environment variables that the program looks at. -/
def variableNames : List String :=
  environmentKeys.map (·.1) ++ [profileVariable, "COLUMNS"]

/-- The path of the configuration file in a home directory. -/
def homeConfig (home : String) : String := home ++ "/.config/proc-tool/config.toml"

/-- The path of the configuration file that a command line asks for. -/
def askedConfig (words : List String) : Option String :=
  match requestOf words with
  | some (.run i) => i.configPath
  | _ => none

/-- What a path leads to. -/
def readState (path : String) : IO FileState := do
  try
    let place ← IO.FS.realPath path
    if ← place.isDir then pure .directory
    else pure (.content (← IO.FS.readBinFile place).toList)
  catch
    | .invalidArgument .. => pure .nameTooLong
    | _ => pure .missing

/-- A log record on one line. -/
def LogRecord.line (r : LogRecord) : String :=
  let fields := r.fields.map fun (name, v) => " " ++ name ++ "=" ++ String.ofList v.literal
  "[" ++ r.level.text ++ "] " ++ r.event ++ String.join fields

end ProcedureCall

open ProcedureCall in
/-- Runs the program. -/
def main (words : List String) : IO UInt32 := do
  let environment ← variableNames.filterMapM fun name => do
    pure ((← IO.getEnv name).map (name, ·))
  let home := ((← IO.getEnv "HOME").getD "")
  let path := (askedConfig words).getD (homeConfig home)
  let state ← readState (Path.ofText path).text
  let surroundings : CommandLine.Surroundings :=
    { environment
      fileAt := fun asked => if asked = Path.ofText path then state else .missing
      configPath := path
      onTerminal := ← (← IO.getStdout).isTty }
  let o := CommandLine.run refusingServer surroundings words { outside := () }
  match o.result with
  | .error _ => pure 1
  | .ok (ending, verbose) => do
    for r in shownRecords verbose (logRecords (Event.notes o.journal)) do
      IO.eprintln r.line
    IO.print ending.output
    IO.eprint ending.errors
    pure ending.code.toUInt32
