import ProcedureCall.CommandLine.Invocation
import ProcedureCall.Invoker
import ProcedureCall.Logging
import ProcedureCall.Postgres.Call
import ProcedureCall.Postgres.Catalog
import ProcedureCall.Text.Escape

/-!
# Running a command

A command runs against a server and ends with a code and with what it writes. A failure is written
as one line. A report is written when the command is done and its connection is closed. What is
written for the user has no control sequences.
-/

namespace ProcedureCall.CommandLine

/-- The version of the program. -/
def version : String := "0.3.0"

/-- The name of the program. -/
def programName : String := "proc-tool"

/-- How the program ends. -/
structure Ending where
  /-- The code. -/
  code : Nat
  /-- What is written for others to read. -/
  output : String := ""
  /-- What is written for the user. -/
  errors : String := ""
  deriving DecidableEq, Repr

namespace Ending

/-- The end after a command line that cannot be read. -/
def usage : Ending := { code := ExitCode.usageError.number }

/-- The code after an interrupt. -/
def interrupted : Nat := 130

/-- The end after a failure that is told to the user. -/
def ofMessage (code : ExitCode) (message : String) : Ending :=
  { code := code.number, errors := Text.withoutSequences s!"Error: {message}\n" }

/-- The end after a fault. Of an unknown key the literal text is told. -/
def ofFault : Fault → Ending
  | .interrupt => { code := interrupted }
  | .tool kind message => ofMessage kind.exitCode message
  | .misconfigured path cause => ofMessage .configError (Fault.message (.misconfigured path cause))
  | .mishap .unknownKey key => ofMessage .generalError (String.ofList (Text.quoted key.toList))
  | fault => ofMessage .generalError fault.message

/-- The end if the shell cannot be set up to complete options, since it is not known. -/
def completionNotInstalled : Ending :=
  { code := ExitCode.generalError.number, output := "Shell None is not supported.\n" }

/-- The end if it cannot be shown how the shell is set up. -/
def completionNotShown : Ending :=
  { code := ExitCode.generalError.number, errors := "Shell  not supported.\n" }

/-- The end with something written for the user first. -/
def preceded (note : String) (e : Ending) : Ending := { e with errors := note ++ e.errors }

end Ending

/-- What a command found. -/
structure Finding where
  /-- A line for the user. -/
  note : String := ""
  /-- The result, if there is one. -/
  result : Option QueryResult
  /-- Are the types of the columns shown? -/
  showTypes : Bool := false

/-- What the program runs in. -/
structure Surroundings where
  /-- The environment variables. -/
  environment : List (String × String) := []
  /-- What a path leads to. -/
  fileAt : Path → FileState
  /-- The path of the configuration file if none is given. -/
  configPath : String
  /-- Does the output go to a terminal? -/
  onTerminal : Bool := false
  /-- The encoding of the output. -/
  encoding : Report.Encoding := .utf8

/-- The value that a word on the command line stands for. -/
def argumentValue (word : String) : Value := if word = "NULL" then .null else .text word

/-- A result made by the program itself, all of whose columns are texts. -/
def listing (names : List String) (rows : List (List Value)) : QueryResult where
  columns := names.map fun name => ⟨name, "text"⟩
  rows
  rowCount := rows.length
  status := "SELECT " ++ String.ofList (Nat.toDigits 10 rows.length)

/-- The parameters of a procedure as a result. -/
def parameterListing (parameters : List Parameter) : QueryResult :=
  listing ["position", "name", "direction", "type"] <| parameters.map fun p =>
    [.int (p.position + 1), .text p.name, .text p.direction.text, .text p.dataType.name]

/-- The output columns of a call as a result. -/
def columnListing (columns : List OutputColumn) : QueryResult :=
  listing ["index", "name", "type", "kind", "ordinal"] <| columns.map fun c =>
    [ .int c.localIndex, .text c.name, .text c.dataType.name, .text c.dataType.kind.text,
      .int c.sourceOrdinal ]

/-- The line that sums a plan up. -/
def planNote {π : Type} (p : Plan π) : String :=
  let target := (p.target.filter (!·.isEmpty)).getD "-"
  let resolved := if p.procedure.isSome then "yes" else "no"
  "target: " ++ target ++ "  resolved: " ++ resolved ++ "  reconciliation: " ++
    p.reconciliation.outcome.text ++ "  registration: " ++ p.registration.source.text ++ " (" ++
    String.ofList (Nat.toDigits 10 p.registration.registered) ++ ")\n"

/-- What happens while a command runs. -/
abbrev RunEvent := Event Postgres.Node Postgres.Routine

section

variable {σ ν π : Type}

/-- Finds the procedure that a text invokes, if it looks like a call, or names. -/
def findNamed (s : Session σ ν π) (text : String) : Action σ (Event ν π) (Option π) :=
  if text.toList.contains '(' then s.find (some text) else s.resolve (trimmed text)

/-- Lists the parameters of the procedure that a text names or invokes. -/
def runResolve (s : Session σ ν π) (text : String) : Action σ (Event ν π) Finding := do
  match ← findNamed s text with
  | none => Action.fail (.tool .input s!"Procedure not found: {text}")
  | some procedure => do
    pure { result := some (parameterListing (← s.askParameters procedure)) }

/-- Prepares a call, does something with it, and closes it. -/
def withInvoker {α : Type} (catalog : Postgres.Catalog σ) (text : String)
    (use : Invoker (Postgres.World σ) Postgres.Node Postgres.Routine →
      Action (Progress × Postgres.World σ) RunEvent α) :
    Action (Postgres.World σ) RunEvent α := do
  let call : Postgres.Call σ := ⟨catalog.client, text⟩
  let (invoker, progress) ←
    Invoker.prepare catalog.session call.driverCall (some text) logBind
  fun world =>
    let o := ((use invoker).ensuring invoker.close).run (progress, world)
    ⟨o.result, o.world.2, o.journal⟩

/-- Lists the output columns of a call without executing it. -/
def runPlan (catalog : Postgres.Catalog σ) (text : String) :
    Action (Postgres.World σ) RunEvent Finding :=
  withInvoker catalog text fun invoker =>
    pure
      { note := Text.withoutSequences (planNote invoker.plan)
        result := some (columnListing invoker.plan.columns)
        showTypes := true }

/-- What is found when a call has this result. -/
def findingOf (invoker : Invoker (Postgres.World σ) Postgres.Node Postgres.Routine) :
    Option ResultSet → Action (Progress × Postgres.World σ) RunEvent Finding
  | none => pure { note := "CALL\n", result := none }
  | some (.native result) => pure { result := some result }
  | some .projected => do
    pure { result := some (← Invoker.onProjector (projectedResult invoker.fetch)) }

/-- Binds what the words on the command line stand for, executes the call and reports its result. -/
def executeWith (words : List String)
    (invoker : Invoker (Postgres.World σ) Postgres.Node Postgres.Routine) :
    Action (Progress × Postgres.World σ) RunEvent Finding := do
  invoker.bindAll (words.map argumentValue)
  if ← invoker.execute then findingOf invoker (← invoker.resultSet)
  else findingOf invoker none

/-- Executes a call. -/
def runCall (catalog : Postgres.Catalog σ) (text : String) (arguments : List String) :
    Action (Postgres.World σ) RunEvent Finding :=
  withInvoker catalog text (executeWith arguments)

/-- Runs the command of an invocation with a client, which is closed whatever happens. -/
def runCommand (client : Postgres.Client σ) (i : Invocation) :
    Action (Postgres.World σ) RunEvent Finding :=
  let catalog : Postgres.Catalog σ :=
    { client
      multipleResults := client.settings.multipleResults.getD false
      defaultSchema := client.settings.schema }
  let run :=
    match i.command with
    | .resolve => runResolve catalog.session i.text
    | .plan => runPlan catalog i.text
    | .call => runCall catalog i.text i.arguments
  run.ensuring (client.close.entering .note)

/-- The settings of an invocation. -/
def settingsOf (s : Surroundings) (i : Invocation) : Except Fault Settings := do
  let path := Path.ofText (i.configPath.getD s.configPath)
  let file ← FileSettings.load ⟨path.text, s.fileAt path⟩
  Settings.resolve file
    { profile := i.profile
      environment := s.environment
      url := i.url
      options := i.options }

/-- Writes what a command found, line by line as the format hands the lines out. What is written
before a fault stays written. -/
def present (s : Surroundings) (i : Invocation) (f : Finding) : Ending :=
  match f.result with
  | none => { code := 0, errors := f.note }
  | some result =>
    match ({ i.wishes with showTypes := f.showTypes }).resolve s.onTerminal with
    | .error fault => (Ending.ofFault fault).preceded f.note
    | .ok (_, format) =>
      let terminal := Report.terminalWidth (Entries.get? "COLUMNS" s.environment)
      match (format.yield terminal result).write s.encoding with
      | (output, none) => { code := 0, output, errors := f.note }
      | (output, some fault) => { (Ending.ofFault fault).preceded f.note with output }

/-- Runs an invocation. -/
def runInvocation (server : Postgres.Server σ) (s : Surroundings) (i : Invocation) :
    Action (Postgres.World σ) RunEvent Ending := fun world =>
  let o := (do
    let settings ← Action.ofExcept (settingsOf s i)
    runCommand ⟨settings, server⟩ i : Action (Postgres.World σ) RunEvent Finding) world
  let ending :=
    match o.result with
    | .ok finding => present s i finding
    | .error fault => Ending.ofFault fault
  ⟨.ok ending, o.world, o.journal⟩

/-- Runs a command line. It gives how the program ends and whether every log record is shown. -/
def run (server : Postgres.Server σ) (s : Surroundings) (words : List String) :
    Action (Postgres.World σ) RunEvent (Ending × Bool) :=
  match requestOf words with
  | none => pure (Ending.usage, false)
  | some .version => pure ({ code := 0, output := s!"{programName} {version}\n" }, false)
  | some .help => pure ({ code := 0 }, false)
  | some .installCompletion => pure (Ending.completionNotInstalled, false)
  | some .showCompletion => pure (Ending.completionNotShown, false)
  | some .noPath => pure (Ending.ofMessage .generalError "embedded null byte", false)
  | some (.run i) => do pure (← runInvocation server s i, i.verbose)

end

end ProcedureCall.CommandLine
