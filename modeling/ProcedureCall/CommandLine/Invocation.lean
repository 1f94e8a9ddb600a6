import ProcedureCall.CommandLine.Options
import ProcedureCall.Number.Numeral
import ProcedureCall.Report.Format
import ProcedureCall.Settings.Resolution

/-!
# Invocations

What a command line asks for: options that hold for every command, and a command.
-/

namespace ProcedureCall.CommandLine

/-- The options that stand before the command. -/
inductive CommonOption where
  /-- Shows the version and ends. -/
  | version
  /-- Shows what the options are and ends. -/
  | help
  /-- Shows every log record. -/
  | verbose
  /-- The profile. -/
  | profile
  /-- The host of the server. -/
  | host
  /-- The port of the server. -/
  | port
  /-- The database. -/
  | database
  /-- The user. -/
  | user
  /-- The password. -/
  | password
  /-- The connection URL. -/
  | url
  /-- The configuration file. -/
  | config
  /-- The schema in which names of one segment are looked up. -/
  | schema
  /-- Cursors come back as result sets of their own. -/
  | multipleResults
  /-- Cursors come back as values. -/
  | singleResult
  /-- The format of the report. -/
  | format
  /-- JSON on one line. -/
  | compact
  /-- How many characters of a value a table shows. -/
  | width
  /-- No heading for comma-separated values. -/
  | noHeader
  /-- Sets the shell up to complete the program's options and ends. -/
  | installCompletion
  /-- Shows how the shell is set up for that and ends. -/
  | showCompletion
  deriving DecidableEq, Repr

/-- How the options that stand before the command are written. -/
def commonForms : List (OptionForm CommonOption) :=
  [ ⟨.version, ["--version", "-V"], false⟩, ⟨.help, ["--help"], false⟩,
    ⟨.verbose, ["--verbose"], false⟩, ⟨.profile, ["--profile", "-P"], true⟩,
    ⟨.host, ["--host", "-H"], true⟩, ⟨.port, ["--port", "-p"], true⟩,
    ⟨.database, ["--database", "-d"], true⟩, ⟨.user, ["--user", "-U"], true⟩,
    ⟨.password, ["--password", "-W"], true⟩, ⟨.url, ["--dsn"], true⟩,
    ⟨.config, ["--config"], true⟩, ⟨.schema, ["--schema", "-s"], true⟩,
    ⟨.multipleResults, ["--multiple-results"], false⟩,
    ⟨.singleResult, ["--single-result"], false⟩, ⟨.format, ["--format", "-f"], true⟩,
    ⟨.compact, ["--compact"], false⟩, ⟨.width, ["--width"], true⟩,
    ⟨.noHeader, ["--no-header"], false⟩,
    ⟨.installCompletion, ["--install-completion"], false⟩,
    ⟨.showCompletion, ["--show-completion"], false⟩ ]

/-- The options that stand behind the command. -/
inductive CommandOption where
  /-- Shows what the options are and ends. -/
  | help
  /-- A value for the next parameter. -/
  | argument
  deriving DecidableEq, Repr

/-- What is to be done with a call text. -/
inductive Command where
  /-- Lists the parameters of the procedure. -/
  | resolve
  /-- Lists the output columns of the call. -/
  | plan
  /-- Executes the call. -/
  | call
  deriving DecidableEq, Repr

namespace Command

/-- The name of a command. -/
def text : Command → String
  | resolve => "resolve"
  | plan => "plan"
  | call => "call"

/-- The command with a name. -/
def ofText? (s : String) : Option Command := [resolve, plan, call].find? (·.text == s)

/-- How the options behind a command are written. -/
def forms (c : Command) : List (OptionForm CommandOption) :=
  ⟨.help, ["--help"], false⟩ ::
    if c = .call then [⟨.argument, ["--arg", "-a"], true⟩] else []

end Command

/-- What a command line asks for. -/
structure Invocation where
  /-- Is every log record shown? -/
  verbose : Bool
  /-- The path of the configuration file, if one is given. -/
  configPath : Option String
  /-- The profile that is asked for. -/
  profile : Option String
  /-- The connection URL. -/
  url : Option String
  /-- The settings that are given as options. -/
  options : List (String × Value)
  /-- How the report is wanted. -/
  wishes : Report.Wishes
  /-- The command. -/
  command : Command
  /-- The call text. -/
  text : String
  /-- The values for the parameters. -/
  arguments : List String

/-- What is made of a command line. -/
inductive Request where
  /-- The version is to be shown. -/
  | version
  /-- The options are to be shown. -/
  | help
  /-- The shell is to be set up to complete options. -/
  | installCompletion
  /-- It is to be shown how that is done. -/
  | showCompletion
  /-- What is given as the path of the configuration file can be no path. -/
  | noPath
  /-- A command is to be run. -/
  | run (invocation : Invocation)

/-- An option with an integer; the inner `none` if there is none. -/
def integerOption (s : Scanned CommonOption) (key : CommonOption) : Option (Option Int) :=
  match s.last? key with
  | none => some none
  | some text => (Numeral.lenient? text.toList).map some

/-- Whether cursors come back as result sets, by the last option that says so. -/
def cursorOption (s : Scanned CommonOption) : Option Bool :=
  (s.found.filterMap fun (key, _) =>
    match key with
    | .multipleResults => some true
    | .singleResult => some false
    | _ => none).getLast?

/-- The settings that are given as options. -/
def settingOptions (s : Scanned CommonOption) (port : Option Int) : List (String × Value) :=
  let texts : List (String × CommonOption) :=
    [ ("host", .host), ("database", .database), ("user", .user), ("password", .password),
      ("schema", .schema) ]
  (texts.filterMap fun (name, key) => (s.last? key).map fun text => (name, .text text)) ++
    (port.map fun port => ("port", Value.int port)).toList ++
    ((cursorOption s).map fun b => ("multiple_results", Value.bool b)).toList

/-- The format that is asked for; the inner `none` if there is none. -/
def formatOption (s : Scanned CommonOption) : Option (Option String) :=
  let format := s.last? .format
  if format.all fun name => (Entries.get? name Report.FormatRegistry.standard).isSome then
    some format
  else none

/-- How the report is wanted; `none` if the options cannot be read. -/
def wishesOf (s : Scanned CommonOption) : Option Report.Wishes := do
  let width ← integerOption s .width
  let format ← formatOption s
  some
    { format
      compact := s.has .compact
      width := width.getD 40
      noHeader := s.has .noHeader }

/-- Which of the options that end the program at once comes first. -/
def early? (s : Scanned CommonOption) : Option Request :=
  s.found.findSome? fun (key, _) =>
    match key with
    | .version => some .version
    | .help => some .help
    | _ => none

/-- What an option asks for by itself, if anything; `none` if its value cannot be read. -/
def askedBy (s : Scanned CommonOption) (key : CommonOption) : Option (Option Request) :=
  match key with
  | .port | .width => (integerOption s key).map fun _ => none
  | .format => (formatOption s).map fun _ => none
  | .config => some (if ((s.last? key).getD "").toList.contains '\x00' then some .noPath else none)
  | .installCompletion => some (some .installCompletion)
  | .showCompletion => some (some .showCompletion)
  | _ => some none

/-- What the first option that asks for something by itself asks for, if there is one; `none` if the
value of an option before it cannot be read. -/
def askedByFirst (s : Scanned CommonOption) : List CommonOption → Option (Option Request)
  | [] => some none
  | key :: rest =>
    match askedBy s key with
    | some none => askedByFirst s rest
    | answer => answer

/-- What the options before a command ask for by themselves. The version and the help come first. -/
def asked (s : Scanned CommonOption) : Option (Option Request) :=
  match early? s with
  | some request => some (some request)
  | none => askedByFirst s (s.found.map (·.1))

/-- What is made of words of which the first is no command: where it looks like an option, they are
read as options once more, and one of them may ask for something by itself. -/
def withoutCommand (words : List String) : Option Request := do
  let s ← scan commonForms false words
  (asked s).join

/-- Reads a command and what follows it. -/
def commandOf (s : Scanned CommonOption) (port : Option Int) (wishes : Report.Wishes) :
    List String → Option Request
  | [] => none
  | name :: rest =>
    match Command.ofText? name with
    | none => withoutCommand (name :: rest)
    | some command => do
      let t ← scan command.forms true rest
      if t.has .help then some .help
      else
        match t.words with
        | [text] =>
          some <| .run
            { verbose := s.has .verbose
              configPath := s.last? .config
              profile := s.last? .profile
              url := s.last? .url
              options := settingOptions s port
              wishes
              command
              text
              arguments := t.values .argument }
        | _ => none

/-- Reads a command line; `none` if it cannot be read. -/
def requestOf (words : List String) : Option Request := do
  let s ← scan commonForms false words
  match ← asked s with
  | some request => some request
  | none => do
    let port ← integerOption s .port
    let wishes ← wishesOf s
    commandOf s port wishes s.words

end ProcedureCall.CommandLine
