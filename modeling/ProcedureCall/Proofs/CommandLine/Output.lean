import ProcedureCall.Proofs.CommandLine.Configuration
import ProcedureCall.Proofs.CommandLine.Statements

/-!
# What a command writes

Others read the output of a command, so it should be a whole report or nothing. A report is written
line by line while the format hands the lines out, and a command can fail at any time up to its last
line: for want of settings, at the server, at the end of its connection, in the format, or at the
output itself, whose encoding may lack a character of a line. The formats hand out nothing before
all that can fail in them has gone well (`write_yield`), and the first line is asked for when the
connection is closed. What is left is the encoding: at a line that it cannot write the report is
broken off (`Encoding.BreaksOff`), and the lines before are out by then.

## What is proved

* `written_whole_or_broken_off` — a command that ends with another code than that of success writes
  nothing, and the code is that of what was raised, unless the encoding lacks a character of a line:
  then exactly the lines before that one are written, and only with comma-separated values are there
  any. A command that ends with success writes the whole report of what it found, or nothing if it
  is a call without a result.
-/

namespace ProcedureCall

open ProcedureCall.Action

namespace Report

/-! ### Writing lines -/

namespace Encoding

/-- The encoding has every character of a text. -/
def Writes (e : Encoding) (text : String) : Prop := ∀ c ∈ text.toList, e.has c = true

theorem lacking_eq_nil_iff {e : Encoding} {s : List Char} :
    (e.lacking s).2 = [] ↔ ∀ c ∈ s, e.has c = true := by
  unfold lacking
  induction s with
  | nil => simp
  | cons c s ih => cases hc : e.has c <;> simp [hc, ih]

/-- A text is refused only for a character that is lacking. -/
theorem refusal?_eq_none_iff {e : Encoding} {text : String} :
    e.refusal? text = none ↔ e.Writes text := by
  rw [Writes, ← lacking_eq_nil_iff]
  unfold refusal?
  rcases e.lacking text.toList with ⟨first, _ | ⟨c, _ | ⟨d, cs⟩⟩⟩ <;> simp

/-- A report is broken off at a line that the encoding cannot write: these lines are written before,
and with this fault it ends. -/
inductive BreaksOff (e : Encoding) : List String → List String → Fault → Prop where
  /-- The next line is refused. -/
  | here {line message : String} {rest : List String} : e.refusal? (line ++ "\n") = some message →
      BreaksOff e (line :: rest) [] (.mishap .badValue message)
  /-- The next line is written, and the report is broken off later. -/
  | later {line : String} {rest before : List String} {fault : Fault} : e.Writes (line ++ "\n") →
      BreaksOff e rest before fault → BreaksOff e (line :: rest) (line :: before) fault

/-- No report is broken off in an encoding that has every character. -/
theorem not_breaksOff {e : Encoding} (h : ∀ c, e.has c = true) {lines before : List String}
    {fault : Fault} : ¬ e.BreaksOff lines before fault := by
  intro hbreaks
  induction hbreaks with
  | @here line message rest hrefused =>
    have hwrites : e.Writes (line ++ "\n") := fun c _ => h c
    rw [refusal?_eq_none_iff.mpr hwrites] at hrefused
    cases hrefused
  | later _ _ ih => exact ih

end Encoding

variable (e : Encoding)

/-- Lines are all written, or up to where they are broken off. -/
theorem Yield.write_ofLines (lines : List String) :
    (Yield.ofLines lines).write e = (written lines, none) ∨
      ∃ before fault, e.BreaksOff lines before fault ∧
        (Yield.ofLines lines).write e = (written before, some fault) := by
  induction lines with
  | nil => exact Or.inl rfl
  | cons line rest ih =>
    have hjoined : ∀ lines : List String, line ++ "\n" ++ written lines = written (line :: lines) :=
      fun lines => by simp [written, String.join_cons]
    unfold Yield.ofLines Yield.write
    cases hrefusal : e.refusal? (line ++ "\n") with
    | some message => exact Or.inr ⟨[], _, .here hrefusal, rfl⟩
    | none =>
      have hline := Encoding.refusal?_eq_none_iff.mp hrefusal
      rcases ih with hwrite | ⟨before, fault, hbreaks, hwrite⟩
      · rw [hwrite, ← hjoined]
        exact Or.inl rfl
      · rw [hwrite]
        exact Or.inr ⟨line :: before, fault, .later hline hbreaks, by rw [← hjoined]⟩

/-- A format that fails has handed out nothing before, so that nothing is written; else the lines of
the report are. -/
theorem write_yield (format : Format) (terminal : Nat) (r : QueryResult) :
    (format.yield terminal r).write e =
      match format.lines terminal r with
      | .ok lines => (Yield.ofLines lines).write e
      | .error fault => ("", some fault) := by
  have hsingle : ∀ made : Except Fault (List Char), (Yield.ofText made).write e =
      match made.map fun text => [String.ofList text] with
      | .ok lines => (Yield.ofLines lines).write e
      | .error fault => ("", some fault) := by
    rintro (fault | text) <;> rfl
  cases format with
  | csv header => rfl
  | json compact => exact hsingle _
  | table options => exact hsingle _

/-- Only comma-separated values have lines that can be written before a report is broken off. -/
theorem Encoding.BreaksOff.exists_csv {e : Encoding} {lines before : List String} {fault : Fault}
    (h : e.BreaksOff lines before fault) (hbefore : before ≠ []) {format : Format} {terminal : Nat}
    {r : QueryResult} (hlines : format.lines terminal r = .ok lines) :
    ∃ header, format = .csv header := by
  have hsingle : ∀ made : Except Fault (List Char),
      (made.map fun text => [String.ofList text]) ≠ .ok lines := by
    rintro (fault | text) hmade
    · cases hmade
    · obtain rfl : [String.ofList text] = lines := Except.ok.inj hmade
      cases h with
      | here _ => exact hbefore rfl
      | later _ hrest => cases hrest
  cases format with
  | csv header => exact ⟨header, rfl⟩
  | json compact => exact absurd hlines (hsingle _)
  | table options => exact absurd hlines (hsingle _)

end Report

namespace CommandLine

open Postgres Report

/-! ### The code of what is raised -/

/-- The code for what is raised: that of the class of a failure of the program's own, that of an
interrupt, and 1 for any other failure. -/
def codeOf : Fault → Nat
  | .tool kind _ => kind.exitCode.number
  | .misconfigured _ _ => ExitCode.configError.number
  | .interrupt => Ending.interrupted
  | .server _ _ | .mishap _ _ | .invalid _ => 1

theorem codeOf_ne_zero (fault : Fault) : codeOf fault ≠ 0 := by
  cases fault with
  | tool kind message => cases kind <;> exact Nat.succ_ne_zero _
  | _ => exact Nat.succ_ne_zero _

/-- The refusal of a line is a failure of no class. -/
theorem codeOf_of_breaksOff {e : Encoding} {lines before : List String} {fault : Fault}
    (h : e.BreaksOff lines before fault) : codeOf fault = 1 := by
  induction h with
  | here _ => rfl
  | later _ _ ih => exact ih

theorem code_ofFault (fault : Fault) : (Ending.ofFault fault).code = codeOf fault := by
  cases fault with
  | mishap kind message => exact code_ofFault_mishap kind message
  | _ => rfl

theorem output_ofFault (fault : Fault) : (Ending.ofFault fault).output = "" := by
  cases fault with
  | mishap kind message => cases kind <;> rfl
  | _ => rfl

/-! ### What a command finds -/

variable {σ : Type}

/-- What is found for an invocation: its settings, and with these what its command finds. -/
def found (server : Server σ) (s : Surroundings) (i : Invocation) :
    Action (World σ) RunEvent Finding := do
  runCommand ⟨← Action.ofExcept (settingsOf s i), server⟩ i

theorem runResolve_finds {ν π : Type} {session : Session σ ν π} {text : String} {w w' : σ}
    {f : Finding} {j : List (Event ν π)} (h : (runResolve session text).Gives w f w' j) :
    f.result ≠ none := by
  obtain ⟨procedure, w₁, j₁, j₂, -, hlisted, -⟩ := gives_bind.mp h
  cases procedure with
  | none => exact absurd hlisted not_gives_fail
  | some procedure =>
    obtain ⟨parameters, w₂, j₃, j₄, -, hpure, -⟩ := gives_bind.mp hlisted
    obtain ⟨rfl, -, -⟩ := gives_pure.mp hpure
    exact Option.some_ne_none _

theorem runPlan_finds {catalog : Catalog σ} {text : String} {w w' : World σ} {f : Finding}
    {j : List RunEvent} (h : (runPlan catalog text).Gives w f w' j) : f.result ≠ none := by
  unfold runPlan at h
  rw [withInvoker_eq] at h
  obtain ⟨made, w₁, j₁, j₂, -, hused, -⟩ := gives_bind.mp h
  obtain ⟨u, hends, -⟩ := ends_within.mp hused
  obtain ⟨u₁, j₃, j₄, hpure, -, -⟩ := gives_ensuring.mp hends
  obtain ⟨rfl, -, -⟩ := gives_pure.mp hpure
  exact Option.some_ne_none _

/-- Only a call may find no result. -/
theorem command_eq_call_of_found {server : Server σ} {s : Surroundings} {i : Invocation}
    {w w' : World σ} {f : Finding} {j : List RunEvent} (h : (found server s i).Gives w f w' j)
    (hnone : f.result = none) : i.command = .call := by
  obtain ⟨settings, w₁, j₁, j₂, -, hrun, -⟩ := gives_bind.mp h
  obtain ⟨w₂, j₃, j₄, hcommand, -, -⟩ := gives_ensuring.mp hrun
  cases hname : i.command with
  | call => rfl
  | resolve =>
    rw [hname] at hcommand
    exact absurd hnone (runResolve_finds hcommand)
  | plan =>
    rw [hname] at hcommand
    exact absurd hnone (runPlan_finds hcommand)

/-! ### What a command raises and what it has to show -/

/-- The report of a result in the format that the invocation selects, complete. -/
def reportOf (s : Surroundings) (i : Invocation) (showTypes : Bool) (result : QueryResult) :
    Except Fault (List String) := do
  let (_, format) ← ({ i.wishes with showTypes }).resolve s.onTerminal
  format.lines (terminalWidth (Entries.get? "COLUMNS" s.environment)) result

/-- What is raised before an invocation has anything to write. -/
inductive Raises (server : Server σ) (s : Surroundings) (i : Invocation) (w : World σ) :
    Fault → Prop
  /-- There are no settings, or the command fails. -/
  | running {fault : Fault} {w' : World σ} {j : List RunEvent} :
    (found server s i).Fails w fault w' j → Raises server s i w fault
  /-- The command finds a result that cannot be reported in the selected format. -/
  | reporting {f : Finding} {result : QueryResult} {fault : Fault} {w' : World σ}
      {j : List RunEvent} :
    (found server s i).Gives w f w' j → f.result = some result →
      reportOf s i f.showTypes result = .error fault → Raises server s i w fault

/-- The command finds a result that has a report with these lines in the selected format. -/
inductive Reports (server : Server σ) (s : Surroundings) (i : Invocation) (w : World σ)
    (format : Format) (lines : List String) : Prop
  /-- A result is found, the format is selected, and it has these lines of the result. -/
  | result {f : Finding} {result : QueryResult} {formatClass : FormatClass} {w' : World σ}
      {j : List RunEvent} :
    (found server s i).Gives w f w' j → f.result = some result →
      ({ i.wishes with showTypes := f.showTypes }).resolve s.onTerminal =
        .ok (formatClass, format) →
      format.lines (terminalWidth (Entries.get? "COLUMNS" s.environment)) result = .ok lines →
      Reports server s i w format lines

/-- What an invocation that comes to its end has to write. -/
inductive Shows (server : Server σ) (s : Surroundings) (i : Invocation) (w : World σ) :
    String → Prop
  /-- A call without a result: nothing. -/
  | nothing {f : Finding} {w' : World σ} {j : List RunEvent} :
    (found server s i).Gives w f w' j → f.result = none → i.command = .call →
      Shows server s i w ""
  /-- The whole report of the result. -/
  | report {format : Format} {lines : List String} :
    Reports server s i w format lines → Shows server s i w (written lines)

/-- Of a report that an invocation has, this is all that is written: the lines before the first that
the encoding of the output cannot write. -/
inductive BreaksOff (server : Server σ) (s : Surroundings) (i : Invocation) (w : World σ) :
    String → Prop
  /-- Some lines are written and the next one is refused. Only with comma-separated values are there
  lines before that. -/
  | before {format : Format} {lines before : List String} {fault : Fault} :
    Reports server s i w format lines → s.encoding.BreaksOff lines before fault →
      (before ≠ [] → ∃ header, format = .csv header) → BreaksOff server s i w (written before)

/-- Where the encoding has every character, no report is broken off. -/
theorem not_breaksOff {server : Server σ} {s : Surroundings} (h : ∀ c, s.encoding.has c = true)
    {i : Invocation} {w : World σ} {output : String} : ¬ BreaksOff server s i w output := by
  rintro ⟨-, hbreaks, -⟩
  exact Encoding.not_breaksOff h hbreaks

/-- A report is made in the format that is selected. -/
theorem exists_format_of_reportOf {s : Surroundings} {i : Invocation} {showTypes : Bool}
    {result : QueryResult} {lines : List String} (h : reportOf s i showTypes result = .ok lines) :
    ∃ formatClass format,
      ({ i.wishes with showTypes }).resolve s.onTerminal = .ok (formatClass, format) ∧
        format.lines (terminalWidth (Entries.get? "COLUMNS" s.environment)) result = .ok lines := by
  obtain ⟨⟨formatClass, format⟩, hselected, hlines⟩ := Fallible.exists_of_bind_eq_ok h
  exact ⟨formatClass, format, hselected, hlines⟩

/-- Of a result the lines of its report are written if there is one, and else the fault is told. -/
theorem present_result (s : Surroundings) (i : Invocation) {f : Finding} {result : QueryResult}
    (hresult : f.result = some result) :
    present s i f =
      match reportOf s i f.showTypes result with
      | .ok lines =>
        match (Yield.ofLines lines).write s.encoding with
        | (output, none) => { code := 0, output, errors := f.note }
        | (output, some fault) => { (Ending.ofFault fault).preceded f.note with output }
      | .error fault => (Ending.ofFault fault).preceded f.note := by
  unfold present reportOf
  rw [hresult]
  dsimp only
  generalize ({ i.wishes with showTypes := f.showTypes } : Wishes).resolve s.onTerminal = chosen
  rcases chosen with fault | ⟨_, format⟩
  · rfl
  · dsimp only
    rw [write_yield]
    change _ = match format.lines _ result with | .ok lines => _ | .error fault => _
    cases format.lines (terminalWidth (Entries.get? "COLUMNS" s.environment)) result with
    | ok lines => rfl
    | error fault => simp [Ending.preceded, output_ofFault]

/-- What is presented of a finding is all that the invocation has to show, or all of it up to where
it is broken off, or nothing and the code of what is raised. -/
theorem present_cases {server : Server σ} {s : Surroundings} {i : Invocation} {w w' : World σ}
    {f : Finding} {j : List RunEvent} (h : (found server s i).Gives w f w' j) :
    ((present s i f).code = 0 ∧ Shows server s i w (present s i f).output) ∨
      ((present s i f).code = 1 ∧ BreaksOff server s i w (present s i f).output) ∨
      ((present s i f).output = "" ∧
        ∃ fault, Raises server s i w fault ∧ (present s i f).code = codeOf fault) := by
  cases hresult : f.result with
  | none =>
    have hpresent : present s i f = { code := 0, errors := f.note } := by
      unfold present
      rw [hresult]
    rw [hpresent]
    exact Or.inl ⟨rfl, .nothing h hresult (command_eq_call_of_found h hresult)⟩
  | some result =>
    rw [present_result s i hresult]
    cases hreport : reportOf s i f.showTypes result with
    | error fault =>
      exact Or.inr (Or.inr
        ⟨output_ofFault fault, fault, .reporting h hresult hreport, code_ofFault fault⟩)
    | ok lines =>
      obtain ⟨formatClass, format, hselected, hlines⟩ := exists_format_of_reportOf hreport
      have hreports : Reports server s i w format lines := .result h hresult hselected hlines
      dsimp only
      rcases Yield.write_ofLines s.encoding lines with hall | ⟨before, fault, hbreaks, hbefore⟩
      · rw [hall]
        exact Or.inl ⟨rfl, .report hreports⟩
      · rw [hbefore]
        have hcode : (Ending.ofFault fault).code = 1 :=
          (code_ofFault fault).trans (codeOf_of_breaksOff hbreaks)
        exact Or.inr (Or.inl ⟨hcode, .before hreports hbreaks (hbreaks.exists_csv · hlines)⟩)

/-- An invocation ends as the fault of its run if that fails, and else presents what is found. -/
theorem runInvocation_gives (server : Server σ) (s : Surroundings) (i : Invocation) (w : World σ) :
    ∃ ending w' j, (runInvocation server s i).Gives w ending w' j ∧
      ((∃ fault, (found server s i).Fails w fault w' j ∧ ending = Ending.ofFault fault) ∨
        ∃ f, (found server s i).Gives w f w' j ∧ ending = present s i f) := by
  rcases gives_or_fails (found server s i) w with ⟨f, w', j, hgives⟩ | ⟨fault, w', j, hfails⟩
  · refine ⟨present s i f, w', j, ?_, Or.inr ⟨f, hgives, rfl⟩⟩
    change runInvocation server s i w = _
    unfold runInvocation
    rw [show (do runCommand ⟨← Action.ofExcept (settingsOf s i), server⟩ i :
      Action (World σ) RunEvent Finding) w = _ from hgives]
  · refine ⟨Ending.ofFault fault, w', j, ?_, Or.inl ⟨fault, hfails, rfl⟩⟩
    change runInvocation server s i w = _
    unfold runInvocation
    rw [show (do runCommand ⟨← Action.ofExcept (settingsOf s i), server⟩ i :
      Action (World σ) RunEvent Finding) w = _ from hfails]

/-- The invocation that calls `SELECT 1` and asks for a format. -/
def selecting (format : String) : Invocation where
  verbose := false
  configPath := none
  profile := none
  url := none
  options := []
  wishes := { format := some format }
  command := .call
  text := "SELECT 1"
  arguments := []

/-- A server whose rows are not all as long as the heading. -/
def unevenServer : Server Rehearsal.ServerWorld :=
  Rehearsal.ServerScript.server
    { lastReply := { columns := [(.text "a", .int 23)], rows := [[.int 1], [.int 1, .int 2]] } }

/-- A server that answers any statement with two rows, of which only the first is ASCII. -/
def accentedServer : Server Rehearsal.ServerWorld :=
  Rehearsal.ServerScript.server
    { lastReply := { columns := [(.text "a", .int 25)], rows := [[.text "1"], [.text "é"]] } }

end CommandLine

end ProcedureCall
