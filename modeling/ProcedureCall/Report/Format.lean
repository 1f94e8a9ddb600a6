import ProcedureCall.Report.Csv
import ProcedureCall.Report.Encoding
import ProcedureCall.Report.Json
import ProcedureCall.Report.Table

/-!
# Formats of reports

A format turns a result into the lines of a report. A registry knows formats by name; the standard
one knows three.
-/

namespace ProcedureCall.Report

/-- A format with its options. -/
inductive Format where
  /-- Comma-separated values, with a heading or without. -/
  | csv (header : Bool)
  /-- JSON, on one line or indented. -/
  | json (compact : Bool)
  /-- A table for a terminal. -/
  | table (options : Table.Options)

/-- The width of a terminal that is not told. -/
def usualWidth : Nat := 120

/-- The width of the terminal, from the environment if that holds a positive number. -/
def terminalWidth (columns : Option String) : Nat :=
  match columns.bind fun s => Numeral.lenient? s.toList with
  | some n => if 0 < n then n.toNat else usualWidth
  | none => usualWidth

/-- All lines of a report, or what is wrong with the result. -/
def Format.lines (terminal : Nat) (r : QueryResult) : Format → Except Fault (List String)
  | csv header => .ok ((Csv.lines header r).map String.ofList)
  | json compact => (Json.text ⟨compact⟩ r).map fun text => [String.ofList text]
  | table options => (Table.text options terminal r).map fun text => [String.ofList text]

/-- Lines as they are written. -/
def written (lines : List String) : String := String.join (lines.map (· ++ "\n"))

/-- What a format hands out one after the other: lines, and then its end or a fault. -/
inductive Yield where
  /-- There are no more lines. -/
  | done
  /-- A fault keeps the format from its next line. -/
  | fails (fault : Fault)
  /-- A line, and what comes after it. -/
  | line (text : String) (rest : Yield)

namespace Yield

/-- Lines that are all there. -/
def ofLines : List String → Yield
  | [] => done
  | text :: rest => line text (ofLines rest)

/-- A single line, or what keeps it from being made. -/
def ofText : Except Fault (List Char) → Yield
  | .ok text => line (String.ofList text) done
  | .error fault => fails fault

/-- Writes each line as it comes to an output with an encoding: what is written, and the fault that
ends it, if one does. A line with a character that the encoding lacks is not written. -/
def write (e : Encoding) : Yield → String × Option Fault
  | done => ("", none)
  | fails fault => ("", some fault)
  | line text rest =>
    match e.refusal? (text ++ "\n") with
    | some message => ("", some (.mishap .badValue message))
    | none => (text ++ "\n" ++ (rest.write e).1, (rest.write e).2)

end Yield

/-- What a format hands out. The records of comma-separated values come one by one. -/
def Format.yield (terminal : Nat) (r : QueryResult) : Format → Yield
  | csv header => .ofLines ((Csv.lines header r).map String.ofList)
  | json compact => .ofText (Json.text ⟨compact⟩ r)
  | table options => .ofText (Table.text options terminal r)

/-- A class of formats. -/
inductive FormatClass where
  /-- Comma-separated values. -/
  | csv
  /-- JSON. -/
  | json
  /-- Tables. -/
  | table
  /-- A class that somebody else provides. -/
  | custom (name : String)
  deriving DecidableEq, Repr

namespace FormatClass

/-- The options that a class takes; a class of somebody else may take any. -/
def options? : FormatClass → Option (List String)
  | csv => some ["no_header"]
  | json => some ["compact"]
  | table => some ["width", "show_types"]
  | custom _ => none

end FormatClass

/-- Classes of formats by name. -/
abbrev FormatRegistry := List (String × FormatClass)

namespace FormatRegistry

/-- The registry of the standard formats. -/
def standard : FormatRegistry := [("csv", .csv), ("json", .json), ("table", .table)]

/-- Registers a class under a name. -/
def register (r : FormatRegistry) (name : String) (c : FormatClass) : FormatRegistry :=
  Entries.put name c r

/-- The known names in order. -/
def available (r : FormatRegistry) : List String := sortTexts (r.map (·.1))

/-- The class known by a name, made with some options. -/
def get (r : FormatRegistry) (name : String) (options : List String) : Except Fault FormatClass :=
  match Entries.get? name r with
  | none =>
    .error (.mishap .unknownKey ("Unknown format " ++ String.ofList (Text.quoted name.toList) ++
      ". Available: " ++ ", ".intercalate r.available))
  | some c =>
    match c.options? with
    | none => .ok c
    | some known =>
      match options.find? fun option => !known.contains option with
      | some option =>
        .error (.mishap .wrongType ("got an unexpected keyword argument '" ++ option ++ "'"))
      | none => .ok c

end FormatRegistry

/-- How reports are wanted. -/
structure Wishes where
  /-- The name of the format, if one is asked for. -/
  format : Option String := none
  /-- JSON on one line. -/
  compact : Bool := false
  /-- How many characters of a value a table shows. -/
  width : Int := 40
  /-- No heading for comma-separated values. -/
  noHeader : Bool := false
  /-- The types of the columns in tables. -/
  showTypes : Bool := false

/-- The format that is wanted: the one asked for, else a table on a terminal and comma-separated
values elsewhere. -/
def Wishes.resolve (w : Wishes) (onTerminal : Bool) : Except Fault (FormatClass × Format) :=
  let name := w.format.getD (if onTerminal then "table" else "csv")
  (FormatRegistry.standard.get name []).map fun c =>
    match c with
    | .json => (c, .json w.compact)
    | .table => (c, .table ⟨w.width, w.showTypes⟩)
    | _ => (c, .csv (!w.noHeader))

end ProcedureCall.Report
