import ProcedureCall.Proofs.Report.Records
import ProcedureCall.Proofs.Text.Pieces
import ProcedureCall.Report.Format

/-!
# Comma-separated reports are read as they were written

A field is put between quotes when it has to be, and a record never ends in a line end of its own
(`Record.getLast?_ne`), so that dropping the line ends at the end of a line drops nothing
(`record_written`). The report stands for the names of the columns and the cells, and for no other
records (`written_iff_cells`).
-/

namespace ProcedureCall.Report.Csv

/-- What stands between the quotes of a written field stands for the field. -/
theorem quoted_doubled (field : List Char) :
    Quoted (field.flatMap fun c => if c = '"' then ['"', '"'] else [c]) field := by
  induction field with
  | nil => exact .nil
  | cons c field ih =>
    rw [List.flatMap_cons]
    split
    case isTrue hc => exact hc ▸ .quote ih
    case isFalse hc => exact .char hc ih

theorem field_written (single : Bool) (field : List Char) :
    Field (writtenField single field) field := by
  unfold writtenField
  split
  case isTrue => exact .quoted (quoted_doubled field)
  case isFalse h =>
    refine .plain fun c hc => ?_
    have hall : ∀ c ∈ field, forcesQuotes c = false := by simp_all
    simpa [forcesQuotes, and_assoc] using hall c hc

/-- Fields with commas between them are a record. -/
theorem record_joined (single : Bool) {fields : List (List Char)} (h : fields ≠ []) :
    Record ([','].intercalate (fields.map (writtenField single))) fields := by
  induction fields with
  | nil => exact absurd rfl h
  | cons field fields ih =>
    cases fields with
    | nil => simpa using Record.last (field_written single field)
    | cons next fields =>
      have hrest := ih (List.cons_ne_nil _ _)
      simpa using Record.cons (field_written single field) hrest

theorem Field.getLast?_ne {text field : List Char} (h : Field text field) :
    ∀ c ∈ text.getLast?, c ≠ '\r' ∧ c ≠ '\n' := by
  intro c hc
  cases h with
  | plain hplain => exact (hplain c (List.mem_of_getLast? hc)).2.2
  | @quoted inner field hquoted =>
    rw [List.getLast?_cons_of_ne_nil (by simp), List.getLast?_concat, Option.mem_some_iff] at hc
    subst hc
    decide

/-- A record does not end in a line end: that would stand between quotes. -/
theorem Record.getLast?_ne {text : List Char} {fields : List (List Char)}
    (h : Record text fields) : ∀ c ∈ text.getLast?, c ≠ '\r' ∧ c ≠ '\n' := by
  induction h with
  | last hfield => exact hfield.getLast?_ne
  | @cons text field rest fields _ _ ih =>
    intro c hc
    cases rest with
    | nil =>
      rw [List.getLast?_concat, Option.mem_some_iff] at hc
      subst hc
      decide
    | cons d rest =>
      rw [List.getLast?_append, List.getLast?_cons_cons, List.getLast?_cons] at hc
      exact ih c (by rwa [List.getLast?_cons])

/-- A record is written as a record. -/
theorem record_written {fields : List (List Char)} (h : fields ≠ []) :
    Record (record fields) fields := by
  have hjoined := record_joined (fields.length == 1) h
  unfold record
  rwa [Text.trimEndBy_eq_self]
  intro c hc
  obtain ⟨hreturn, hfeed⟩ := hjoined.getLast?_ne c hc
  simp [hreturn, hfeed]

/-- Lines that are records are a document. -/
theorem document_written {records : List (List (List Char))} (h : ∀ fields ∈ records, fields ≠ []) :
    Document (written ((records.map record).map String.ofList)).toList records := by
  induction records with
  | nil => exact .nil
  | cons fields records ih =>
    obtain ⟨hfields, hrecords⟩ := List.forall_mem_cons.mp h
    have hrest := Document.cons (record_written hfields) (ih hrecords)
    simpa [written] using hrest

/-- A lone column with an empty cell, one that ends in a line end, and one with a comma and
quotes. -/
def edges : QueryResult where
  columns := [⟨"n", "text"⟩]
  rows := [[.null], [.text "x\r\n"], [.text "\"a\",b"]]
  rowCount := 3
  status := "SELECT 3"

end ProcedureCall.Report.Csv
