import ProcedureCall.Text.Character

/-!
# Control sequences

A control sequence tells a terminal how to show what follows: an escape and an opening bracket,
digits and signs, and a letter. Text for other readers has none.
-/

namespace ProcedureCall.Text

/-- A digit or sign inside a control sequence. -/
def isSequencePart (c : Char) : Bool := isAsciiDigit c || c == ';' || c == '?'

/-- What follows the control sequence that an escape begins, if it begins one. -/
def afterSequence? : List Char → Option (List Char)
  | '[' :: rest =>
    match rest.dropWhile isSequencePart with
    | c :: rest => if isAsciiLetter c then some rest else none
    | [] => none
  | _ => none

/-- What follows a control sequence is shorter than the sequence was. -/
theorem length_lt_of_afterSequence? {s rest : List Char} (h : afterSequence? s = some rest) :
    rest.length < s.length := by
  unfold afterSequence? at h
  split at h
  · next inner =>
    have hle := (List.dropWhile_sublist (l := inner) isSequencePart).length_le
    split at h
    · next c after heq =>
      split at h
      · cases h
        rw [heq] at hle
        simp at hle ⊢
        omega
      · simp at h
    · simp at h
  · simp at h

/-- A text without its control sequences. -/
def withoutSequencesOf : List Char → List Char
  | [] => []
  | c :: rest =>
    if c = '\x1b' then
      match _h : afterSequence? rest with
      | some after => withoutSequencesOf after
      | none => c :: withoutSequencesOf rest
    else c :: withoutSequencesOf rest
termination_by s => s.length
decreasing_by
  · have := length_lt_of_afterSequence? ‹_›
    simp
    omega
  · simp
  · simp

/-- A text without its control sequences. -/
def withoutSequences (s : String) : String := String.ofList (withoutSequencesOf s.toList)

end ProcedureCall.Text
