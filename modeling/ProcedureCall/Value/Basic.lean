import ProcedureCall.Calendar
import ProcedureCall.Number.Decimal

/-!
# Values

What is bound to a parameter, read from a call, returned by a server and shown in a report. A server
decides at run time which kind of value it sends, so there is one type for all of them.
-/

namespace ProcedureCall

/-- How octets are held. -/
inductive OctetForm where
  /-- A constant. -/
  | constant
  /-- A buffer that can be written to. -/
  | buffer
  /-- A view of octets held elsewhere. -/
  | view
  deriving DecidableEq, Repr

/-- A value. -/
inductive Value where
  /-- No value. -/
  | null
  /-- A truth value. -/
  | bool (b : Bool)
  /-- An integer. -/
  | int (n : Int)
  /-- A binary floating-point number. -/
  | float (x : Binary)
  /-- A decimal number. -/
  | decimal (x : Decimal)
  /-- A text. -/
  | text (s : String)
  /-- Octets. -/
  | octets (form : OctetForm) (content : List UInt8)
  /-- A date. -/
  | date (d : Date)
  /-- A time of day. -/
  | time (t : TimeOfDay)
  /-- A date with a time of day. -/
  | timestamp (d : Date) (t : TimeOfDay)
  /-- A universally unique identifier, by its text. -/
  | uuid (s : String)
  /-- A list. -/
  | list (items : List Value)
  /-- A tuple. -/
  | tuple (items : List Value)
  /-- A mapping, in the order of insertion. -/
  | mapping (entries : List (Value × Value))
  deriving Repr, Inhabited

namespace Value

mutual

/-- Equality of values, which tells apart values of different kinds. -/
def beq : Value → Value → Bool
  | .null, .null => true
  | .bool a, .bool b => a == b
  | .int a, .int b => a == b
  | .float a, .float b => a == b
  | .decimal a, .decimal b => a == b
  | .text a, .text b => a == b
  | .octets f a, .octets g b => f == g && a == b
  | .date a, .date b => a == b
  | .time a, .time b => a == b
  | .timestamp a s, .timestamp b t => a == b && s == t
  | .uuid a, .uuid b => a == b
  | .list a, .list b => beqAll a b
  | .tuple a, .tuple b => beqAll a b
  | .mapping a, .mapping b => beqEntries a b
  | _, _ => false

/-- Equality of lists of values. -/
def beqAll : List Value → List Value → Bool
  | [], [] => true
  | a :: as, b :: bs => beq a b && beqAll as bs
  | _, _ => false

/-- Equality of lists of entries. -/
def beqEntries : List (Value × Value) → List (Value × Value) → Bool
  | [], [] => true
  | (k, a) :: as, (l, b) :: bs => beq k l && beq a b && beqEntries as bs
  | _, _ => false

end

instance : BEq Value := ⟨beq⟩

/-- Is there no value? -/
def isNull : Value → Bool
  | .null => true
  | _ => false

/-- The integer that a value counts as: a truth value counts as 0 or 1. -/
def asInt? : Value → Option Int
  | .int n => some n
  | .bool b => some (if b then 1 else 0)
  | _ => none

/-- Is the value neither absent nor empty nor zero? -/
def isTruthy : Value → Bool
  | .null => false
  | .bool b => b
  | .int n => n != 0
  | .float x => !x.isZero
  | .decimal x => !x.isZero
  | .text s => !s.isEmpty
  | .octets _ content => !content.isEmpty
  | .list items => !items.isEmpty
  | .tuple items => !items.isEmpty
  | .mapping entries => !entries.isEmpty
  | _ => true

end Value

end ProcedureCall
