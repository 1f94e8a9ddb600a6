import ProcedureCall.Fault
import ProcedureCall.Record.IntegerText
import ProcedureCall.Text.Octets
import ProcedureCall.Value.Text

/-!
# Reading records

Records are read from loose values: a number may come as a text, a truth value as a word. Every part
that cannot be read is told, with the way to it; only a fault of another kind ends the reading at
once.
-/

namespace ProcedureCall

/-- A value that was read, or what is wrong. -/
structure Reading (α : Type) where
  /-- The value, or the fault. -/
  result : Except Fault α

namespace Reading

variable {α β : Type}

/-- A value that needs no reading. -/
def ofValue (a : α) : Reading α := ⟨.ok a⟩

/-- Two readings, the first of which gives a function. What is wrong with either is told. -/
def apply (f : Reading (α → β)) (a : Reading α) : Reading β :=
  match f.result, a.result with
  | .ok f, .ok a => ⟨.ok (f a)⟩
  | .error (.invalid ds), .error (.invalid es) => ⟨.error (.invalid (ds ++ es))⟩
  | .error (.invalid ds), .ok _ => ⟨.error (.invalid ds)⟩
  | .error (.invalid _), .error fault => ⟨.error fault⟩
  | .error fault, _ => ⟨.error fault⟩
  | .ok _, .error fault => ⟨.error fault⟩

instance : Applicative Reading where
  pure := ofValue
  seq f a := apply f (a ())

/-- Something is wrong with the part itself. -/
def wrong (kind message : String) : Reading α := ⟨.error (.invalid [⟨[], kind, message⟩])⟩

/-- What is wrong with a part is wrong further inside. -/
def inside (step : Step) (r : Reading α) : Reading α :=
  match r.result with
  | .error (.invalid details) =>
    ⟨.error (.invalid (details.map fun d => { d with path := step :: d.path }))⟩
  | _ => r

/-- Turns a value down, with the words for it. -/
def checked (fault? : α → Option String) (r : Reading α) : Reading α :=
  match r.result with
  | .ok a =>
    match fault? a with
    | some message => wrong "value_error" ("Value error, " ++ message)
    | none => r
  | .error _ => r

/-- The readings of a list, one after another. -/
def all : List (Reading α) → Reading (List α)
  | [] => ofValue []
  | r :: rs => List.cons <$> r <*> all rs

end Reading

/-- Reads a loose value. -/
abbrev Reader (α : Type) := Value → Reading α

namespace Reader

variable {α : Type}

/-- The text of a value that holds one: a text, or octets that are one. The inner `none` stands for
octets that are none. -/
def textOf? (withBuffers : Bool) : Value → Option (Option (List Char))
  | .text s => some (some s.toList)
  | .octets .constant content => some (Text.ofOctets? content)
  | .octets .buffer content => if withBuffers then some (Text.ofOctets? content) else none
  | _ => none

/-- Reads a text. -/
def text : Reader String := fun v =>
  match textOf? true v with
  | some (some s) => pure (String.ofList s)
  | some none =>
    .wrong "string_unicode"
      "Input should be a valid string, unable to parse raw data as a unicode string"
  | none => .wrong "string_type" "Input should be a valid string"

/-- Does an integer fit a signed word of 64 bits? -/
def fitsWord (n : Int) : Bool := -(Nat.pow 2 63 : Nat) ≤ n && n < (Nat.pow 2 63 : Nat)

/-- Reads a number that is no integer by type as an integer. -/
def integerOfNumber (x : Binary) : Reading Int :=
  match x with
  | .finite .. =>
    match x.toInt? with
    | none =>
      .wrong "int_from_float" "Input should be a valid integer, got a number with a fractional part"
    | some n =>
      if n.natAbs < Nat.pow 2 63 then pure n
      else
        .wrong "int_parsing_size"
          "Unable to parse input string as an integer, exceeded maximum size"
  | _ => .wrong "finite_number" "Input should be a finite number"

/-- Reads a decimal number as an integer. -/
def integerOfDecimal (x : Decimal) : Reading Int :=
  match x with
  | .finite .. =>
    match x.toInt? with
    | some n => pure n
    | none =>
      .wrong "int_from_float" "Input should be a valid integer, got a number with a fractional part"
  | _ => .wrong "finite_number" "Input should be a finite number"

/-- Reads an integer: an integer, a truth value, a number without a fraction, or a text of one. -/
def integer : Reader Int := fun v =>
  let unreadable : Reading Int :=
    .wrong "int_parsing" "Input should be a valid integer, unable to parse string as an integer"
  match textOf? false v with
  | some none => unreadable
  | some (some s) =>
    match IntegerText.read s with
    | .value n => pure n
    | .malformed => unreadable
    | .tooLong =>
      .wrong "int_parsing_size"
        "Unable to parse input string as an integer, exceeded maximum size"
  | none =>
    match v with
    | .float x => integerOfNumber x
    | .decimal x => integerOfDecimal x
    | v =>
      match v.asInt? with
      | some n => pure n
      | none => .wrong "int_type" "Input should be a valid integer"

/-- A value as a number, if it is a number by type that the format can hold. -/
def number? : Value → Option Binary
  | .float x => some x
  | .decimal x => x.binary?
  | v =>
    v.asInt?.bind fun n =>
      match Binary.ofInt n with
      | .infinite _ => none
      | x => some x

/-- Reads a number: a number, a truth value, or a text of a number. White space may stand around
the text, or single low lines inside it, but not both. -/
def number : Reader Binary := fun v =>
  let unreadable : Reading Binary :=
    .wrong "float_parsing" "Input should be a valid number, unable to parse string as a number"
  match textOf? false v with
  | some none => unreadable
  | some (some s) =>
    match Numeral.binary? (Text.trimBy Text.isSpace s) <|>
        Numeral.binary? (IntegerText.withoutLowLines s) with
    | some x => pure x
    | none => unreadable
  | none =>
    match number? v with
    | some x => pure x
    | none => .wrong "float_type" "Input should be a valid number"

/-- The words for false and for true. -/
def truthWords : List (String × Bool) :=
  [ ("0", false), ("off", false), ("f", false), ("false", false), ("n", false), ("no", false),
    ("1", true), ("on", true), ("t", true), ("true", true), ("y", true), ("yes", true) ]

/-- The integer that a number stands for as a truth value, if it fits a word. -/
def wordOf? (v : Value) : Option Int :=
  let n : Option Int :=
    match v with
    | .int n => some n
    | v => (number? v).bind Binary.toInt?
  n.filter fitsWord

/-- Reads a truth value: a truth value, 0 or 1, or a word for one. -/
def truth : Reader Bool := fun v =>
  let unreadable : Reading Bool :=
    .wrong "bool_parsing" "Input should be a valid boolean, unable to interpret input"
  match v with
  | .bool b => pure b
  | v =>
    match textOf? false v with
    | some none => unreadable
    | some (some s) =>
      match truthWords.find? (·.1.toList == s.map Char.toLower) with
      | some (_, b) => pure b
      | none => unreadable
    | none =>
      match wordOf? v with
      | some n => if n = 0 then pure false else if n = 1 then pure true else unreadable
      | none => .wrong "bool_type" "Input should be a valid boolean"

/-- Reads a value that may be absent. -/
def optional (r : Reader α) : Reader (Option α) := fun v =>
  if v.isNull then pure none else some <$> r v

/-- Names between apostrophes, the last two joined by `or`. -/
def alternatives (names : List String) : String :=
  let shown := names.map fun name => "'" ++ name ++ "'"
  ", ".intercalate shown.dropLast ++ " or " ++ shown.getLastD ""

/-- Reads the name of one of some alternatives. -/
def choice (options : List α) (name : α → String) : Reader α := fun v =>
  match (textOf? true v).join.bind fun s => options.find? fun a => (name a).toList == s with
  | some a => pure a
  | none => .wrong "enum" ("Input should be " ++ alternatives (options.map name))

/-- The items of a list or a tuple, or the octets of a view as integers. -/
def items? : Value → Option (List Value)
  | .list items => some items
  | .tuple items => some items
  | .octets .view content => some (content.map fun octet => .int octet.toNat)
  | _ => none

/-- Reads a list. -/
def listOf (r : Reader α) : Reader (List α) := fun v =>
  match items? v with
  | some items => .all (items.zipIdx.map fun (v, place) => (r v).inside (.element place))
  | none => .wrong "list_type" "Input should be a valid list"

/-- Reads a tuple of any values. -/
def row : Reader (List Value) := fun v =>
  match items? v with
  | some items => pure items
  | none => .wrong "tuple_type" "Input should be a valid tuple"

/-- The step to the entry of a key. A key that is no text and no integer of a word goes by its
literal text. -/
def keyStep (key : Value) : Step :=
  match key, key.asInt?.filter fitsWord with
  | .text s, _ => .field s
  | _, some n => .element n
  | key, none => .field (String.ofList key.literal)

/-- Reads a table from texts to what a reader gives. -/
def tableOf (r : Reader α) : Reader (List (String × α)) := fun v =>
  match v with
  | .mapping entries =>
    .all <| entries.map fun (key, v) =>
      Prod.mk <$> ((text key).inside (.field "[key]")).inside (keyStep key) <*>
        (r v).inside (keyStep key)
  | _ => .wrong "dict_type" "Input should be a valid dictionary"

/-- Loose values by the names of fields. -/
abbrev Given := List (String × Value)

/-- The fields that a table gives. -/
def givenBy (entries : List (Value × Value)) : Given :=
  entries.filterMap fun
    | (.text name, v) => some (name, v)
    | _ => none

/-- Reads a record of a model. -/
def recordOf (model : String) (read : Given → Reading α) : Reader α := fun v =>
  match v with
  | .mapping entries => read (givenBy entries)
  | _ => .wrong "model_type" ("Input should be a valid dictionary or instance of " ++ model)

/-- The value of a field, if it is given. -/
def find (name : String) (given : Given) : Option Value :=
  (given.find? fun entry => entry.1 == name).map (·.2)

/-- Reads a field that must be given. -/
def required (given : Given) (name : String) (r : Reader α) : Reading α :=
  Reading.inside (.field name) <|
    match find name given with
    | some v => r v
    | none => .wrong "missing" "Field required"

/-- Reads a field that has a value of its own if it is not given. -/
def withDefault (given : Given) (name : String) (fallback : α) (r : Reader α) : Reading α :=
  match find name given with
  | some v => (r v).inside (.field name)
  | none => pure fallback

example : ((integer (.text " 5433.00 ")).result matches .ok 5433) := by decide +kernel
example : ((truth (.float (Binary.ofInt 2))).result matches .error (.invalid _)) := by
  decide +kernel

end Reader

end ProcedureCall
