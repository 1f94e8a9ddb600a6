import ProcedureCall.Fault
import ProcedureCall.Value.Basic

/-!
# Values as keys

Some tables are looked up by a value of any kind. A value that can be changed is no key. Numbers are
the same key if they are equal, whatever their kind.
-/

namespace ProcedureCall

namespace Value

/-- The class of a value as messages name it. -/
def className : Value → String
  | .null => "NoneType"
  | .bool _ => "bool"
  | .int _ => "int"
  | .float _ => "float"
  | .decimal _ => "decimal.Decimal"
  | .text _ => "str"
  | .octets .constant _ => "bytes"
  | .octets .buffer _ => "bytearray"
  | .octets .view _ => "memoryview"
  | .date _ => "datetime.date"
  | .time _ => "datetime.time"
  | .timestamp .. => "datetime.datetime"
  | .uuid _ => "UUID"
  | .list _ => "list"
  | .tuple _ => "tuple"
  | .mapping _ => "dict"

mutual

/-- Why a value is no key, if it is none. -/
def keyFault? : Value → Option Fault
  | .list _ => some (.mishap .wrongType "unhashable type: 'list'")
  | .mapping _ => some (.mishap .wrongType "unhashable type: 'dict'")
  | .octets .buffer _ => some (.mishap .wrongType "unhashable type: 'bytearray'")
  | .decimal (.notANumber _ true _) =>
    some (.mishap .wrongType "Cannot hash a signaling NaN value")
  | .tuple items => firstKeyFault? items
  | _ => none

/-- Why the first of some values that is no key is none, if there is one. -/
def firstKeyFault? : List Value → Option Fault
  | [] => none
  | item :: items => (keyFault? item).or (firstKeyFault? items)

end

/-- The integer that a value is the same key as, if there is one. -/
def keyInt? : Value → Option Int
  | .float x => x.toInt?
  | .decimal x => x.toInt?
  | v => v.asInt?

/-- Are two values of one kind and equal? -/
def isLike : Value → Value → Bool
  | .float x, .float y => x.same y
  | k, l => k == l

/-- Are two values the same key? -/
def sameKey (k l : Value) : Bool :=
  match k.keyInt?, l.keyInt? with
  | some m, some n => m == n
  | _, _ => k.isLike l

/-- The entries of a mapping with a value given to a key. -/
def putEntry (key item : Value) : List (Value × Value) → List (Value × Value)
  | [] => [(key, item)]
  | (k, v) :: rest =>
    if k.sameKey key then (k, item) :: rest else (k, v) :: putEntry key item rest

/-- The mapping that a sequence of pairs builds up. A key that comes again keeps its place and takes
the new value. -/
def mappingOf (pairs : List (Value × Value)) : Value :=
  .mapping (pairs.foldl (fun entries (key, item) => putEntry key item entries) [])

example : (Value.decimal (.finite false 11110 (-1))).keyInt? = some 1111 := by decide +kernel
example : (Value.tuple [.int 1, .list []]).keyFault?.isSome := by decide +kernel

end Value

end ProcedureCall
