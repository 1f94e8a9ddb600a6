import ProcedureCall.Number.Numeral
import ProcedureCall.Text.Quoted

/-!
# Hosts between brackets

A host between brackets is an address of version 6, with a zone or without, or an address of a
future version that says so.
-/

namespace ProcedureCall.Url

/-- Is the text one of the four parts of an address of version 4? -/
def isOctetText (s : List Char) : Bool :=
  !s.isEmpty && s.length ≤ 3 && s.all Text.isAsciiDigit && (s.length == 1 || s.head? != some '0') &&
    (Numeral.leadingDigits s).2.1 ≤ 255

/-- Is the text an address of version 4? -/
def isVersion4 (s : List Char) : Bool :=
  let parts := Text.cutBy (· == '.') s
  parts.length == 4 && parts.all isOctetText

/-- Is the text one of the eight groups of an address of version 6? -/
def isGroup (s : List Char) : Bool := !s.isEmpty && s.length ≤ 4 && s.all Text.isHexDigit

/-- The groups of an address of version 6; four octets at the end count as two groups. -/
def groups? (s : List Char) : Option (List (List Char)) :=
  let parts := Text.cutBy (· == ':') s
  let last := parts.getLastD []
  if parts.length < 3 then none
  else if last.contains '.' then
    if isVersion4 last then some (parts.dropLast ++ [['0'], ['0']]) else none
  else some parts

/-- Are these the groups of an address? Eight groups; or fewer, with one gap, which is an empty
group, doubled where it stands at an end. -/
def areGroups (groups : List (List Char)) : Bool :=
  if 9 < groups.length then false
  else
    match (List.range groups.length).filter fun place =>
        0 < place && place + 1 < groups.length && groups[place]? == some [] with
    | [] => groups.length == 8 && groups.all isGroup
    | [gap] =>
      let before := groups.take gap
      let after := groups.drop (gap + 1)
      let open? (side : List (List Char)) (outermost : Option (List Char)) : Option Nat :=
        if outermost == some [] then (if side.length == 1 then some 0 else none)
        else if side.all isGroup then some side.length
        else none
      match open? before before.head?, open? after after.getLast? with
      | some high, some low => high + low ≤ 7
      | _, _ => false
    | _ => false

/-- Is the text an address of version 6, with a zone or without? -/
def isVersion6 (s : List Char) : Bool :=
  match Text.cutFirst? '%' s with
  | some (address, zone) =>
    !zone.isEmpty && !zone.contains '%' && (groups? address).any areGroups
  | none => (groups? s).any areGroups

/-- Is the text an address of a future version? -/
def isFuture (s : List Char) : Bool :=
  match Text.cutFirst? '.' s with
  | some ('v' :: version, rest) => !version.isEmpty && version.all Text.isHexDigit && !rest.isEmpty
  | _ => false

/-- What is wrong with a host between brackets, if anything. -/
def bracketedFault? (host : List Char) : Option String :=
  if host.head? == some 'v' then
    if isFuture host then none else some "IPvFuture address is invalid"
  else if isVersion4 host then some "An IPv4 address cannot be in brackets"
  else if isVersion6 host then none
  else some (String.ofList (Text.quoted host) ++ " does not appear to be an IPv4 or IPv6 address")

example : isVersion6 "::1".toList ∧ isVersion6 "fe80::1%eth0".toList ∧ isVersion6 "::".toList := by
  decide +kernel
example : isVersion6 "1:2:3:4:5:6:7::".toList ∧ ¬ isVersion6 "1:2:3:4:5:6:7:8::".toList := by
  decide +kernel
example : isVersion6 "::ffff:1.2.3.4".toList ∧ ¬ isVersion6 ":1::2".toList := by decide +kernel

end ProcedureCall.Url
