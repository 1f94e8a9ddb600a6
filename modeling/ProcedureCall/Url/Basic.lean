import ProcedureCall.Text.Case
import ProcedureCall.Url.Host
import ProcedureCall.Url.Query

/-!
# URLs

The parts of a URL as far as a connection needs them: scheme, user, password, host, port, path and
query. Nothing is unescaped but the query.
-/

namespace ProcedureCall.Url

/-- The parts of a URL. -/
structure Parts where
  /-- The scheme in small letters; empty if there is none. -/
  scheme : List Char
  /-- What stands between `//` and the path. -/
  authority : List Char
  /-- The path. -/
  path : List Char
  /-- The query. -/
  query : List Char
  deriving Repr

/-- Is the character allowed in a scheme? -/
def isSchemeChar (c : Char) : Bool :=
  Text.isAsciiLetter c || Text.isAsciiDigit c || c == '+' || c == '-' || c == '.'

/-- The scheme, and what follows its colon. -/
def cutScheme (s : List Char) : List Char × List Char :=
  match Text.cutFirst? ':' s with
  | some (c :: scheme, rest) =>
    if Text.isAsciiLetter c && scheme.all isSchemeChar then ((c :: scheme).map Char.toLower, rest)
    else ([], s)
  | _ => ([], s)

/-- The authority, and what follows it. -/
def cutAuthority : List Char → List Char × List Char
  | '/' :: '/' :: rest =>
    let isInside (c : Char) : Bool := c != '/' && c != '?' && c != '#'
    (rest.takeWhile isInside, rest.dropWhile isInside)
  | s => ([], s)

/-- The text before the first occurrence of a character, and the text after it. -/
def cutAt (c : Char) (s : List Char) : List Char × List Char := (Text.cutFirst? c s).getD (s, [])

/-- The code points whose compatibility form holds one of the characters that delimit the parts of a
URL, outside ASCII. -/
def delimiterLookalikes : List (Nat × Nat) :=
  [ (8263, 8265), (8448, 8449), (8453, 8454), (10868, 10868), (65043, 65043), (65046, 65046),
    (65109, 65110), (65119, 65119), (65131, 65131), (65283, 65283), (65295, 65295),
    (65306, 65306), (65311, 65312) ]

/-- The user part of an authority, if there is one, and its host part. -/
def cutUser (authority : List Char) : Option (List Char) × List Char :=
  match Text.cutLast? '@' authority with
  | some (user, host) => (some user, host)
  | none => (none, authority)

/-- The host as it is written, and the text of the port. -/
def cutHost (authority : List Char) : List Char × List Char :=
  let host := (cutUser authority).2
  match Text.cutFirst? '[' host with
  | some (_, bracketed) =>
    let (host, rest) := cutAt ']' bracketed
    (host, (cutAt ':' rest).2)
  | none => cutAt ':' host

/-- What is wrong with the brackets of an authority, if anything. -/
def bracketsFault? (authority : List Char) : Option String :=
  let opened := authority.contains '['
  let closed := authority.contains ']'
  if opened != closed then some "Invalid IPv6 URL"
  else if !opened then none
  else
    let host := (cutUser authority).2
    match Text.cutFirst? '[' host with
    | some (before, bracketed) =>
      let (host, rest) := cutAt ']' bracketed
      if !before.isEmpty || !(rest.isEmpty || rest.head? == some ':') then some "Invalid IPv6 URL"
      else bracketedFault? host
    | none => bracketedFault? (cutAt ':' host).1

/-- What is wrong with the characters of an authority, if anything. -/
def lookalikeFault? (authority : List Char) : Option String :=
  if authority.any fun c => Text.inRanges delimiterLookalikes c.toNat then
    some ("netloc '" ++ String.ofList authority ++
      "' contains invalid characters under NFKC normalization")
  else none

/-- The parts of a URL, or what is wrong with it. Control characters and spaces in front, and tabs
and line ends anywhere, are dropped. -/
def parts (url : List Char) : Except String Parts :=
  let url := (url.dropWhile fun c => c.toNat ≤ 32).filter fun c =>
    c != '\t' && c != '\r' && c != '\n'
  let (scheme, rest) := cutScheme url
  let (authority, rest) := cutAuthority rest
  let (path, query) := cutAt '?' (cutAt '#' rest).1
  match bracketsFault? authority <|> lookalikeFault? authority with
  | some fault => .error fault
  | none => .ok ⟨scheme, authority, path, query⟩

namespace Parts

variable (p : Parts)

/-- The host in small letters, apart from a zone. -/
def host : List Char :=
  match Text.cutFirst? '%' (cutHost p.authority).1 with
  | some (host, zone) => Text.lower host ++ '%' :: zone
  | none => Text.lower (cutHost p.authority).1

/-- The port; 0 if there is none. -/
def port : Except String Nat :=
  let text := (cutHost p.authority).2
  if text.isEmpty then .ok 0
  else if text.all Text.isAsciiDigit then do
    let port ← Numeral.integer text
    if port ≤ 65535 then .ok port.toNat else .error "Port out of range 0-65535"
  else .error ("Port could not be cast to integer value as " ++ String.ofList (Text.quoted text))

/-- The user and the password; each is empty if it is absent. -/
def user : List Char × List Char := cutAt ':' ((cutUser p.authority).1.getD [])

end Parts

end ProcedureCall.Url
