/-!
# Options on a command line

Options are read from words. A long option takes its value behind an equals sign or from the next
word; short options may be written together, and one that takes a value takes the rest of its word
or the next one. Two hyphens end the options. Where options may not stand between other words, the
first other word ends them too.
-/

namespace ProcedureCall.CommandLine

/-- An option: its key, how it is written, and whether it takes a value. -/
structure OptionForm (κ : Type) where
  /-- The key. -/
  key : κ
  /-- How it is written, with its hyphens. -/
  names : List String
  /-- Does it take a value? -/
  takesValue : Bool := true

/-- Options that were found, with their values, and the other words. -/
structure Scanned (κ : Type) where
  /-- The options in order. -/
  found : List (κ × Option String)
  /-- The other words. -/
  words : List String

/-- Options read from one word, and the one that still wants its value from the next word. -/
abbrev WordOptions (κ : Type) := List (κ × Option String) × Option κ

section

variable {κ : Type} (forms : List (OptionForm κ))

/-- The option that is written in some way. -/
def formOf? (name : String) : Option (OptionForm κ) := forms.find? fun f => f.names.contains name

/-- Short options written together. -/
def cluster : List Char → Option (WordOptions κ)
  | [] => some ([], none)
  | c :: rest =>
    match formOf? forms (String.ofList ['-', c]) with
    | none => none
    | some f =>
      if f.takesValue then
        some <|
          if rest.isEmpty then ([], some f.key) else ([(f.key, some (String.ofList rest))], none)
      else (cluster rest).map fun (found, wanting) => ((f.key, none) :: found, wanting)

/-- A long option; `none` if there is none of this name, the inner `none` if it takes no value and
one is given. -/
def longOption (word : List Char) : Option (Option (WordOptions κ)) :=
  let name := word.takeWhile (· != '=')
  let value := (word.dropWhile (· != '=')).tail?.map String.ofList
  if ¬ ['-', '-'].isPrefixOf name then none
  else
    (formOf? forms (String.ofList name)).map fun f =>
      match f.takesValue, value with
      | true, some value => some ([(f.key, some value)], none)
      | true, none => some ([], some f.key)
      | false, some _ => none
      | false, none => some ([(f.key, none)], none)

/-- The options of a word. -/
def wordOptions (word : List Char) : Option (WordOptions κ) :=
  match longOption forms word with
  | some options => options
  | none => if ['-', '-'].isPrefixOf word then none else cluster forms (word.drop 1)

/-- Does a word hold options? -/
def holdsOptions (word : List Char) : Bool := word.head? == some '-' && 1 < word.length

/-- Reads words, where `wanting` is the option that wants its value. -/
def scanFrom (interspersed : Bool) : Option κ → List String → Option (Scanned κ)
  | none, [] => some ⟨[], []⟩
  | some _, [] => none
  | some key, word :: rest =>
    (scanFrom interspersed none rest).map fun s => { s with found := (key, some word) :: s.found }
  | none, word :: rest =>
    if word = "--" then some ⟨[], rest⟩
    else if holdsOptions word.toList then
      match wordOptions forms word.toList with
      | none => none
      | some (found, wanting) =>
        (scanFrom interspersed wanting rest).map fun s => { s with found := found ++ s.found }
    else if interspersed then
      (scanFrom interspersed none rest).map fun s => { s with words := word :: s.words }
    else some ⟨[], word :: rest⟩

/-- Reads words; `none` if they cannot be read. -/
def scan (interspersed : Bool) (words : List String) : Option (Scanned κ) :=
  scanFrom forms interspersed none words

end

namespace Scanned

variable {κ : Type} [DecidableEq κ] (s : Scanned κ)

/-- The values of an option in order. -/
def values (key : κ) : List String :=
  s.found.filterMap fun (k, value) => if k = key then value else none

/-- The last value of an option. -/
def last? (key : κ) : Option String := (s.values key).getLast?

/-- Was the option found? -/
def has (key : κ) : Bool := s.found.any fun entry => entry.1 == key

end Scanned

end ProcedureCall.CommandLine
