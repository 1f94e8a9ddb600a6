import ProcedureCall.Text.Case
import ProcedureCall.Text.EmojiTable
import ProcedureCall.Text.Pieces

/-!
# Emoji by name

Text may name an emoji between two colons, `:smile:`, in small or capital letters. The name may ask
for the variant of the emoji that is a picture or for the one that is plain text, `:heart-text:`.
-/

namespace ProcedureCall.Text

/-- Emoji as characters, and their names. -/
structure EmojiEntry where
  /-- The characters. -/
  chars : List Char
  /-- Has the emoji variants in other tones of skin? -/
  hasTones : Bool
  /-- The names. -/
  names : List (List Char)

namespace EmojiEntry

/-- The character whose code point is written in hexadecimal digits. -/
def charOf (digits : List Char) : Char :=
  Char.ofNat (digits.foldl (fun sum c => 16 * sum + (hexValue? c).getD 0) 0)

/-- Reads a word of the table. -/
def ofWord (word : List Char) : EmojiEntry :=
  let toned := word.head? == some '+'
  match cutBy (· == ':') (if toned then word.tail else word) with
  | [] => ⟨[], toned, []⟩
  | codes :: names => ⟨(cutBy (· == '-') codes).map charOf, toned, names⟩

/-- Every entry of the table. -/
def all : List EmojiEntry := emojiLines.flatMap fun line => (words line.toList).map ofWord

/-- The characters with a tone of skin, which takes the place of a selector of pictures. -/
def withTone (e : EmojiEntry) (tone : Char) : List Char :=
  match e.chars with
  | [] => []
  | c :: '\ufe0f' :: rest => c :: tone :: rest
  | c :: rest => c :: tone :: rest

end EmojiEntry

/-- The tones of skin, by the ends of the names that ask for them. -/
def skinTones : List (String × Char) :=
  [ ("_light_skin_tone", Char.ofNat 0x1F3FB), ("_medium-light_skin_tone", Char.ofNat 0x1F3FC),
    ("_medium_skin_tone", Char.ofNat 0x1F3FD), ("_medium-dark_skin_tone", Char.ofNat 0x1F3FE),
    ("_dark_skin_tone", Char.ofNat 0x1F3FF) ]

/-- The text before a given end. -/
def beforeEnd? (ending s : List Char) : Option (List Char) :=
  (afterStart? ending.reverse s.reverse).map List.reverse

/-- The emoji with a name in small letters. -/
def emoji? (name : List Char) : Option (List Char) :=
  match EmojiEntry.all.find? (·.names.contains name) with
  | some e => some e.chars
  | none =>
    skinTones.findSome? fun (ending, tone) => do
      let base ← beforeEnd? ending.toList name
      let e ← EmojiEntry.all.find? fun e => e.hasTones && e.names.contains base
      some (e.withTone tone)

/-- The ends of names that ask for a variant, and the selectors that do so. -/
def emojiVariants : List (String × Char) := [("-emoji", '\ufe0f'), ("-text", '\ufe0e')]

/-- What stands for the text between two colons, if it names an emoji. -/
def named? (body : List Char) : Option (List Char) :=
  let variant := emojiVariants.findSome? fun (ending, selector) =>
    (beforeEnd? ending.toList body).map (·, [selector])
  let (name, selector) := variant.getD (body, [])
  (emoji? (lower name)).map (· ++ selector)

/-- The text with its emoji. After a colon that may begin a name, `held` has the characters since
then, backwards. No name holds white space, and a colon that ends one begins no other. -/
def withEmojiAfter : Option (List Char) → List Char → List Char
  | none, [] => []
  | none, c :: rest =>
    if c = ':' then withEmojiAfter (some []) rest else c :: withEmojiAfter none rest
  | some held, [] => ':' :: held.reverse
  | some held, c :: rest =>
    if c = ':' then
      (named? held.reverse).getD (':' :: held.reverse ++ [':']) ++ withEmojiAfter none rest
    else if isBlank c then ':' :: held.reverse ++ c :: withEmojiAfter none rest
    else withEmojiAfter (some (c :: held)) rest

/-- The text with the emoji that it names. -/
def withEmoji (s : List Char) : List Char := withEmojiAfter none s

example : withEmoji "a:b c:d".toList = "a:b c:d".toList := by decide +kernel

end ProcedureCall.Text
