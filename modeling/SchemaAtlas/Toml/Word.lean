import SchemaAtlas.Toml.Key
import SchemaAtlas.Toml.Moment
import SchemaAtlas.Toml.Number

/-!
# Values without parts

Numbers, truth values and moments, each of which is a single word, and strings.
-/

namespace SchemaAtlas.Toml

/-- Whether a character may stand in a number or a moment. -/
def isWordPart (c : Char) : Bool :=
  isBare c || c == '+' || c == '.' || c == ':'

/-- The word at the beginning of a text.  A blank may stand between a date and
a time of day. -/
def wordAt (text : List Char) : List Char :=
  let word := text.takeWhile isWordPart
  match afterDate? word, text.drop word.length with
  | some [], ' ' :: next :: rest =>
    if next.isDigit then
      word ++ ' ' :: (next :: rest).takeWhile isWordPart
    else word
  | _, _ => word

/-- The value that a word stands for. -/
def valueOfWord? (word : List Char) : Option Value :=
  let text := String.ofList word
  if text = "true" then some (.boolean true)
  else if text = "false" then some (.boolean false)
  else if specialFloats.contains text then some (.float text)
  else
    match integerOf? word with
    | some value => if fits value then some (.integer value) else none
    | none =>
      match floatText? word with
      | some decimal =>
        if isFinite decimal then some (.float (String.ofList decimal)) else none
      | none => if isMoment word then some (.moment text) else none

def wordValue : Reader Value := fun text =>
  let word := wordAt text
  match valueOfWord? word with
  | some value => .ok (value, text.drop word.length)
  | none => malformed text

def stringValue? : List Char → Option (Except Fault (Value × List Char))
  | '\x22' :: '\x22' :: '\x22' :: rest =>
    some do
      let (letters, rest) ← openLongString '\x22' true rest
      return (.string (String.ofList letters), rest)
  | '\x27' :: '\x27' :: '\x27' :: rest =>
    some do
      let (letters, rest) ← openLongString '\x27' false rest
      return (.string (String.ofList letters), rest)
  | '\x22' :: rest =>
    some do
      let (letters, rest) ← basicString [] (rest.length + 1) rest
      return (.string (String.ofList letters), rest)
  | '\x27' :: rest =>
    some do
      let (letters, rest) ← literalString rest
      return (.string (String.ofList letters), rest)
  | _ => none

end SchemaAtlas.Toml
