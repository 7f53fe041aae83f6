import SchemaAtlas.Toml.Space

/-!
# Quoted strings

A string stands on one line or on several, between double quotes, where escapes
are read, or between single quotes, where they are not.
-/

namespace SchemaAtlas.Toml

/-- The character of a code point, if there is one. -/
def characterOf? (code : Nat) : Option Char :=
  if h : code.isValidChar then some (Char.ofNatAux code h) else none

/-- The value of a hexadecimal digit. -/
def hexValue? (c : Char) : Option Nat :=
  if c.isDigit then some (c.toNat - '0'.toNat)
  else if 'a' ≤ c.toLower ∧ c.toLower ≤ 'f' then
    some (c.toLower.toNat - 'a'.toNat + 10)
  else none

/-- The number with the given digits in a base. -/
def valueIn (base : Nat) (digits : List Nat) : Nat :=
  digits.foldl (fun value digit => base * value + digit) 0

/-- The character whose code point is written with a number of hexadecimal
digits. -/
def hexCharacter (size : Nat) : Reader Char := fun text =>
  let digits := (text.take size).mapM hexValue?
  let complete := digits.filter fun values => values.length == size
  match complete.bind fun values => characterOf? (valueIn 16 values) with
  | some c => .ok (c, text.drop size)
  | none => malformed text

/-- The character of an escape, behind its backslash. -/
def escape : Reader Char
  | 'b' :: rest => .ok ('\x08', rest)
  | 't' :: rest => .ok ('\t', rest)
  | 'n' :: rest => .ok ('\n', rest)
  | 'f' :: rest => .ok ('\x0c', rest)
  | 'r' :: rest => .ok ('\r', rest)
  | 'e' :: rest => .ok ('\x1b', rest)
  | '\x22' :: rest => .ok ('\x22', rest)
  | '\\' :: rest => .ok ('\\', rest)
  | 'x' :: rest => hexCharacter 2 rest
  | 'u' :: rest => hexCharacter 4 rest
  | 'U' :: rest => hexCharacter 8 rest
  | text => malformed text

/-- The text behind blanks, tabs and ends of lines. -/
def skipWhite : List Char → List Char
  | ' ' :: rest => skipWhite rest
  | '\t' :: rest => skipWhite rest
  | '\n' :: rest => skipWhite rest
  | '\r' :: '\n' :: rest => skipWhite rest
  | text => text

/-- The text behind the end of a line that an escape joins to the next line with
letters, and behind the white space in front of those. -/
def joinedLine? (text : List Char) : Option (List Char) :=
  (lineEnd? (skipBlanks text)).map skipWhite

/-- Read a string on one line behind its opening quote; the letters so far are
given in reverse, and the number bounds the number of letters. -/
def basicString (letters : List Char) : Nat → Reader (List Char)
  | _, [] => malformed []
  | 0, text => malformed text
  | size + 1, c :: rest =>
    if c = '\x22' then .ok (letters.reverse, rest)
    else if c = '\\' then do
      let (escaped, rest) ← escape rest
      basicString (escaped :: letters) size rest
    else if isShown c then basicString (c :: letters) size rest
    else malformed (c :: rest)

/-- Read a string without escapes on one line behind its opening quote. -/
def literalString : Reader (List Char) := fun text =>
  let letters := text.takeWhile fun c => isShown c && c != '\x27'
  match text.drop letters.length with
  | '\x27' :: rest => .ok (letters, rest)
  | rest => malformed rest

/-- The number of quotes at the beginning of a text. -/
def quoteCount (mark : Char) (text : List Char) : Nat :=
  (text.takeWhile (· == mark)).length

/-- Whether a character may stand in a string over several lines in front of a
text: the end of a line may, in either of its forms, and belongs to the string
as it is written. -/
def isShownBefore (rest : List Char) (c : Char) : Bool :=
  isShown c || c == '\n' || (c == '\r' && rest.head? == some '\n')

/-- Read a string over several lines behind its opening quotes.  Up to two
quotes in a row belong to the string, also directly before the closing ones. -/
def longString (mark : Char) (escapes : Bool) (letters : List Char) :
    Nat → Reader (List Char)
  | _, [] => malformed []
  | 0, text => malformed text
  | size + 1, c :: rest =>
    if c = mark then
      let quotes := quoteCount mark (c :: rest)
      if quotes < 3 then longString mark escapes (c :: letters) size rest
      else if quotes ≤ 5 then
        .ok (letters.reverse ++ List.replicate (quotes - 3) mark,
          (c :: rest).drop quotes)
      else malformed (c :: rest)
    else if escapes && c == '\\' then
      match joinedLine? rest with
      | some next => longString mark escapes letters size next
      | none => do
        let (escaped, rest) ← escape rest
        longString mark escapes (escaped :: letters) size rest
    else if isShownBefore rest c then
      longString mark escapes (c :: letters) size rest
    else malformed (c :: rest)

/-- Read a string over several lines, whose first line end does not count. -/
def openLongString (mark : Char) (escapes : Bool) : Reader (List Char) :=
  fun text =>
    longString mark escapes [] (text.length + 1) ((lineEnd? text).getD text)

end SchemaAtlas.Toml
