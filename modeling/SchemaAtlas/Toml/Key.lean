import SchemaAtlas.Toml.Quoted

/-!
# Keys

A key is a bare word or a quoted string on one line; keys with dots between them
lead into tables.
-/

namespace SchemaAtlas.Toml

/-- Whether a character may stand in a key without quotes. -/
def isBare (c : Char) : Bool :=
  c.isAlphanum || c == '_' || c == '-'

/-- Read a key without dots. -/
def simpleKey : Reader String
  | '\x22' :: rest => do
    let (letters, rest) ← basicString [] (rest.length + 1) rest
    return (String.ofList letters, rest)
  | '\x27' :: rest => do
    let (letters, rest) ← literalString rest
    return (String.ofList letters, rest)
  | text =>
    let letters := text.takeWhile isBare
    if letters.isEmpty then malformed text
    else .ok (String.ofList letters, text.drop letters.length)

/-- Read keys with dots between them; the number bounds the number of keys. -/
def keyPath : Nat → Reader (List String)
  | 0, text => malformed text
  | size + 1, text => do
    let (key, rest) ← simpleKey (skipBlanks text)
    match skipBlanks rest with
    | '.' :: rest => do
      let (path, rest) ← keyPath size rest
      return (key :: path, rest)
    | rest => return ([key], rest)

def key : Reader (List String) := fun text =>
  keyPath (text.length + 1) text

end SchemaAtlas.Toml
