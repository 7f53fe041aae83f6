import SchemaAtlas.Toml.Value

/-!
# Between the words of a document

Blanks, comments and the ends of lines, and what a reader of a document is.
-/

namespace SchemaAtlas.Toml

/-- A reader takes a value off the beginning of a text and leaves the rest. -/
abbrev Reader (α : Type) := List Char → Except Fault (α × List Char)

/-- The fault of a text that is not of the right form. -/
def malformed (rest : List Char) : Except Fault α :=
  .error (.malformed rest.length)

/-- Whether a character may stand in a comment or between the quotes of a
string on one line. -/
def isShown (c : Char) : Bool :=
  c == '\t' || (decide (0x20 ≤ c.toNat) && c.toNat != 0x7F)

/-- The text behind blanks and tabs. -/
def skipBlanks (text : List Char) : List Char :=
  text.dropWhile fun c => c == ' ' || c == '\t'

/-- The text behind a comment, if there is one. -/
def skipComment : List Char → List Char
  | '#' :: rest => rest.dropWhile isShown
  | text => text

/-- The text behind the end of a line. -/
def lineEnd? : List Char → Option (List Char)
  | '\n' :: rest => some rest
  | '\r' :: '\n' :: rest => some rest
  | _ => none

/-- The text behind blanks, comments and ends of lines; the number bounds the
number of lines. -/
def skipLines : Nat → List Char → List Char
  | 0, text => text
  | lines + 1, text =>
    let rest := skipComment (skipBlanks text)
    match lineEnd? rest with
    | some next => skipLines lines next
    | none => rest

/-- The text behind blanks, comments and ends of lines. -/
def skipSpace (text : List Char) : List Char :=
  skipLines (text.length + 1) text

end SchemaAtlas.Toml
