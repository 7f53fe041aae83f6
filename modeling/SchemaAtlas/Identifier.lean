import SchemaAtlas.Text.Blank
import SchemaAtlas.Text.Numeric
import SchemaAtlas.Text.Search

/-!
# Identifiers

Any text can be cleaned into an identifier: a run of letters, numbers and single
underscores that neither begins with an underscore or an ASCII digit nor ends in
an underscore.
-/

namespace SchemaAtlas.Identifier

open Text

/-- The mark between the words of an identifier. -/
def separator : Char := '_'

/-- Whether a character may stand in an identifier. -/
def isPart (c : Char) : Bool :=
  c == separator || isAlphanumeric c

/-- Whether a character is removed from the beginning of an identifier. -/
def isLeading (c : Char) : Bool :=
  c == separator || c.isDigit

/-- Merge each run of underscores into one. -/
def collapse : List Char → List Char
  | [] => []
  | c :: rest =>
    if c = separator ∧ rest.head? = some separator then collapse rest
    else c :: collapse rest

/-- Put an underscore in the place of every character that may not stand in an
identifier. -/
def replaceOthers (text : List Char) : List Char :=
  text.map fun c => if isPart c then c else separator

/-- The text without underscores and ASCII digits at its beginning and without
underscores at its end. -/
def strip (text : List Char) : List Char :=
  ((text.dropWhile isLeading).reverse.dropWhile (· == separator)).reverse

/-- Clean a text into an identifier. -/
def cleanChars (text : List Char) : List Char :=
  strip (collapse (replaceOthers (trim text)))

def parts (text : List Char) : List (List Char) :=
  (splitOn separator text).filter fun word => !word.isEmpty

def clean (text : String) : String :=
  String.ofList (cleanChars text.toList)

end SchemaAtlas.Identifier
