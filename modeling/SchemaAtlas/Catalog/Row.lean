import SchemaAtlas.Decimal.Shortest
import SchemaAtlas.Text.Blank
import SchemaAtlas.Text.Numeral
import SchemaAtlas.Text.Search
import SchemaAtlas.Text.Utf8

/-!
# Result rows

A catalog query is answered with rows of loosely typed cells.  Engines report
the same fact in different types, so a row is read leniently: a truth value may
be written as a word, a number or a truth value.  What cannot be read that way
is a fault that names the column.
-/

namespace SchemaAtlas

/-- Why a connection's answer could not be used. -/
inductive DriverError where
  /-- A row has too few columns. -/
  | missingColumn (index width : Nat)
  /-- A cell does not hold what was asked for. -/
  | decode (index : Nat) (expected found : String)
  /-- The connection itself reports a failure. -/
  | failure (text : String)
  deriving DecidableEq, Repr

def DriverError.message : DriverError → String
  | .missingColumn index width =>
    "column " ++ Text.decimal index ++ " out of range for row of width " ++
      Text.decimal width
  | .decode index expected found =>
    "column " ++ Text.decimal index ++ ": cannot read " ++ found ++ " as " ++
      expected
  | .failure text => text

namespace Catalog

/-- One cell of a row. -/
inductive Cell where
  | null
  | bool (value : Bool)
  | int (value : Int)
  | float (value : Float)
  | text (value : String)
  | bytes (value : List UInt8)

namespace Cell

/-- How messages call the type of a cell. -/
def kind : Cell → String
  | .null => "null"
  | .bool _ => "bool"
  | .int _ => "integer"
  | .float _ => "float"
  | .text _ => "text"
  | .bytes _ => "bytes"

/-- The text of a cell, missing for a null. -/
def text? : Cell → Option String
  | .null => none
  | .bool value => some (if value then "true" else "false")
  | .int value => some (Text.signedDecimal value)
  | .float value => some (Decimal.ofFloat value)
  | .text value => some value
  | .bytes value => some (Text.Utf8.decodeLossy value)

/-- The integer in a cell. -/
def int? : Cell → Option Int
  | .int value => some value
  | .bool value => some (if value then 1 else 0)
  | .text value => Text.signed64? (Text.trim value.toList)
  | _ => none

/-- The words for the two truth values. -/
def trueWords : List String :=
  ["t", "true", "1", "y", "yes"]

@[inherit_doc trueWords]
def falseWords : List String :=
  ["f", "false", "0", "n", "no", ""]

/-- The truth value that a word stands for. -/
def truth? (word : String) : Option Bool :=
  let folded := String.ofList ((Text.trim word.toList).map Char.toLower)
  if trueWords.contains folded then some true
  else if falseWords.contains folded then some false
  else none

/-- The truth value in a cell; a null is false. -/
def bool? : Cell → Option Bool
  | .null => some false
  | .bool value => some value
  | .int value => some (value != 0)
  | .text value => truth? value
  | _ => none

end Cell

structure Row where
  cells : List Cell

namespace Row

def cell (row : Row) (index : Nat) : Except DriverError Cell :=
  match row.cells[index]? with
  | some cell => .ok cell
  | none => .error (.missingColumn index row.cells.length)

/-- The text of a column, missing for a null. -/
def optionalText (row : Row) (index : Nat) :
    Except DriverError (Option String) := do
  let cell ← row.cell index
  return cell.text?

/-- The text of a column that may not be null. -/
def text (row : Row) (index : Nat) : Except DriverError String := do
  match ← row.optionalText index with
  | some text => return text
  | none => throw (.decode index "text" "null")

def int (row : Row) (index : Nat) : Except DriverError Int := do
  let cell ← row.cell index
  match cell.int? with
  | some value => return value
  | none => throw (.decode index "integer" cell.kind)

def bool (row : Row) (index : Nat) : Except DriverError Bool := do
  let cell ← row.cell index
  match cell.bool? with
  | some value => return value
  | none => throw (.decode index "bool" cell.kind)

end Row

end Catalog

end SchemaAtlas
