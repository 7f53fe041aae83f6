import SchemaAtlas.Text.Numeral
import SchemaAtlas.Text.Search

/-!
# Reading decimal numbers

The floating-point number that a decimal text stands for: digits with at most
one point, an exponent, a sign, or one of the words for what is no number.
-/

namespace SchemaAtlas.Decimal

open Text

/-- A decimal number: a sign, and `digits · 10 ^ exponent`. -/
structure Scientific where
  negative : Bool
  digits : Nat
  exponent : Int
  deriving DecidableEq, Repr

/-- An integer with an optional sign, of any size. -/
def integer? : List Char → Option Int
  | '-' :: digits => (natural? digits).map fun value => -(value : Int)
  | '+' :: digits => (natural? digits).map fun value => (value : Int)
  | digits => (natural? digits).map fun value => (value : Int)

/-- Separate an optional sign from what it stands before. -/
def splitSign : List Char → Bool × List Char
  | '-' :: rest => (true, rest)
  | '+' :: rest => (false, rest)
  | text => (false, text)

/-- The digits before and behind a point, of which one side may be missing. -/
def splitPoint? (text : List Char) : Option (List Char × List Char) :=
  let (whole, fraction) := (splitOnce? '.' text).getD (text, [])
  if (whole ++ fraction).isEmpty || !(whole ++ fraction).all Char.isDigit then
    none
  else some (whole, fraction)

/-- Read a decimal text. -/
def Scientific.ofChars? (text : List Char) : Option Scientific := do
  let (negative, unsigned) := splitSign text
  let mantissa := unsigned.takeWhile fun c => c != 'e' && c != 'E'
  let (whole, fraction) ← splitPoint? mantissa
  let exponent ← match unsigned.drop mantissa.length with
    | [] => some 0
    | _ :: exponent => integer? exponent
  return {
    negative
    digits := digitsValue (whole ++ fraction)
    exponent := exponent - fraction.length }

/-- The nearest floating-point number, without its sign.  Numbers far outside
the range of the format are told by their number of digits. -/
def Scientific.magnitude (number : Scientific) : Float :=
  let size := (Nat.toDigits 10 number.digits).length + number.exponent
  if number.digits = 0 ∨ size < -400 then 0
  else if 400 < size then 1.0 / 0.0
  else
    Float.ofScientific number.digits (decide (number.exponent < 0))
      number.exponent.natAbs

def Scientific.toFloat (number : Scientific) : Float :=
  if number.negative then -number.magnitude else number.magnitude

/-- The floating-point number that a text stands for. -/
def toFloat? (text : String) : Option Float :=
  let (negative, word) := splitSign text.toList
  let word := String.ofList (word.map Char.toLower)
  if word = "inf" ∨ word = "infinity" then
    some (if negative then -(1.0 / 0.0) else 1.0 / 0.0)
  else if word = "nan" then some (0.0 / 0.0)
  else (Scientific.ofChars? text.toList).map Scientific.toFloat

end SchemaAtlas.Decimal
