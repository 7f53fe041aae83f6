import SchemaAtlas.Text.Span

/-!
# Numerals

Decimal numerals with a bounded value: ASCII digits with at most one sign in
front, nothing else.
-/

namespace SchemaAtlas.Text

/-- The value of a run of decimal digits, read from the left. -/
def digitsValue (digits : List Char) : Nat :=
  digits.foldl (fun value digit => 10 * value + (digit.toNat - '0'.toNat)) 0

/-- The value of a numeral without a sign. -/
def natural? (text : List Char) : Option Nat :=
  if text.isEmpty || !text.all Char.isDigit then none
  else some (digitsValue text)

/-- An unsigned numeral of 32 bits, with an optional plus sign. -/
def unsigned32? (text : List Char) : Option Nat :=
  let digits := match text with
    | '+' :: rest => rest
    | _ => text
  (natural? digits).filter (· < Nat.pow 2 32)

/-- A signed numeral of 64 bits, with an optional sign. -/
def signed64? : List Char → Option Int
  | '-' :: digits =>
    (natural? digits).bind fun value =>
      if value ≤ Nat.pow 2 63 then some (-(value : Int)) else none
  | '+' :: digits =>
    (natural? digits).bind fun value =>
      if value < Nat.pow 2 63 then some (value : Int) else none
  | digits =>
    (natural? digits).bind fun value =>
      if value < Nat.pow 2 63 then some (value : Int) else none

def decimal (number : Nat) : String :=
  String.ofList (Nat.toDigits 10 number)

/-- The decimal numeral of an integer. -/
def signedDecimal : Int → String
  | .ofNat value => decimal value
  | .negSucc value => "-" ++ decimal (value + 1)

end SchemaAtlas.Text
