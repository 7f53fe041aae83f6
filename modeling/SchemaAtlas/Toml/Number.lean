import SchemaAtlas.Decimal.Read
import SchemaAtlas.Toml.Quoted

/-!
# Numbers

Integers in four bases and floating-point numbers, with underscores between
digits.
-/

namespace SchemaAtlas.Toml

open Text

/-- The digits of a numeral in which single underscores may stand between
digits. -/
def groupedDigits? (isDigit : Char → Bool) (text : List Char) :
    Option (List Char) :=
  let groups := splitOn '_' text
  if groups.all fun group => !group.isEmpty && group.all isDigit then
    some groups.flatten
  else none

/-- The digits of a decimal integer.  They have no zero in front, unless an
underscore parts them from a sign. -/
def wholeDigits? (signed : Bool) (text : List Char) : Option (List Char) :=
  match signed, text with
  | true, '_' :: digits => groupedDigits? Char.isDigit digits
  | _, digits =>
    (groupedDigits? Char.isDigit digits).filter fun digits =>
      digits == ['0'] || digits.head? != some '0'

/-- Whether an integer is within the bounds of 128 bits, with or without a
sign. -/
def fits (value : Int) : Bool :=
  decide (-(Nat.pow 2 127 : Int) ≤ value) &&
    decide (value < (Nat.pow 2 128 : Int))

/-- An integer in a base that is marked by a letter behind a zero. -/
def basedInteger? (base : Nat) (isDigit : Char → Bool) (text : List Char) :
    Option Int := do
  let digits ← groupedDigits? isDigit text
  let values ← digits.mapM hexValue?
  return (valueIn base values : Int)

/-- The integer that a word stands for. -/
def integerOf? (word : List Char) : Option Int :=
  match word with
  | '0' :: 'x' :: digits =>
    basedInteger? 16 (fun c => (hexValue? c).isSome) digits
  | '0' :: 'o' :: digits =>
    basedInteger? 8 (fun c => decide ('0' ≤ c ∧ c ≤ '7')) digits
  | '0' :: 'b' :: digits =>
    basedInteger? 2 (fun c => c == '0' || c == '1') digits
  | _ => do
    let (negative, unsigned) := Decimal.splitSign word
    let digits ← wholeDigits? (unsigned.length < word.length) unsigned
    let value : Int := digitsValue digits
    return if negative then -value else value

/-- The decimal text of a floating-point word, without underscores. -/
def floatText? (word : List Char) : Option (List Char) := do
  let (negative, unsigned) := Decimal.splitSign word
  let sign := if negative then ['-'] else []
  let mantissa := unsigned.takeWhile fun c => c != 'e' && c != 'E'
  let (whole, fraction) := match splitOnce? '.' mantissa with
    | some (whole, fraction) => (whole, some fraction)
    | none => (mantissa, none)
  let whole ← wholeDigits? (unsigned.length < word.length) whole
  let fraction ← match fraction with
    | some fraction =>
      (groupedDigits? Char.isDigit fraction).map fun digits => '.' :: digits
    | none => some []
  match unsigned.drop mantissa.length with
  | [] => if fraction.isEmpty then none else return sign ++ whole ++ fraction
  | _ :: exponent =>
    let (down, exponent) := Decimal.splitSign exponent
    let digits ← groupedDigits? Char.isDigit exponent
    return sign ++ whole ++ fraction ++ ['e'] ++
      (if down then ['-'] else []) ++ digits

/-- Whether a decimal text is within the range of floating-point numbers. -/
def isFinite (text : List Char) : Bool :=
  match Decimal.toFloat? (String.ofList text) with
  | some value => value.isFinite
  | none => false

/-- The words for what is no finite number. -/
def specialFloats : List String :=
  ["inf", "+inf", "-inf", "nan", "+nan", "-nan"]

end SchemaAtlas.Toml
