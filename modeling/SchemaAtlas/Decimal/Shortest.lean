/-!
# The shortest decimal form of a floating-point number

A double is the integer `mantissa` times a power of two.  The reals that round
to it form an interval around it; the shortest decimal of the number is the one
with the fewest digits inside that interval, and the nearest of those.  All of
it is exact arithmetic on natural numbers.
-/

namespace SchemaAtlas

/-- A decimal number: `digits · 10 ^ exponent`. -/
structure Decimal where
  digits : Nat
  exponent : Int
  deriving DecidableEq, Repr

namespace Decimal

/-- A finite, positive double: `mantissa · 2 ^ exponent`.  `narrow` says whether
its rounding interval is half as wide below the number as above. -/
structure Dyadic where
  mantissa : Nat
  exponent : Int
  narrow : Bool

/-- The rounding interval of a number, as numerators over one denominator; a
closed interval holds its ends. -/
structure Interval where
  low : Nat
  value : Nat
  high : Nat
  denominator : Nat
  closed : Bool

/-- The interval of the reals that round to a number.  A quarter of the number's
last place is the unit, so that all three points are whole. -/
def Dyadic.interval (number : Dyadic) : Interval :=
  let up := (number.exponent - 2).toNat
  let down := (2 - number.exponent).toNat
  { low := (4 * number.mantissa - if number.narrow then 1 else 2) * Nat.pow 2 up
    value := 4 * number.mantissa * Nat.pow 2 up
    high := (4 * number.mantissa + 2) * Nat.pow 2 up
    denominator := Nat.pow 2 down
    closed := number.mantissa % 2 == 0 }

/-- Whether a fraction lies in an interval. -/
def Interval.holds (interval : Interval) (numerator denominator : Nat) : Bool :=
  let left := interval.low * denominator
  let point := numerator * interval.denominator
  let right := interval.high * denominator
  if interval.closed then decide (left ≤ point) && decide (point ≤ right)
  else decide (left < point) && decide (point < right)

/-- The number of decimal digits before the point of a fraction; not positive
where the fraction begins with zeros behind the point. -/
def magnitude (numerator denominator : Nat) : Int :=
  let scaled := numerator * Nat.pow 10 400 / denominator
  ((Nat.toDigits 10 scaled).length : Int) - 400

/-- The decimal of the given number of digits that is nearest to the value among
those inside the interval; a value halfway between two goes up. -/
def Interval.nearest? (interval : Interval) (size : Nat) : Option Decimal :=
  let exponent : Int := magnitude interval.value interval.denominator - size
  let up : Nat := Nat.pow 10 exponent.toNat
  let down : Nat := Nat.pow 10 (-exponent).toNat
  let scaled := interval.value * down
  let step := interval.denominator * up
  let below := scaled / step
  let rest := scaled % step
  let holds digits := interval.holds (digits * up) down
  match holds below, holds (below + 1) with
  | false, false => none
  | true, false => some ⟨below, exponent⟩
  | false, true => some ⟨below + 1, exponent⟩
  | true, true =>
    some ⟨if 2 * rest < step then below else below + 1, exponent⟩

/-- The shortest decimal of a number.  Seventeen digits always suffice. -/
def Dyadic.shortest (number : Dyadic) : Decimal :=
  let interval := number.interval
  ((List.range 17).findSome? fun size => interval.nearest? (size + 1)).getD
    ⟨0, 0⟩

/-- A decimal written with a point and no exponent, without superfluous
zeros. -/
def positional (number : Decimal) : String :=
  let digits := Nat.toDigits 10 number.digits
  if 0 ≤ number.exponent then
    String.ofList (digits ++ List.replicate number.exponent.toNat '0')
  else
    let places := (-number.exponent).toNat
    let padded := List.replicate (places + 1 - digits.length) '0' ++ digits
    let whole := padded.take (padded.length - places)
    let fraction := padded.drop (padded.length - places)
    let kept := (fraction.reverse.dropWhile (· == '0')).reverse
    if kept.isEmpty then String.ofList whole
    else String.ofList (whole ++ ['.'] ++ kept)

/-- The text of a double: its shortest decimal in positional form, a minus sign
also in front of a negative zero, and words for what is no number. -/
def ofFloat (value : Float) : String :=
  let bits : Nat := value.toBits.toNat
  let negative := bits / Nat.pow 2 63 == 1
  let biased : Nat := bits / Nat.pow 2 52 % Nat.pow 2 11
  let fraction : Nat := bits % Nat.pow 2 52
  let sign := if negative then "-" else ""
  if biased = 2047 then
    if fraction = 0 then sign ++ "inf" else "NaN"
  else if biased = 0 && fraction = 0 then sign ++ "0"
  else
    let number : Dyadic :=
      if biased = 0 then ⟨fraction, -1074, false⟩
      else
        ⟨fraction + Nat.pow 2 52, (biased : Int) - 1075,
          fraction == 0 && decide (1 < biased)⟩
    sign ++ number.shortest.positional

end Decimal

end SchemaAtlas
