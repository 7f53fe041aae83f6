import SchemaAtlas.Text.Numeral

/-!
# Moments in time

Dates, times of day, and both together with the offset of a time zone.
-/

namespace SchemaAtlas.Toml

open Text

/-- A number of exactly so many digits, and what stands behind it. -/
def fixedNumber? (size : Nat) (text : List Char) :
    Option (Nat × List Char) :=
  let digits := text.take size
  if digits.length = size ∧ digits.all Char.isDigit then
    some (digitsValue digits, text.drop size)
  else none

/-- The number of days of a month. -/
def daysIn (year month : Nat) : Nat :=
  if month = 2 then
    if year % 4 = 0 ∧ (year % 100 ≠ 0 ∨ year % 400 = 0) then 29 else 28
  else if month = 4 ∨ month = 6 ∨ month = 9 ∨ month = 11 then 30
  else 31

/-- Read a date; the text behind it is left. -/
def afterDate? (text : List Char) : Option (List Char) := do
  let (year, rest) ← fixedNumber? 4 text
  let '-' :: rest := rest | none
  let (month, rest) ← fixedNumber? 2 rest
  let '-' :: rest := rest | none
  let (day, rest) ← fixedNumber? 2 rest
  if 1 ≤ month ∧ month ≤ 12 ∧ 1 ≤ day ∧ day ≤ daysIn year month then some rest
  else none

/-- Read the fraction of a second, if there is one. -/
def afterFraction? : List Char → Option (List Char)
  | '.' :: rest =>
    let digits := rest.takeWhile Char.isDigit
    if digits.isEmpty then none else some (rest.drop digits.length)
  | text => some text

/-- Read the seconds of a time, if there are any. -/
def afterSeconds? : List Char → Option (List Char)
  | ':' :: rest => do
    let (second, rest) ← fixedNumber? 2 rest
    if second ≤ 60 then afterFraction? rest else none
  | text => some text

/-- Read hours and minutes. -/
def afterMinutes? (text : List Char) : Option (List Char) := do
  let (hour, rest) ← fixedNumber? 2 text
  let ':' :: rest := rest | none
  let (minute, rest) ← fixedNumber? 2 rest
  if hour ≤ 23 ∧ minute ≤ 59 then some rest else none

/-- Read a time of day; the text behind it is left. -/
def afterTime? (text : List Char) : Option (List Char) :=
  (afterMinutes? text).bind afterSeconds?

/-- Whether a text is the offset of a time zone, or nothing. -/
def isOffset : List Char → Bool
  | [] => true
  | ['Z'] => true
  | ['z'] => true
  | '+' :: rest => afterMinutes? rest == some []
  | '-' :: rest => afterMinutes? rest == some []
  | _ => false

/-- Whether a word is a date, a time of day, or both. -/
def isMoment (word : List Char) : Bool :=
  match afterDate? word with
  | some [] => true
  | some (delimiter :: time) =>
    (delimiter == 'T' || delimiter == 't' || delimiter == ' ') &&
      (match afterTime? time with
        | some offset => isOffset offset
        | none => false)
  | none => afterTime? word == some []

end SchemaAtlas.Toml
