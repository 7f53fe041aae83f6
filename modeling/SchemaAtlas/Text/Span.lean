/-!
# Sets of code points

A set of characters is written down as a list of spans: closed intervals of
code points, or combs that take every n-th code point of an interval.  The
tables of the modules beside this one list only characters above the ASCII
range, so a property reads its ASCII part from a rule and the rest from a table.
-/

namespace SchemaAtlas.Text

/-- A list of closed intervals of code points. -/
abbrev Spans := List (Nat × Nat)

/-- Whether some interval of the list holds the code point. -/
def Spans.covers (spans : Spans) (code : Nat) : Bool :=
  spans.any fun (first, last) => decide (first ≤ code) && decide (code ≤ last)

/-- A list of combs `(first, last, step)`: the code points from `first` to
`last` in steps of `step`. -/
abbrev Combs := List (Nat × Nat × Nat)

/-- Whether some comb of the list holds the code point. -/
def Combs.covers (combs : Combs) (code : Nat) : Bool :=
  combs.any fun (first, last, step) =>
    decide (first ≤ code) && decide (code ≤ last) && (code - first) % step == 0

/-- Whether the character belongs to the ASCII range. -/
def isAscii (c : Char) : Bool :=
  decide (c.toNat < 128)

theorem Spans.covers_iff {spans : Spans} {code : Nat} :
    spans.covers code = true ↔
      ∃ span ∈ spans, span.1 ≤ code ∧ code ≤ span.2 := by
  simp [Spans.covers]

end SchemaAtlas.Text
