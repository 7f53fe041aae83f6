import SchemaAtlas.Text.Blank
import SchemaAtlas.Text.Search

/-!
# Labels of inline enumerations

A column type such as `enum('new','it''s')` lists the labels of an enumeration
in single quotes, with a quote inside a label written twice.
-/

namespace SchemaAtlas.Catalog

open Text

/-- The quote around a label. -/
def labelQuote : Char := '\x27'

/-- Read labels.  Inside a label its letters so far are given in reverse; what
stands between labels does not matter, nor does a label that is not closed. -/
def labelsFrom : Option (List Char) → List Char → List (List Char)
  | _, [] => []
  | none, c :: rest =>
    if c = labelQuote then labelsFrom (some []) rest else labelsFrom none rest
  | some letters, c :: rest =>
    if c = labelQuote then
      match rest with
      | next :: rest =>
        if next = labelQuote then labelsFrom (some (labelQuote :: letters)) rest
        else letters.reverse :: labelsFrom none (next :: rest)
      | [] => [letters.reverse]
    else labelsFrom (some (c :: letters)) rest
termination_by _ text => text.length

/-- The part of a column type that lists the labels. -/
def labelList (columnType : List Char) : List Char :=
  ((withoutStart? "enum(".toList (trim columnType)).bind
    (withoutEnd? ")".toList)).getD columnType

/-- The labels of a column type, in order. -/
def labels (columnType : String) : List String :=
  (labelsFrom none (labelList columnType.toList)).map String.ofList

end SchemaAtlas.Catalog
