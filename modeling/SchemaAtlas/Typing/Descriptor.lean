import SchemaAtlas.Text.Blank
import SchemaAtlas.Text.Numeral
import SchemaAtlas.Text.Search

/-!
# Native type descriptors

A catalog describes the type of a column by a text such as `numeric(10, 2)`,
`timestamp(3) with time zone`, `integer[]` or `SETOF text`.  This module takes
such a text apart: the size in parentheses, the array brackets, and the word
that announces a set of rows.
-/

namespace SchemaAtlas

open Text

/-- The size that a descriptor declares: a precision or length, and a scale. -/
structure Extent where
  precision : Option Nat
  scale : Option Nat
  deriving DecidableEq, Repr

namespace Extent

def none : Extent := ⟨.none, .none⟩

/-- Read the text between the parentheses: one numeral, or two with a comma
between them, each with white space around it. -/
def read? (inner : List Char) : Option Extent :=
  match (splitOn ',' inner).map trim with
  | [precision] =>
    (unsigned32? precision).map fun precision => ⟨some precision, .none⟩
  | [precision, scale] =>
    (unsigned32? precision).bind fun precision =>
      (unsigned32? scale).map fun scale => ⟨some precision, some scale⟩
  | _ => .none

end Extent

namespace Descriptor

/-- Join what stands before and behind a size that is taken out. -/
def close (head tail : List Char) : List Char :=
  let head := trimEnd head
  let tail := trimStart tail
  if tail.isEmpty then head else head ++ ' ' :: tail

/-- The first group in parentheses, with what stands before and behind it. -/
def firstGroup? (descriptor : List Char) :
    Option (List Char × List Char × List Char) :=
  (splitOnce? '(' descriptor).bind fun (head, rest) =>
    (splitOnce? ')' rest).map fun (inner, tail) => (head, inner, tail)

/-- Take the size out of a descriptor.  Only the first group in parentheses can
be a size; a group of another form stays where it is. -/
def splitExtent (descriptor : List Char) : List Char × Extent :=
  match firstGroup? descriptor with
  | none => (descriptor, Extent.none)
  | some (head, inner, tail) =>
    match Extent.read? inner with
    | none => (descriptor, Extent.none)
    | some extent => (close head tail, extent)

/-- The word that announces a set of rows, with the blank behind it. -/
def setWord : List Char := "SETOF ".toList

/-- The type of the rows, if a trimmed descriptor announces a set of them. -/
def rowType? (descriptor : List Char) : Option (List Char) :=
  if equalIgnoringAsciiCase (descriptor.take setWord.length) setWord then
    some (descriptor.drop setWord.length)
  else none

/-- The brackets at the end of an array type. -/
def arrayMark : List Char := "[]".toList

/-- The type of the elements, if a trimmed descriptor is that of an array. -/
def elementType? (descriptor : List Char) : Option (List Char) :=
  (withoutEnd? arrayMark descriptor).map trimEnd

theorem length_trimStart_le (text : List Char) :
    (trimStart text).length ≤ text.length :=
  (List.dropWhile_sublist _).length_le

theorem length_trimEnd_le (text : List Char) :
    (trimEnd text).length ≤ text.length := by
  have shorter :
      (text.reverse.dropWhile isBlank).length ≤ text.reverse.length :=
    (List.dropWhile_sublist _).length_le
  simpa [trimEnd] using shorter

theorem length_trim_le (text : List Char) :
    (trim text).length ≤ text.length :=
  Nat.le_trans (length_trimEnd_le _) (length_trimStart_le _)

/-- The type of the rows is a shorter text. -/
theorem length_rowType_lt {descriptor row : List Char}
    (announced : rowType? descriptor = some row) :
    row.length < descriptor.length := by
  simp only [rowType?] at announced
  split at announced
  next same =>
    simp only [Option.some.injEq] at announced
    subst announced
    have sizes : (descriptor.take setWord.length).length = setWord.length := by
      have mapped := congrArg List.length (eq_of_beq same)
      simpa [List.length_map] using mapped
    have positive : 0 < setWord.length := by decide
    simp only [List.length_take, List.length_drop] at sizes ⊢
    omega
  next => simp at announced

end Descriptor

end SchemaAtlas
