import SchemaAtlas.Text.Span

/-!
# White space

The property White_Space, trimming, and the split of a text into the words
between white space.
-/

namespace SchemaAtlas.Text

def isBlank (c : Char) : Bool :=
  c == ' ' || (decide (0x9 ≤ c.toNat) && decide (c.toNat ≤ 0xD)) ||
    [0x85, 0xA0, 0x1680, 0x2028, 0x2029, 0x202F, 0x205F, 0x3000].contains
      c.toNat ||
    (decide (0x2000 ≤ c.toNat) && decide (c.toNat ≤ 0x200A))

/-- The text without the white space that it begins with. -/
def trimStart (text : List Char) : List Char :=
  text.dropWhile isBlank

/-- The text without the white space that it ends in. -/
def trimEnd (text : List Char) : List Char :=
  (text.reverse.dropWhile isBlank).reverse

/-- The text without white space at either end. -/
def trim (text : List Char) : List Char :=
  trimEnd (trimStart text)

/-- The words of a text whose first word has begun with the reversed letters
`word`. -/
def wordsFrom (word : List Char) : List Char → List (List Char)
  | [] => if word.isEmpty then [] else [word.reverse]
  | c :: rest =>
    if isBlank c then
      if word.isEmpty then wordsFrom [] rest
      else word.reverse :: wordsFrom [] rest
    else wordsFrom (c :: word) rest

/-- The maximal runs of characters that are not white space. -/
def words (text : List Char) : List (List Char) :=
  wordsFrom [] text

def trimmed (text : String) : String :=
  String.ofList (trim text.toList)

end SchemaAtlas.Text
