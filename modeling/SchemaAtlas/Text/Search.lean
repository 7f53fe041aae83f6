import SchemaAtlas.Text.Span

/-!
# Cutting and searching texts

Splits at a separator, removal of a known beginning or end, occurrence of a
piece, and replacement of a piece.  All of them work on lists of characters.
-/

namespace SchemaAtlas.Text

/-- The pieces between the occurrences of a separator.  There is always one
piece more than there are separators. -/
def splitOn (separator : Char) : List Char → List (List Char)
  | [] => [[]]
  | c :: rest =>
    if c = separator then [] :: splitOn separator rest
    else
      match splitOn separator rest with
      | [] => [[c]]
      | piece :: pieces => (c :: piece) :: pieces

/-- The text before and after the first separator. -/
def splitOnce? (separator : Char) :
    List Char → Option (List Char × List Char)
  | [] => none
  | c :: rest =>
    if c = separator then some ([], rest)
    else (splitOnce? separator rest).map fun (head, tail) => (c :: head, tail)

/-- The text before and after the last separator. -/
def splitLast? (separator : Char) (text : List Char) :
    Option (List Char × List Char) :=
  (splitOnce? separator text.reverse).map fun (tail, head) =>
    (head.reverse, tail.reverse)

/-- The text after a known beginning, if it begins that way. -/
def withoutStart? (start text : List Char) : Option (List Char) :=
  if start.isPrefixOf text then some (text.drop start.length) else none

/-- The text before a known ending, if it ends that way. -/
def withoutEnd? (ending text : List Char) : Option (List Char) :=
  if ending.isSuffixOf text then
    some (text.take (text.length - ending.length))
  else none

/-- The text without a known ending, however often it ends that way. -/
def withoutEnds (ending text : List Char) : List Char :=
  match withoutEnd? ending text with
  | some shorter =>
    if shorter.length < text.length then withoutEnds ending shorter else text
  | none => text
termination_by text.length

/-- Whether a piece occurs somewhere in a text. -/
def occursIn (piece : List Char) : List Char → Bool
  | [] => piece.isEmpty
  | c :: rest => piece.isPrefixOf (c :: rest) || occursIn piece rest

/-- Replace the occurrences of a piece, which is not empty, from left to right;
the first argument counts the characters of an occurrence that are still to be
skipped. -/
def replaceFrom (piece replacement : List Char) :
    Nat → List Char → List Char
  | _, [] => []
  | skip + 1, _ :: rest => replaceFrom piece replacement skip rest
  | 0, c :: rest =>
    if piece.isPrefixOf (c :: rest) then
      replacement ++ replaceFrom piece replacement (piece.length - 1) rest
    else c :: replaceFrom piece replacement 0 rest

/-- The text with every occurrence of a piece replaced. -/
def replaceAll (piece replacement text : List Char) : List Char :=
  replaceFrom piece replacement 0 text

/-- Whether two texts agree up to the case of ASCII letters. -/
def equalIgnoringAsciiCase (left right : List Char) : Bool :=
  left.map Char.toLower == right.map Char.toLower

/-- The number of bytes a text takes in UTF-8. -/
def byteLength (text : List Char) : Nat :=
  text.foldr (fun c width => c.utf8Size + width) 0

/-- Cut a text after a number of bytes; a cut inside a character or behind the
end is refused. -/
def splitAtByte? : Nat → List Char → Option (List Char × List Char)
  | 0, text => some ([], text)
  | _ + 1, [] => none
  | count + 1, c :: rest =>
    if c.utf8Size ≤ count + 1 then
      (splitAtByte? (count + 1 - c.utf8Size) rest).map
        fun (head, tail) => (c :: head, tail)
    else none
termination_by _ text => text.length

theorem splitOn_ne_nil (separator : Char) (text : List Char) :
    splitOn separator text ≠ [] := by
  cases text with
  | nil => simp [splitOn]
  | cons c rest =>
      rw [splitOn]
      split
      · simp
      · split <;> simp

/-- A split at the first separator takes the text apart there. -/
theorem eq_of_splitOnce? {separator : Char} {text head tail : List Char}
    (cut : splitOnce? separator text = some (head, tail)) :
    text = head ++ separator :: tail ∧ separator ∉ head := by
  induction text generalizing head tail with
  | nil => simp [splitOnce?] at cut
  | cons c rest ih =>
      rw [splitOnce?] at cut
      split at cut
      next same =>
        simp only [Option.some.injEq, Prod.mk.injEq] at cut
        obtain ⟨rfl, rfl⟩ := cut
        simp [same]
      next different =>
        simp only [Option.map_eq_some_iff, Prod.exists, Prod.mk.injEq] at cut
        obtain ⟨before, after, inner, rfl, rfl⟩ := cut
        obtain ⟨shape, absent⟩ := ih inner
        refine ⟨by simp [shape], ?_⟩
        simp only [List.mem_cons, not_or]
        exact ⟨fun same => different same.symm, absent⟩

/-- A cut at a byte position takes the text apart there. -/
theorem eq_of_splitAtByte? {count : Nat} {text head tail : List Char}
    (cut : splitAtByte? count text = some (head, tail)) :
    text = head ++ tail ∧ byteLength head = count := by
  induction text generalizing count head tail with
  | nil =>
      cases count with
      | zero =>
          simp only [splitAtByte?, Option.some.injEq, Prod.mk.injEq] at cut
          obtain ⟨rfl, rfl⟩ := cut
          simp [byteLength]
      | succ count => simp [splitAtByte?] at cut
  | cons c rest ih =>
      cases count with
      | zero =>
          simp only [splitAtByte?, Option.some.injEq, Prod.mk.injEq] at cut
          obtain ⟨rfl, rfl⟩ := cut
          simp [byteLength]
      | succ count =>
          rw [splitAtByte?] at cut
          split at cut
          next fits =>
            simp only [Option.map_eq_some_iff, Prod.exists, Prod.mk.injEq]
              at cut
            obtain ⟨before, after, inner, rfl, rfl⟩ := cut
            obtain ⟨shape, width⟩ := ih inner
            refine ⟨by simp [shape], ?_⟩
            simp only [byteLength, List.foldr_cons] at width ⊢
            omega
          next => simp at cut

end SchemaAtlas.Text
