import SchemaAtlas.Proofs.Text.Cutting
import SchemaAtlas.Proofs.Text.Words

/-!
# Lines and their words

A text is cut into pieces at a separator, one more than there are separators,
and the separators put the pieces together again.  If the separator is white
space, no word reaches from one piece into the next, so the words of the text
are those of its pieces.  Trimming leaves the words as they are, since all that
it takes away is white space.
-/

namespace SchemaAtlas.Text

variable {c separator : Char} {text content : List Char}

/-! ## Pieces -/

theorem intercalate_splitOn (separator : Char) (text : List Char) :
    [separator].intercalate (splitOn separator text) = text := by
  rw [splitOn_eq_splitOnP, ← List.splitOn_eq_splitOnP]
  exact List.intercalate_splitOn separator

private theorem length_splitOn (separator : Char) (text : List Char) :
    (splitOn separator text).length = text.count separator + 1 := by
  induction text with
  | nil => rfl
  | cons c rest ih =>
      rw [splitOn, List.count_cons]
      split
      next same => simp [same, ih]
      next other =>
        rw [if_neg (by simpa using other), Nat.add_zero, ← ih]
        cases pieces : splitOn separator rest with
        | nil => exact absurd pieces (splitOn_ne_nil _ _)
        | cons piece later => rfl

/-- As many pieces as there are separators stand in front of the last one. -/
theorem exists_splitOn_eq_concat (separator : Char) (text : List Char) :
    ∃ front last, splitOn separator text = front ++ [last] ∧
      front.length = text.count separator := by
  have length := length_splitOn separator text
  rcases List.eq_nil_or_concat' (splitOn separator text) with
    noPieces | ⟨front, last, pieces⟩
  · exact absurd noPieces (splitOn_ne_nil _ _)
  · rw [pieces, List.length_append] at length
    exact ⟨front, last, pieces, Nat.succ.inj length⟩

/-! ## Trimmed texts -/

/-- What a text holds between the white space at its two ends. -/
structure IsContent (text content : List Char) : Prop where
  padded : ∃ before after, (∀ c ∈ before, isBlank c = true) ∧
    (∀ c ∈ after, isBlank c = true) ∧ text = before ++ content ++ after
  first : ∀ c ∈ content.head?, isBlank c = false
  last : ∀ c ∈ content.getLast?, isBlank c = false

theorem isBlank_head?_trimStart (text : List Char) :
    ∀ c ∈ (trimStart text).head?, isBlank c = false := by
  intro c isFirst
  have stopped := List.head?_dropWhile_not isBlank text
  rw [trimStart] at isFirst
  rwa [Option.mem_def.mp isFirst] at stopped

theorem isBlank_getLast?_trimEnd (text : List Char) :
    ∀ c ∈ (trimEnd text).getLast?, isBlank c = false := by
  intro c isLast
  rw [trimEnd, List.getLast?_reverse] at isLast
  exact isBlank_head?_trimStart text.reverse c isLast

theorem isContent_trim (text : List Char) : IsContent text (trim text) where
  padded := exists_padded_trim text
  first := by
    rw [trim, ← trimStart_trimEnd]
    exact isBlank_head?_trimStart _
  last := isBlank_getLast?_trimEnd _

theorem IsContent.trim_eq (isContent : IsContent text content) :
    trim text = content := by
  obtain ⟨⟨before, after, blankBefore, blankAfter, rfl⟩, first, last⟩ :=
    isContent
  rw [trim_padded blankBefore blankAfter]
  cases content with
  | nil => rfl
  | cons c rest =>
      refine trim_cons (first c rfl)
        (List.rdropWhile_eq_self_iff.mpr fun filled => ?_)
      simp [last _ (List.getLast?_eq_some_getLast filled)]

theorem trim_eq_iff : trim text = content ↔ IsContent text content := by
  constructor
  · rintro rfl
    exact isContent_trim text
  · exact IsContent.trim_eq

/-! ## Words of pieces -/

theorem words_trim (text : List Char) : words (trim text) = words text := by
  obtain ⟨before, after, blankBefore, blankAfter, shape⟩ :=
    exists_padded_trim text
  rw [shape, words_append_gap blankAfter,
    words_append_of_blank blankBefore, ← shape]

theorem words_intercalate (blank : isBlank c = true)
    (pieces : List (List Char)) :
    words ([c].intercalate pieces) = pieces.flatMap words := by
  induction pieces with
  | nil => rfl
  | cons piece later ih =>
      cases later with
      | nil => simp
      | cons next later =>
          rw [List.intercalate_cons_cons, List.append_assoc,
            List.singleton_append, words_append_cons_of_blank blank, ih]
          rfl

/-- A text that is cut at white space has the words of its pieces. -/
theorem flatMap_words_splitOn (blank : isBlank separator = true)
    (text : List Char) :
    (splitOn separator text).flatMap words = words text := by
  rw [← words_intercalate blank, intercalate_splitOn]

end SchemaAtlas.Text
