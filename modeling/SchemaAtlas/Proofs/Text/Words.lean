import SchemaAtlas.Text.Blank

/-!
# Words between white space

A text is some words in a row, with white space between any two of them and
perhaps at its ends.  `Spaced` says so without a scan; `words_eq_iff` shows that
the scan finds these words, so every text is made of its words in this way and
of no others.
-/

namespace SchemaAtlas.Text

/-- A word has letters, and none of them is white space. -/
structure IsSolid (word : List Char) : Prop where
  nonempty : word ≠ []
  solid : ∀ c ∈ word, isBlank c = false

theorem IsSolid.of_reversed {word : List Char} (nonempty : word ≠ [])
    (solid : ∀ c ∈ word, isBlank c = false) : IsSolid word.reverse where
  nonempty := by simpa using nonempty
  solid c isIn := solid c (List.mem_reverse.mp isIn)

/-- A text consists of some words and of the white space around them. -/
inductive Spaced : List (List Char) → List Char → Prop where
  | gap {gap : List Char} (blank : ∀ c ∈ gap, isBlank c = true) : Spaced [] gap
  | word {gap word rest : List Char} {later : List (List Char)}
      (blank : ∀ c ∈ gap, isBlank c = true) (solid : IsSolid word)
      (ends : ∀ c ∈ rest.head?, isBlank c = true) (others : Spaced later rest) :
      Spaced (word :: later) (gap ++ word ++ rest)

theorem Spaced.cons_blank {words : List (List Char)} {text : List Char}
    {c : Char} (blank : isBlank c = true) (spaced : Spaced words text) :
    Spaced words (c :: text) := by
  cases spaced with
  | gap blanks => exact .gap (List.forall_mem_cons.mpr ⟨blank, blanks⟩)
  | word blanks solid ends others =>
      exact .word (List.forall_mem_cons.mpr ⟨blank, blanks⟩) solid ends others

/-- The scan is inside a word or, where `word` is empty, between two. -/
theorem spaced_wordsFrom {word : List Char}
    (solid : ∀ c ∈ word, isBlank c = false) (text : List Char) :
    Spaced (wordsFrom word text) (word.reverse ++ text) := by
  induction text generalizing word with
  | nil =>
      cases word with
      | nil => exact .gap (List.forall_mem_nil _)
      | cons last front =>
          exact .word (List.forall_mem_nil _) (.of_reversed (by simp) solid)
            (by simp) (.gap (List.forall_mem_nil _))
  | cons c rest ih =>
      rw [wordsFrom]
      by_cases blank : isBlank c = true
      · have others : Spaced (wordsFrom [] rest) (c :: rest) :=
          (ih (List.forall_mem_nil _)).cons_blank blank
        rw [if_pos blank]
        cases word with
        | nil => exact others
        | cons last front =>
            exact .word (List.forall_mem_nil _) (.of_reversed (by simp) solid)
              (by simpa using blank) others
      · have longer : ∀ d ∈ c :: word, isBlank d = false :=
          List.forall_mem_cons.mpr ⟨Bool.eq_false_iff.mpr blank, solid⟩
        rw [if_neg blank]
        simpa using ih longer

theorem wordsFrom_append {word : List Char}
    (solid : ∀ c ∈ word, isBlank c = false) (front rest : List Char) :
    wordsFrom front (word ++ rest) =
      wordsFrom (word.reverse ++ front) rest := by
  induction word generalizing front with
  | nil => rfl
  | cons c later ih =>
      obtain ⟨first, others⟩ := List.forall_mem_cons.mp solid
      rw [List.cons_append, wordsFrom, if_neg (by simp [first]), ih others]
      simp

theorem words_append_of_blank {gap : List Char}
    (blank : ∀ c ∈ gap, isBlank c = true) (rest : List Char) :
    words (gap ++ rest) = words rest := by
  induction gap with
  | nil => rfl
  | cons c later ih =>
      obtain ⟨first, others⟩ := List.forall_mem_cons.mp blank
      rw [List.cons_append, words, wordsFrom, if_pos first]
      exact ih others

private theorem words_append_of_solid {word rest : List Char}
    (solid : IsSolid word) (ends : ∀ c ∈ rest.head?, isBlank c = true) :
    words (word ++ rest) = word :: words rest := by
  rw [words, wordsFrom_append solid.solid, List.append_nil]
  cases rest with
  | nil => simp [words, wordsFrom, solid.nonempty]
  | cons c later =>
      have blank : isBlank c = true := ends c rfl
      simp [words, wordsFrom, solid.nonempty, blank]

/-- Behind white space the scan is between two words, wherever it has been
before. -/
theorem wordsFrom_append_cons_of_blank {c : Char} (blank : isBlank c = true)
    (word front rest : List Char) :
    wordsFrom word (front ++ c :: rest) =
      wordsFrom word front ++ words rest := by
  induction front generalizing word with
  | nil =>
      rw [List.nil_append, wordsFrom.eq_def word (c :: rest)]
      cases word <;> simp [blank, wordsFrom, words]
  | cons d front ih =>
      rw [List.cons_append, wordsFrom, wordsFrom, ih, ih]
      split
      · cases word <;> rfl
      · rfl

theorem words_append_cons_of_blank {c : Char} (blank : isBlank c = true)
    (front rest : List Char) :
    words (front ++ c :: rest) = words front ++ words rest :=
  wordsFrom_append_cons_of_blank blank [] front rest

theorem words_append_gap {gap : List Char} (blank : ∀ c ∈ gap, isBlank c = true)
    (text : List Char) : words (text ++ gap) = words text := by
  cases gap with
  | nil => rw [List.append_nil]
  | cons c gap =>
      obtain ⟨first, later⟩ := List.forall_mem_cons.mp blank
      have none : words (gap ++ []) = words [] := words_append_of_blank later []
      rw [List.append_nil] at none
      rw [words_append_cons_of_blank first, none]
      exact List.append_nil _

theorem Spaced.words_eq {words : List (List Char)} {text : List Char}
    (spaced : Spaced words text) : Text.words text = words := by
  induction spaced with
  | gap blank =>
      simpa [Text.words, wordsFrom] using words_append_of_blank blank []
  | @word gap word rest later blank solid ends _ ih =>
      rw [List.append_assoc, words_append_of_blank blank,
        words_append_of_solid solid ends, ih]

/-- The words of a text are the ones that it consists of. -/
theorem words_eq_iff {text : List Char} {found : List (List Char)} :
    words text = found ↔ Spaced found text := by
  constructor
  · rintro rfl
    exact spaced_wordsFrom (List.forall_mem_nil _) text
  · exact Spaced.words_eq

end SchemaAtlas.Text
