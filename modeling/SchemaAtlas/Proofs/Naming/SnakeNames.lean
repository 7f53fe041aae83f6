import Mathlib.Data.List.Basic
import SchemaAtlas.Proofs.Naming.Symbols
import SchemaAtlas.Proofs.Text.Cutting

/-!
# Names in snake case

A name in snake case is made of words of lowercase letters and digits, each of
which begins with a letter.  Cleaning leaves such a name as it is, and the parts
of the name are its words again.
-/

namespace SchemaAtlas

namespace Identifier

open Text

/-- A word of lowercase letters and digits that begins with a letter. -/
structure IsWord (word : List Char) : Prop where
  letter : word.head?.any Char.isLower = true
  small : ∀ c ∈ word, isSmall c = true

instance (word : List Char) : Decidable (IsWord word) :=
  decidable_of_iff
    (word.head?.any Char.isLower = true ∧ word.all isSmall = true)
    ⟨fun ⟨letter, small⟩ => ⟨letter, List.all_eq_true.mp small⟩,
      fun ⟨letter, small⟩ => ⟨letter, List.all_eq_true.mpr small⟩⟩

/-- The name in snake case that is made of some words. -/
def joinWords (words : List (List Char)) : List Char :=
  [separator].intercalate words

namespace IsWord

variable {word : List Char} (isWord : IsWord word)

include isWord

theorem exists_cons : ∃ first rest, word = first :: rest ∧
    first.isLower = true := by
  have letter := isWord.letter
  cases word with
  | nil => cases letter
  | cons first rest => exact ⟨first, rest, rfl, letter⟩

theorem ne_nil : word ≠ [] := by
  obtain ⟨first, rest, rfl, _⟩ := isWord.exists_cons
  exact List.cons_ne_nil _ _

theorem not_mem {c : Char} (other : isSmall c = false) :
    c ∉ word := fun membership =>
  Bool.false_ne_true (other.symm.trans (isWord.small c membership))

theorem not_mem_separator : separator ∉ word :=
  isWord.not_mem (by decide)

end IsWord

@[simp] theorem joinWords_nil : joinWords [] = [] := rfl

@[simp] theorem joinWords_singleton (word : List Char) :
    joinWords [word] = word := by
  simp [joinWords]

theorem joinWords_cons_cons (word next : List Char)
    (rest : List (List Char)) : joinWords (word :: next :: rest) =
      word ++ separator :: joinWords (next :: rest) := by
  simp [joinWords, List.intercalate_cons_cons]

/-- A name is its first word with the others behind it, each after a mark. -/
theorem joinWords_cons (word : List Char) (rest : List (List Char)) :
    joinWords (word :: rest) = word ++ rest.flatMap (separator :: ·) := by
  induction rest generalizing word with
  | nil => simp
  | cons next rest ih => simp [joinWords_cons_cons, ih]

variable {words : List (List Char)}

theorem mem_joinWords {c : Char} (membership : c ∈ joinWords words) :
    c = separator ∨ ∃ word ∈ words, c ∈ word := by
  cases words with
  | nil => cases membership
  | cons word rest =>
      rw [joinWords_cons, List.mem_append] at membership
      rcases membership with inFirst | later
      · exact Or.inr ⟨word, List.mem_cons_self, inFirst⟩
      · obtain ⟨other, isLater, inOther⟩ := List.mem_flatMap.mp later
        rcases List.mem_cons.mp inOther with mark | inWord
        · exact Or.inl mark
        · exact Or.inr ⟨other, List.mem_cons_of_mem _ isLater, inWord⟩

theorem map_joinWords (convert : Char → Char)
    (keeps : convert separator = separator) (words : List (List Char)) :
    (joinWords words).map convert = joinWords (words.map (·.map convert)) := by
  cases words with
  | nil => rfl
  | cons word rest =>
      simp only [joinWords_cons, List.map_cons, List.map_append,
        List.map_flatMap, List.flatMap_map, keeps]

theorem collapse_append {word text : List Char} (absent : separator ∉ word) :
    collapse (word ++ text) = word ++ collapse text := by
  induction word with
  | nil => rfl
  | cons c rest ih =>
      rw [List.mem_cons, not_or] at absent
      rw [List.cons_append, collapse, if_neg, ih absent.2]
      · rfl
      · exact fun marks => absent.1 marks.1.symm

/-- A text is stripped of nothing unless one of its ends is. -/
theorem strip_eq_self {text : List Char}
    (first : ∀ c ∈ text.head?, isLeading c = false)
    (last : ∀ c ∈ text.getLast?, c ≠ separator) : strip text = text := by
  have kept {drops : Char → Bool} {text : List Char}
      (stays : ∀ c ∈ text.head?, drops c = false) :
      text.dropWhile drops = text := by
    cases text with
    | nil => rfl
    | cons c rest =>
        apply List.dropWhile_cons_of_neg
        simp [stays c rfl]
  rw [strip, kept first, kept, List.reverse_reverse]
  intro c isLast
  rw [List.head?_reverse] at isLast
  simpa using last c isLast

variable (areWords : ∀ word ∈ words, IsWord word)

include areWords

theorem head?_joinWords : ∀ c ∈ (joinWords words).head?, c.isLower = true := by
  cases words with
  | nil => simp
  | cons word rest =>
      obtain ⟨first, tail, rfl, lower⟩ :=
        (areWords word List.mem_cons_self).exists_cons
      simp [joinWords_cons, lower]

theorem getLast?_joinWords :
    ∀ c ∈ (joinWords words).getLast?, isSmall c = true := by
  induction words with
  | nil => simp
  | cons word rest ih =>
      obtain ⟨isWord, later⟩ := List.forall_mem_cons.mp areWords
      cases rest with
      | nil =>
          intro c isLast
          rw [joinWords_singleton] at isLast
          exact isWord.small c (List.mem_of_mem_getLast? isLast)
      | cons next rest =>
          have filled : joinWords (next :: rest) ≠ [] := by
            rw [joinWords_cons]
            simp [(later next List.mem_cons_self).ne_nil]
          rw [joinWords_cons_cons, List.getLast?_append_of_ne_nil _
            (List.cons_ne_nil _ _), List.getLast?_cons_of_ne_nil filled]
          exact ih later

theorem collapse_joinWords : collapse (joinWords words) = joinWords words := by
  induction words with
  | nil => rfl
  | cons word rest ih =>
      obtain ⟨isWord, later⟩ := List.forall_mem_cons.mp areWords
      have absent := isWord.not_mem_separator
      cases rest with
      | nil =>
          have whole : collapse (word ++ []) = word ++ collapse [] :=
            collapse_append absent
          simpa [collapse] using whole
      | cons next rest =>
          have unmarked :
              (joinWords (next :: rest)).head? ≠ some separator :=
            fun marked => absurd (head?_joinWords later _ marked) (by decide)
          rw [joinWords_cons_cons, collapse_append absent, collapse,
            if_neg (fun marks => unmarked marks.2), ih later]

theorem cleanChars_joinWords :
    cleanChars (joinWords words) = joinWords words := by
  have solid : ∀ c ∈ joinWords words, isBlank c = false := by
    intro c membership
    rcases mem_joinWords membership with rfl | ⟨word, isIn, inWord⟩
    · decide
    · exact of_isSmall (isBlank · = false) (by decide)
        ((areWords word isIn).small c inWord)
  have kept : replaceOthers (joinWords words) = joinWords words := by
    refine (List.map_congr_left fun c membership => if_pos ?_).trans
      (List.map_id _)
    rcases mem_joinWords membership with rfl | ⟨word, isIn, inWord⟩
    · decide
    · exact of_isSmall (isPart · = true) (by decide)
        ((areWords word isIn).small c inWord)
  rw [cleanChars, trim_of_solid solid, kept, collapse_joinWords areWords]
  apply strip_eq_self
  · intro c isFirst
    have lower := head?_joinWords areWords c isFirst
    exact of_isSmall (fun c => c.isLower = true → isLeading c = false)
      (by decide) (Bool.or_eq_true_iff.mpr (Or.inl lower)) lower
  · rintro c isLast rfl
    exact absurd (getLast?_joinWords areWords _ isLast) (by decide)

theorem splitOn_joinWords (filled : words ≠ []) :
    splitOn separator (joinWords words) = words := by
  induction words with
  | nil => exact absurd rfl filled
  | cons word rest ih =>
      obtain ⟨isWord, later⟩ := List.forall_mem_cons.mp areWords
      have absent := isWord.not_mem_separator
      cases rest with
      | nil => rw [joinWords_singleton, splitOn_of_not_mem absent]
      | cons next rest =>
          rw [joinWords_cons_cons, splitOn_append absent,
            ih later (List.cons_ne_nil _ _)]

theorem parts_joinWords : parts (joinWords words) = words := by
  rcases eq_or_ne words [] with rfl | filled
  · rfl
  · rw [parts, splitOn_joinWords areWords filled, List.filter_eq_self]
    intro word membership
    simp [(areWords word membership).ne_nil]

end Identifier

end SchemaAtlas
