import SchemaAtlas.Proofs.Naming.SnakeNames

/-!
# The first word of a name

Where a text begins with a word of small characters and something follows that
may not stand in an identifier, cleaning ends the word there and keeps it.  The
camel case form of the text therefore begins with the camel case form of that
word, whatever the rest of the text is.
-/

namespace SchemaAtlas

open Text

namespace Identifier

/-- What follows on a word that has ended: nothing, or a mark first. -/
def Ended (rest : List Char) : Prop :=
  ∀ c ∈ rest.head?, c = separator

theorem Ended.of_start {shorter rest : List Char} (ended : Ended rest)
    (isPrefix : shorter <+: rest) : Ended shorter := by
  obtain ⟨more, rfl⟩ := isPrefix
  cases shorter with
  | nil => simp [Ended]
  | cons c shorter => exact ended

theorem ended_collapse (rest : List Char) :
    Ended (collapse (separator :: rest)) := by
  induction rest with
  | nil => simp [collapse, Ended]
  | cons c rest ih =>
      by_cases isMark : c = separator
      · rw [collapse, if_pos ⟨rfl, by simp [isMark]⟩, isMark]
        exact ih
      · rw [collapse, if_neg (by simp [isMark])]
        simp [Ended]

theorem rdropWhile_append {drops : Char → Bool} {word : List Char}
    (kept : word.rdropWhile drops = word) (rest : List Char) :
    (word ++ rest).rdropWhile drops = word ++ rest.rdropWhile drops := by
  induction rest using List.reverseRecOn with
  | nil => simpa using kept
  | append_singleton rest c ih =>
      rw [← List.append_assoc, List.rdropWhile_concat, List.rdropWhile_concat]
      split
      · exact ih
      · rw [List.append_assoc]

variable {word rest : List Char} (isWord : IsWord word)

include isWord

private theorem rdropWhile_of_isWord :
    word.rdropWhile (· == separator) = word := by
  rw [List.rdropWhile_eq_self_iff]
  intro filled marked
  have last := List.getLast_mem filled
  rw [eq_of_beq marked] at last
  exact isWord.not_mem_separator last

private theorem strip_append_of_isWord : strip (word ++ rest) =
    word ++ rest.rdropWhile (· == separator) := by
  obtain ⟨first, more, shape, lower⟩ := isWord.exists_cons
  have started : (word ++ rest).dropWhile isLeading = word ++ rest := by
    rw [shape, List.cons_append, List.dropWhile_cons_of_neg]
    have small : isSmall first = true := Bool.or_eq_true_iff.mpr (.inl lower)
    have notLeading : isLeading first = false :=
      of_isSmall (fun c => c.isLower = true → isLeading c = false)
        (by decide) small lower
    simp [notLeading]
  rw [strip, started]
  exact rdropWhile_append (rdropWhile_of_isWord isWord) rest

private theorem replaceOthers_append_of_isWord :
    replaceOthers (word ++ rest) = word ++ replaceOthers rest := by
  rw [replaceOthers, List.map_append]
  congr 1
  refine (List.map_congr_left fun c membership => if_pos ?_).trans
    (List.map_id _)
  exact of_isSmall (isPart · = true) (by decide) (isWord.small c membership)

private theorem splitOn_append_of_ended (ended : Ended rest) :
    ∃ pieces, splitOn separator (word ++ rest) = word :: pieces := by
  have absent := isWord.not_mem_separator
  cases rest with
  | nil => exact ⟨[], by rw [List.append_nil, splitOn_of_not_mem absent]⟩
  | cons c rest =>
      have isMark : c = separator := ended c rfl
      exact ⟨_, by rw [isMark, splitOn_append absent]⟩

/-- A word in front of a character that may not stand in an identifier is the
first word of the cleaned text. -/
theorem exists_parts_cleanChars {c : Char} (solid : isBlank c = false)
    (other : isPart c = false) :
    ∃ pieces, parts (cleanChars (word ++ c :: rest)) = word :: pieces := by
  obtain ⟨first, more, shape, lower⟩ := isWord.exists_cons
  have visible : isBlank first = false :=
    isBlank_of_isAlphanum (isAlphanum_of_isAlpha (isAlpha_of_isLower lower))
  have trimmed : trim (word ++ c :: rest) = word ++ c :: trimEnd rest := by
    have filled : trimEnd (c :: rest) ≠ [] := by
      simp [trimEnd_cons_of_solid solid]
    rw [trim, shape, List.cons_append, trimStart_cons_of_solid visible,
      ← List.cons_append, trimEnd_append_of_filled filled,
      trimEnd_cons_of_solid solid]
  have replaced : replaceOthers (c :: trimEnd rest) =
      separator :: replaceOthers (trimEnd rest) := by
    simp [replaceOthers, other]
  have ended := (ended_collapse (replaceOthers (trimEnd rest))).of_start
    (List.rdropWhile_prefix (· == separator) _)
  obtain ⟨pieces, split⟩ := splitOn_append_of_ended isWord ended
  refine ⟨pieces.filter fun piece => !piece.isEmpty, ?_⟩
  rw [cleanChars, trimmed, replaceOthers_append_of_isWord isWord, replaced,
    collapse_append isWord.not_mem_separator, strip_append_of_isWord isWord,
    parts, split, List.filter_cons_of_pos (by simp [isWord.ne_nil])]

end Identifier

namespace Initialisms

open Identifier

variable {set : Initialisms} {word rest : List Char} {c : Char}

/-- The camel case form of a text begins with that of its first word. -/
theorem exists_camelChars_append (isWord : IsWord word)
    (solid : isBlank c = false) (other : isPart c = false) :
    ∃ more, set.camelChars (word ++ c :: rest) =
      set.camelWord word ++ more := by
  obtain ⟨pieces, split⟩ := @exists_parts_cleanChars _ rest isWord _ solid other
  exact ⟨pieces.flatMap set.camelWord, by
    rw [camelChars, split, List.flatMap_cons]⟩

/-- No camel case form that begins with neither form of the first word is that
of the text. -/
theorem camelChars_append_ne (isWord : IsWord word) (solid : isBlank c = false)
    (other : isPart c = false) {name : List Char}
    (notUpper : ¬ upper word <+: name) (notTitle : ¬ titleCase word <+: name) :
    set.camelChars (word ++ c :: rest) ≠ name := by
  rintro rfl
  obtain ⟨more, shape⟩ :=
    @exists_camelChars_append set _ rest _ isWord solid other
  rw [shape, camelWord] at notUpper notTitle
  split at notUpper
  · exact notUpper (List.prefix_append _ _)
  next notHeld =>
    rw [if_neg notHeld] at notTitle
    exact notTitle (List.prefix_append _ _)

end Initialisms

end SchemaAtlas
