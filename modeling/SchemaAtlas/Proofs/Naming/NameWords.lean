import SchemaAtlas.Proofs.Naming.CanonicalIdentifiers
import SchemaAtlas.Proofs.Naming.RoundTrip

/-!
# The words of a name

The words that a camel case form is made of are the runs of letters and numbers
in the name, behind the ASCII digits in front of all other letters and numbers.
A registered initialism that stands in a name as a word is therefore one of
these words, whatever stands on its two sides, and is spelled in capitals.
-/

namespace SchemaAtlas

open Text

namespace Identifier

/-- The maximal runs of letters and numbers in a text. -/
def runs (text : List Char) : List (List Char) :=
  (text.splitOnP fun c => !isAlphanumeric c).filter fun run => !run.isEmpty

/-- Whether a character is passed over at the beginning of a name. -/
def isPassed (c : Char) : Bool :=
  c.isDigit || !isAlphanumeric c

variable {c : Char} {front behind word rest text : List Char}

/-! ## Runs -/

theorem runs_append_cons (other : isAlphanumeric c = false)
    (front rest : List Char) :
    runs (front ++ c :: rest) = runs front ++ runs rest := by
  rw [runs, List.splitOnP_append_cons _ _ (by simp [other]), List.filter_append]
  rfl

theorem runs_nil : runs [] = [] := rfl

private theorem runs_cons_of_other (other : isAlphanumeric c = false)
    (rest : List Char) : runs (c :: rest) = runs rest :=
  runs_append_cons other [] rest

private theorem runs_of_others (others : ∀ c ∈ text, isAlphanumeric c = false) :
    runs text = [] := by
  induction text with
  | nil => rfl
  | cons c rest ih =>
      obtain ⟨other, later⟩ := List.forall_mem_cons.mp others
      rw [runs_cons_of_other other, ih later]

/-- A text that begins with neither a letter nor a number continues no run. -/
theorem runs_append_of_head?
    (closed : ∀ c ∈ behind.head?, isAlphanumeric c = false)
    (front : List Char) :
    runs (front ++ behind) = runs front ++ runs behind := by
  cases behind with
  | nil => rw [List.append_nil, runs_nil, List.append_nil]
  | cons c rest =>
      rw [runs_append_cons (closed c rfl), runs_cons_of_other (closed c rfl)]

theorem runs_append_of_getLast?
    (opened : ∀ c ∈ front.getLast?, isAlphanumeric c = false)
    (rest : List Char) : runs (front ++ rest) = runs front ++ runs rest := by
  rcases List.eq_nil_or_concat' front with rfl | ⟨front, c, rfl⟩
  · rw [runs_nil, List.nil_append, List.nil_append]
  · have other : isAlphanumeric c = false := opened c (by simp)
    rw [List.append_assoc, List.singleton_append, runs_append_cons other,
      runs_append_cons other, runs_nil, List.append_nil]

private theorem runs_of_alphanumeric (filled : word ≠ [])
    (alphanumeric : ∀ c ∈ word, isAlphanumeric c = true) :
    runs word = [word] := by
  rw [runs, List.splitOnP_eq_singleton fun c inWord => by
    simp [alphanumeric c inWord]]
  simp [filled]

/-! ## Parts -/

theorem parts_append_separator (front rest : List Char) :
    parts (front ++ separator :: rest) = parts front ++ parts rest := by
  simp only [parts, splitOn_eq_splitOnP]
  rw [List.splitOnP_append_cons _ _ (by simp), List.filter_append]

theorem parts_separator_cons (rest : List Char) :
    parts (separator :: rest) = parts rest :=
  parts_append_separator [] rest

theorem parts_append_separators {marks : List Char}
    (areMarks : ∀ c ∈ marks, c = separator)
    (front : List Char) : parts (front ++ marks) = parts front := by
  induction marks generalizing front with
  | nil => rw [List.append_nil]
  | cons c marks ih =>
      obtain ⟨rfl, later⟩ := List.forall_mem_cons.mp areMarks
      have none : parts marks = [] := ih later []
      rw [parts_append_separator, none, List.append_nil]

/-- Merging marks leaves the words between them. -/
theorem parts_append_collapse (front text : List Char) :
    parts (front ++ collapse text) = parts (front ++ text) := by
  induction text generalizing front with
  | nil => rfl
  | cons c rest ih =>
      rw [collapse]
      split
      next marks =>
        obtain ⟨rfl, followed⟩ := marks
        obtain ⟨later, rfl⟩ := List.head?_eq_some_iff.mp followed
        rw [ih, parts_append_separator, parts_append_separator,
          parts_separator_cons]
      next => rw [List.append_cons, ih, ← List.append_cons]

theorem dropWhile_collapse (text : List Char) :
    (collapse text).dropWhile isLeading =
    collapse (text.dropWhile isLeading) := by
  induction text with
  | nil => rfl
  | cons c rest ih =>
      cases leading : isLeading c with
      | true =>
          rw [collapse, List.dropWhile_cons_of_pos leading]
          split
          next => exact ih
          next => rw [List.dropWhile_cons_of_pos leading, ih]
      | false =>
          have unmarked := (isLeading_eq_false_iff.mp leading).1
          have kept : collapse (c :: rest) = c :: collapse rest := by
            rw [collapse, if_neg fun marks => unmarked marks.1]
          rw [List.dropWhile_cons_of_neg (by simp [leading]), kept,
            List.dropWhile_cons_of_neg (by simp [leading])]

theorem parts_strip_collapse (text : List Char) :
    parts (strip (collapse text)) = parts (text.dropWhile isLeading) := by
  have shape := @List.rdropWhile_append_rtakeWhile _ (· == separator)
    ((collapse text).dropWhile isLeading)
  have areMarks : ∀ c ∈ ((collapse text).dropWhile isLeading).rtakeWhile
      (· == separator),
      c = separator :=
        fun c membership => by simpa using List.mem_rtakeWhile_imp membership
  calc parts (strip (collapse text))
    _ = parts (((collapse text).dropWhile isLeading).rdropWhile
      (· == separator)) := rfl
    _ = parts ((collapse text).dropWhile isLeading) := by
      rw [← parts_append_separators areMarks, shape]
    _ = parts (text.dropWhile isLeading) := by
      rw [dropWhile_collapse]
      exact parts_append_collapse [] _

theorem parts_replaceOthers (text : List Char) :
    parts (replaceOthers text) = runs text := by
  have split : splitOn separator (replaceOthers text) =
      text.splitOnP fun c => !isAlphanumeric c := by
    induction text with
    | nil => rfl
    | cons c rest ih =>
        have image : (if isPart c then c else separator) = separator ↔
            isAlphanumeric c = false := by
          by_cases isMark : c = separator
          · subst isMark
            decide
          · cases alphanumeric : isAlphanumeric c <;>
              simp [isPart, isMark, alphanumeric]
        rw [splitOn_eq_splitOnP] at ih ⊢
        rw [replaceOthers, List.map_cons, ← replaceOthers,
          List.splitOnP_cons_eq_if_modifyHead,
          List.splitOnP_cons_eq_if_modifyHead, ih]
        simp only [beq_iff_eq, image, Bool.not_eq_true']
        cases alphanumeric : isAlphanumeric c with
        | false => simp
        | true => simp [isPart, alphanumeric]
  rw [parts, split, runs]

theorem dropWhile_replaceOthers (text : List Char) :
    (replaceOthers text).dropWhile isLeading =
    replaceOthers (text.dropWhile isPassed) := by
  have image : (isLeading ∘ fun c => if isPart c then c else separator) =
      isPassed := by
    funext c
    by_cases isMark : c = separator
    · subst isMark
      decide
    · cases alphanumeric : isAlphanumeric c <;>
        simp [isPassed, isLeading, isPart, isMark, alphanumeric]
  rw [replaceOthers, List.dropWhile_map, image]
  rfl

/-- Trimming takes nothing from the runs behind what is passed over. -/
theorem runs_dropWhile_trim (text : List Char) :
    runs ((trim text).dropWhile isPassed) = runs (text.dropWhile isPassed) := by
  obtain ⟨before, after, blankBefore, blankAfter, shape⟩ :=
    exists_padded_trim text
  have passed {gap : List Char} (blank : ∀ c ∈ gap, isBlank c = true) :
      ∀ c ∈ gap, isPassed c = true := fun c membership => by
    simp [isPassed, isAlphanumeric_of_isBlank (blank c membership)]
  have gone : after.dropWhile isPassed = [] :=
    List.dropWhile_eq_nil_iff.mpr (passed blankAfter)
  have none : runs after = [] := runs_of_others fun c membership =>
    isAlphanumeric_of_isBlank (blankAfter c membership)
  conv_rhs => rw [shape]
  rw [List.append_assoc, List.dropWhile_append_of_pos (passed blankBefore),
    List.dropWhile_append, gone]
  split
  next empty => rw [List.isEmpty_iff.mp empty]
  next =>
    rw [runs_append_of_head?, none, List.append_nil]
    intro c isFirst
    exact isAlphanumeric_of_isBlank
      (blankAfter c (List.mem_of_mem_head? isFirst))

/-- The words of a cleaned text are the runs behind what is passed over. -/
theorem parts_cleanChars (text : List Char) :
    parts (cleanChars text) = runs (text.dropWhile isPassed) := by
  rw [cleanChars, parts_strip_collapse, dropWhile_replaceOthers,
    parts_replaceOthers, runs_dropWhile_trim]

/-! ## A word in a name -/

/-- What stands on the two sides of a word in a name: in front of it the name
begins, or there is a character that is neither a letter nor a number, or
nothing but such characters and ASCII digits; behind it the name ends or there
is such a character. -/
structure Encloses (front behind : List Char) : Prop where
  opened : (∀ c ∈ front.getLast?, isAlphanumeric c = false) ∨
    ∀ c ∈ front, isPassed c = true
  closed : ∀ c ∈ behind.head?, isAlphanumeric c = false

/-- A word of letters and numbers that begins with no ASCII digit is one of the
words of every name that it stands in as a word. -/
theorem Encloses.parts_cleanChars (encloses : Encloses front behind)
    (started : ∃ first ∈ word.head?, first.isDigit = false)
    (alphanumeric : ∀ c ∈ word, isAlphanumeric c = true) :
    parts (cleanChars (front ++ word ++ behind)) =
      parts (cleanChars front) ++ word :: runs behind := by
  obtain ⟨first, isFirst, noDigit⟩ := started
  obtain ⟨others, rfl⟩ := List.head?_eq_some_iff.mp isFirst
  have stays : isPassed first = false := by
    simp [isPassed, noDigit, alphanumeric first List.mem_cons_self]
  have reached : runs (first :: others ++ behind) =
      (first :: others) :: runs behind := by
    rw [runs_append_of_head? encloses.closed,
      runs_of_alphanumeric (List.cons_ne_nil _ _) alphanumeric,
      List.singleton_append]
  rw [Identifier.parts_cleanChars, Identifier.parts_cleanChars,
    List.append_assoc, List.dropWhile_append]
  split
  next empty =>
    rw [List.cons_append,
      List.dropWhile_cons_of_neg (by simp [stays]), ← List.cons_append,
      reached, List.isEmpty_iff.mp empty, runs_nil, List.nil_append]
  next filled =>
    rw [runs_append_of_getLast?, reached]
    -- Something of the front is left, so its end is left too.
    rcases encloses.opened with opened | passed
    · obtain ⟨gone, shape⟩ := List.dropWhile_suffix isPassed (l := front)
      have left : front.dropWhile isPassed ≠ [] := by simpa using filled
      rwa [← shape, List.getLast?_append_of_ne_nil _ left] at opened
    · rw [List.dropWhile_eq_nil_iff.mpr passed]
      simp

end Identifier

open Identifier

namespace Initialisms

variable {set : Initialisms} {front word behind : List Char}

/-- A registered word that stands in a name as a word is spelled in capitals
there. -/
theorem camelChars_of_encloses (encloses : Encloses front behind)
    (started : ∃ first ∈ word.head?, first.isDigit = false)
    (alphanumeric : ∀ c ∈ word, isAlphanumeric c = true)
    (held : set.holds word = true) :
    set.camelChars (front ++ word ++ behind) =
      set.camelChars front ++ upper word ++
        (runs behind).flatMap set.camelWord := by
  rw [camelChars, encloses.parts_cleanChars started alphanumeric,
    List.flatMap_append, List.flatMap_cons, camelWord_of_holds held,
    ← List.append_assoc, camelChars]

end Initialisms

end SchemaAtlas
