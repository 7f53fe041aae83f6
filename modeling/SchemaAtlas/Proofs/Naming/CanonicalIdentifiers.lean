import SchemaAtlas.Proofs.Naming.SnakeForms

/-!
# The canonical form of identifiers

Cleaning trims a text, puts marks in the place of what may not stand in an
identifier, merges the marks and strips both ends.  What comes out is in
canonical form, and a text in canonical form is left alone by each of these
steps.  Of the letters and numbers of the text only the ASCII digits in front of
all others are lost.
-/

namespace SchemaAtlas

open Text

namespace Identifier

/-- A text of letters, numbers and marks in which no two marks stand side by
side, and which neither begins with a mark or an ASCII digit nor ends in a
mark. -/
structure IsCanonical (text : List Char) : Prop where
  part : ∀ c ∈ text, c = separator ∨ isAlphanumeric c = true
  collapsed : Collapsed text
  start : ∀ c ∈ text.head?, c ≠ separator ∧ c.isDigit = false
  finish : ∀ c ∈ text.getLast?, c ≠ separator

variable {c : Char} {text : List Char}

theorem isPart_iff :
    isPart c = true ↔ c = separator ∨ isAlphanumeric c = true := by
  rw [isPart, Bool.or_eq_true, beq_iff_eq]

theorem isLeading_eq_false_iff :
    isLeading c = false ↔ c ≠ separator ∧ c.isDigit = false := by
  rw [isLeading, Bool.or_eq_false_iff, beq_eq_false_iff_ne]

/-! ## What cleaning leaves -/

theorem infix_strip (text : List Char) : strip text <:+: text := by
  have front : strip text <+: text.dropWhile isLeading :=
    List.rdropWhile_prefix (· == separator) _
  exact front.isInfix.trans (List.dropWhile_suffix _).isInfix

private theorem isLeading_of_head?_strip (isFirst : c ∈ (strip text).head?) :
    isLeading c = false := by
  obtain ⟨behind, shape⟩ : strip text <+: text.dropWhile isLeading :=
    List.rdropWhile_prefix (· == separator) _
  have unled := List.head?_dropWhile_not isLeading text
  rw [← shape, List.head?_append, Option.mem_def.mp isFirst] at unled
  simpa using unled

private theorem ne_separator_of_getLast?_strip
    (isLast : c ∈ (strip text).getLast?) : c ≠ separator := by
  rw [strip, List.getLast?_reverse] at isLast
  have unmarked := List.head?_dropWhile_not (· == separator)
    (text.dropWhile isLeading).reverse
  rw [Option.mem_def.mp isLast] at unmarked
  simpa using unmarked

theorem isCanonical_cleanChars (text : List Char) :
    IsCanonical (cleanChars text) where
  part _ membership := isPart_iff.mp (isPart_of_mem_cleanChars membership)
  collapsed marks := collapsed_collapse _ (marks.trans (infix_strip _))
  start _ isFirst :=
    isLeading_eq_false_iff.mp (isLeading_of_head?_strip isFirst)
  finish _ isLast := ne_separator_of_getLast?_strip isLast

theorem IsCanonical.cleanChars_eq (canonical : IsCanonical text) :
    cleanChars text = text := by
  have solid : ∀ c ∈ text, isBlank c = false := by
    intro c membership
    rw [← Bool.not_eq_true]
    intro blank
    rcases canonical.part c membership with rfl | alphanumeric
    · exact absurd blank (by decide)
    · rw [isAlphanumeric_of_isBlank blank] at alphanumeric
      cases alphanumeric
  have kept : replaceOthers text = text :=
    (List.map_congr_left fun c membership =>
      if_pos (isPart_iff.mpr (canonical.part c membership))).trans
        (List.map_id _)
  rw [cleanChars, trim_of_solid solid, kept,
    collapse_of_collapsed canonical.collapsed]
  exact strip_eq_self
    (fun c isFirst => isLeading_eq_false_iff.mpr (canonical.start c isFirst))
    canonical.finish

theorem cleanChars_eq_self_iff : cleanChars text = text ↔ IsCanonical text := by
  constructor
  · intro same
    rw [← same]
    exact isCanonical_cleanChars text
  · exact IsCanonical.cleanChars_eq

theorem cleanChars_cleanChars (text : List Char) :
    cleanChars (cleanChars text) = cleanChars text :=
  (isCanonical_cleanChars text).cleanChars_eq

/-! ## What cleaning keeps -/

theorem filter_trim (text : List Char) :
    (trim text).filter isAlphanumeric = text.filter isAlphanumeric := by
  obtain ⟨before, after, blankBefore, blankAfter, shape⟩ :=
    exists_padded_trim text
  have lost {gap : List Char} (blank : ∀ c ∈ gap, isBlank c = true) :
      gap.filter isAlphanumeric = [] :=
    List.filter_eq_nil_iff.mpr fun c membership => by
      simp [isAlphanumeric_of_isBlank (blank c membership)]
  conv_rhs => rw [shape]
  rw [List.filter_append, List.filter_append, lost blankBefore, lost blankAfter,
    List.nil_append, List.append_nil]

theorem unseparated_replaceOthers (text : List Char) :
    unseparated (replaceOthers text) = text.filter isAlphanumeric := by
  induction text with
  | nil => rfl
  | cons c rest ih =>
      have noMark : isAlphanumeric separator = false := by decide
      rw [replaceOthers, List.map_cons, ← replaceOthers, unseparated_cons, ih,
        List.filter_cons]
      by_cases isMark : c = separator
      · subst isMark
        simp [noMark]
      · cases alphanumeric : isAlphanumeric c <;>
          simp [isPart, isMark, alphanumeric]

theorem unseparated_dropWhile_isLeading (text : List Char) :
    unseparated (text.dropWhile isLeading) =
      (unseparated text).dropWhile Char.isDigit := by
  induction text with
  | nil => rfl
  | cons c rest ih =>
      by_cases isMark : c = separator
      · rw [List.dropWhile_cons_of_pos (by simp [isLeading, isMark]), ih,
          unseparated_cons, if_pos isMark]
      · cases digit : c.isDigit with
        | true =>
            rw [List.dropWhile_cons_of_pos (by simp [isLeading, digit]), ih,
              unseparated_cons, if_neg isMark, List.dropWhile_cons_of_pos digit]
        | false =>
            rw [List.dropWhile_cons_of_neg (by simp [isLeading, isMark, digit]),
              unseparated_cons, if_neg isMark,
              List.dropWhile_cons_of_neg (by simp [digit])]

theorem unseparated_rdropWhile (text : List Char) :
    unseparated (text.rdropWhile (· == separator)) = unseparated text := by
  have shape := @List.rdropWhile_append_rtakeWhile _ (· == separator) text
  have marks : unseparated (text.rtakeWhile (· == separator)) = [] :=
    List.filter_eq_nil_iff.mpr fun c membership => by
      simpa using List.mem_rtakeWhile_imp membership
  conv_rhs => rw [← shape]
  rw [unseparated_append, marks, List.append_nil]

/-- The characters of a cleaned text are the letters and numbers of the text,
but for the ASCII digits in front of all others. -/
theorem unseparated_cleanChars (text : List Char) :
    unseparated (cleanChars text) =
      (text.filter isAlphanumeric).dropWhile Char.isDigit := by
  calc unseparated (cleanChars text)
    _ = unseparated
      ((collapse (replaceOthers (trim text))).dropWhile isLeading) :=
      unseparated_rdropWhile _
    _ = (unseparated (replaceOthers (trim text))).dropWhile Char.isDigit := by
      rw [unseparated_dropWhile_isLeading, unseparated_collapse]
    _ = (text.filter isAlphanumeric).dropWhile Char.isDigit := by
      rw [unseparated_replaceOthers, filter_trim]

theorem toList_clean (text : String) :
    (clean text).toList = cleanChars text.toList :=
  String.toList_ofList

/-- Cleaning brings every text into canonical form and changes nothing else: it
keeps exactly the texts in that form, the letters and numbers behind the leading
digits, and the camel case form. -/
theorem isCanonical_clean (text : String) :
    IsCanonical (clean text).toList ∧
    (clean text = text ↔ IsCanonical text.toList) ∧
    clean (clean text) = clean text ∧
    unseparated (clean text).toList =
      (text.toList.filter isAlphanumeric).dropWhile Char.isDigit ∧
    ∀ set : Initialisms, set.camel text = set.camel (clean text) := by
  refine ⟨?_, ?_, ?_, ?_, fun set => ?_⟩
  · rw [toList_clean]
    exact isCanonical_cleanChars text.toList
  · rw [← cleanChars_eq_self_iff, ← toList_clean, String.toList_inj]
  · rw [clean, toList_clean, cleanChars_cleanChars, ← clean]
  · rw [toList_clean]
    exact unseparated_cleanChars text.toList
  · rw [Initialisms.camel, Initialisms.camel, Initialisms.camelChars,
      Initialisms.camelChars, toList_clean, cleanChars_cleanChars]

/-- Marks, spaces and symbols between the leading digits go with them. -/
example : clean " 2_0-4 Größe__№2_" = "Größe_2" := by
  decide +kernel

end Identifier

end SchemaAtlas
