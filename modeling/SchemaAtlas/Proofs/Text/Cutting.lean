import Mathlib.Data.List.DropRight
import SchemaAtlas.Text.Blank
import SchemaAtlas.Text.Search

/-!
# Cutting and trimming texts

A text in which a separator does not occur is not cut there, so the cuts find
exactly the pieces that were put together.  Trimming leaves a text alone whose
ends are not white space.
-/

namespace SchemaAtlas.Text

theorem splitOnce?_of_not_mem {separator : Char} {text : List Char}
    (absent : separator ∉ text) : splitOnce? separator text = none := by
  cases cut : splitOnce? separator text with
  | none => rfl
  | some parts =>
      have shape := (eq_of_splitOnce? cut).1
      rw [shape] at absent
      simp at absent

theorem splitOnce?_append_of_not_mem {separator : Char} {head : List Char}
    (absent : separator ∉ head) (rest : List Char) :
    splitOnce? separator (head ++ rest) =
      (splitOnce? separator rest).map fun cut => (head ++ cut.1, cut.2) := by
  induction head with
  | nil => simp
  | cons c head ih =>
      rw [List.mem_cons, not_or] at absent
      rw [List.cons_append, splitOnce?, if_neg (Ne.symm absent.1),
        ih absent.2, Option.map_map]
      rfl

theorem splitOnce?_append {separator : Char} {head tail : List Char}
    (absent : separator ∉ head) :
    splitOnce? separator (head ++ separator :: tail) = some (head, tail) := by
  simp [splitOnce?_append_of_not_mem absent, splitOnce?]

theorem exists_splitOnce?_append (separator : Char) (head tail : List Char) :
    ∃ rest, splitOnce? separator (head ++ separator :: tail) =
      some (head.takeWhile (· != separator), rest) := by
  induction head with
  | nil => exact ⟨tail, by simp [splitOnce?]⟩
  | cons c head ih =>
      by_cases isSeparator : c = separator
      · exact ⟨head ++ separator :: tail, by simp [splitOnce?, isSeparator]⟩
      · obtain ⟨rest, cut⟩ := ih
        exact ⟨rest, by simp [splitOnce?, isSeparator, cut]⟩

theorem splitOn_of_not_mem {separator : Char} {text : List Char}
    (absent : separator ∉ text) : splitOn separator text = [text] := by
  induction text with
  | nil => rfl
  | cons c rest ih =>
      rw [List.mem_cons, not_or] at absent
      rw [splitOn, if_neg (Ne.symm absent.1), ih absent.2]

theorem splitOn_append {separator : Char} {head tail : List Char}
    (absent : separator ∉ head) :
    splitOn separator (head ++ separator :: tail) =
      head :: splitOn separator tail := by
  induction head with
  | nil => simp [splitOn]
  | cons c rest ih =>
      rw [List.mem_cons, not_or] at absent
      rw [List.cons_append, splitOn, if_neg (Ne.symm absent.1), ih absent.2]

theorem splitOn_eq_splitOnP (separator : Char) (text : List Char) :
    splitOn separator text = text.splitOnP (· == separator) := by
  induction text with
  | nil => rfl
  | cons c rest ih =>
      rw [splitOn, ih, List.splitOnP_cons_eq_if_modifyHead]
      simp only [beq_iff_eq]
      split
      · rfl
      · cases pieces : List.splitOnP (· == separator) rest with
        | nil => exact absurd pieces (List.splitOnP_ne_nil _ _)
        | cons piece later => rfl

theorem mem_take_append {front rest : List Char} {c : Char} {count : Nat}
    (short : front.length < count) : c ∈ (front ++ c :: rest).take count := by
  rw [List.mem_take_iff_getElem]
  have within : front.length < min count (front ++ c :: rest).length := by
    simp only [List.length_append, List.length_cons]
    omega
  exact ⟨front.length, within, by simp⟩

/-- Trimming keeps the last character of a text if it is not blank. -/
theorem exists_trim_concat (front : List Char) {last : Char}
    (solid : isBlank last = false) :
    ∃ kept, trim (front ++ [last]) = kept ++ [last] := by
  have started : ∃ kept, trimStart (front ++ [last]) = kept ++ [last] := by
    induction front with
    | nil => exact ⟨[], by simp [trimStart, solid]⟩
    | cons c rest ih =>
        by_cases blank : isBlank c = true
        · obtain ⟨kept, shape⟩ := ih
          refine ⟨kept, ?_⟩
          rw [← shape, trimStart, trimStart, List.cons_append,
            List.dropWhile_cons_of_pos blank]
        · refine ⟨c :: rest, ?_⟩
          rw [trimStart, List.cons_append, List.dropWhile_cons_of_neg blank]
  obtain ⟨kept, shape⟩ := started
  refine ⟨kept, ?_⟩
  rw [trim, shape, trimEnd, List.reverse_append]
  simp [solid]

theorem trim_of_solid {text : List Char}
    (solid : ∀ c ∈ text, isBlank c = false) : trim text = text := by
  have kept : ∀ {text : List Char}, (∀ c ∈ text, isBlank c = false) →
      text.dropWhile isBlank = text := by
    intro text solid
    cases text with
    | nil => rfl
    | cons c rest =>
        rw [List.dropWhile_cons_of_neg]
        simp [solid c List.mem_cons_self]
  rw [trim, trimStart, kept solid, trimEnd, kept, List.reverse_reverse]
  intro c membership
  exact solid c (List.mem_reverse.mp membership)

theorem trimStart_append_of_blank {gap : List Char}
    (blank : ∀ c ∈ gap, isBlank c = true) (text : List Char) :
    trimStart (gap ++ text) = trimStart text :=
  List.dropWhile_append_of_pos blank

theorem trimEnd_append_of_blank {gap : List Char}
    (blank : ∀ c ∈ gap, isBlank c = true) (text : List Char) :
    trimEnd (text ++ gap) = trimEnd text := by
  rw [trimEnd, List.reverse_append, List.dropWhile_append_of_pos]
  · rfl
  · intro c membership
    exact blank c (List.mem_reverse.mp membership)

theorem trimEnd_eq_nil_iff {text : List Char} :
    trimEnd text = [] ↔ ∀ c ∈ text, isBlank c = true :=
  List.rdropWhile_eq_nil_iff

theorem trimEnd_trimEnd (text : List Char) :
    trimEnd (trimEnd text) = trimEnd text :=
  List.rdropWhile_idempotent isBlank text

theorem exists_trimEnd_append (text : List Char) :
    ∃ gap, (∀ c ∈ gap, isBlank c = true) ∧ text = trimEnd text ++ gap :=
  ⟨text.rtakeWhile isBlank, fun _ membership =>
    List.mem_rtakeWhile_imp membership, List.rdropWhile_append_rtakeWhile.symm⟩

theorem mem_of_mem_trimStart {text : List Char} {c : Char}
    (membership : c ∈ trimStart text) : c ∈ text :=
  (List.dropWhile_sublist isBlank).mem membership

theorem mem_of_mem_trimEnd {text : List Char} {c : Char}
    (membership : c ∈ trimEnd text) : c ∈ text :=
  (List.rdropWhile_prefix isBlank text).mem membership

theorem trimEnd_append_of_filled {front text : List Char}
    (filled : trimEnd text ≠ []) :
    trimEnd (front ++ text) = front ++ trimEnd text := by
  have kept : (text.reverse.dropWhile isBlank).isEmpty = false := by
    simpa [trimEnd] using filled
  rw [trimEnd, List.reverse_append, List.dropWhile_append, kept]
  simp [trimEnd]

theorem trimStart_cons_of_blank {first : Char} (blank : isBlank first = true)
    (rest : List Char) : trimStart (first :: rest) = trimStart rest :=
  List.dropWhile_cons_of_pos blank

theorem trimStart_cons_of_solid {first : Char} (solid : isBlank first = false)
    (rest : List Char) : trimStart (first :: rest) = first :: rest :=
  List.dropWhile_cons_of_neg (by simp [solid])

theorem trimEnd_cons_of_solid {first : Char} (solid : isBlank first = false)
    (rest : List Char) : trimEnd (first :: rest) = first :: trimEnd rest := by
  by_cases filled : trimEnd rest = []
  · have blank := trimEnd_eq_nil_iff.mp filled
    rw [filled, ← List.singleton_append, trimEnd_append_of_blank blank, trimEnd]
    simp [solid]
  · rw [← List.singleton_append, trimEnd_append_of_filled filled]
    rfl

theorem trimEnd_append {front ending : List Char} (nonempty : ending ≠ [])
    (kept : trimEnd ending = ending) :
    trimEnd (front ++ ending) = front ++ ending := by
  rw [trimEnd_append_of_filled (by rwa [kept]), kept]

/-- A text that is its own trimmed form ends in no white space. -/
theorem trimEnd_of_trim {text : List Char} (kept : trim text = text) :
    trimEnd text = text := by
  rw [← kept, trim, trimEnd_trimEnd]

/-- The two ends of a text are trimmed independently. -/
theorem trimStart_trimEnd (text : List Char) :
    trimStart (trimEnd text) = trimEnd (trimStart text) := by
  induction text with
  | nil => rfl
  | cons c rest ih =>
      cases blank : isBlank c with
      | false =>
          rw [trimEnd_cons_of_solid blank, trimStart_cons_of_solid blank,
            trimStart_cons_of_solid blank, trimEnd_cons_of_solid blank]
      | true =>
          rw [trimStart_cons_of_blank blank, ← ih]
          by_cases filled : trimEnd rest = []
          · have blanks : ∀ d ∈ c :: rest, isBlank d = true :=
              List.forall_mem_cons.mpr ⟨blank, trimEnd_eq_nil_iff.mp filled⟩
            rw [trimEnd_eq_nil_iff.mpr blanks, filled]
          · rw [← List.singleton_append, trimEnd_append_of_filled filled,
              List.singleton_append, trimStart_cons_of_blank blank]

theorem trim_trimEnd (text : List Char) : trim (trimEnd text) = trim text := by
  rw [trim, trimStart_trimEnd, trimEnd_trimEnd]
  rfl

theorem trim_eq_nil_iff {text : List Char} :
    trim text = [] ↔ ∀ c ∈ text, isBlank c = true := by
  induction text with
  | nil => simp [trim, trimStart, trimEnd]
  | cons c rest ih =>
      rw [List.forall_mem_cons]
      cases blank : isBlank c with
      | false =>
          simp [trim, trimStart_cons_of_solid blank,
            trimEnd_cons_of_solid blank]
      | true => simpa [trim, trimStart_cons_of_blank blank] using ih

theorem trim_cons {first : Char} {rest : List Char}
    (solid : isBlank first = false)
    (kept : trimEnd (first :: rest) = first :: rest) :
    trim (first :: rest) = first :: rest := by
  rw [trim, trimStart_cons_of_solid solid, kept]

theorem trim_enclosed {first last : Char} (solidFirst : isBlank first = false)
    (solidLast : isBlank last = false) (middle : List Char) :
    trim (first :: middle ++ [last]) = first :: middle ++ [last] := by
  have alone : trimEnd [last] = [last] := trimEnd_cons_of_solid solidLast []
  have ended : trimEnd (first :: middle ++ [last]) =
      first :: middle ++ [last] :=
    trimEnd_append (List.cons_ne_nil _ _) alone
  exact trim_cons solidFirst ended

/-- White space around a text is trimmed whatever the text is. -/
theorem trim_padded {before after : List Char}
    (blankBefore : ∀ c ∈ before, isBlank c = true)
    (blankAfter : ∀ c ∈ after, isBlank c = true) (text : List Char) :
    trim (before ++ text ++ after) = trim text := by
  rw [trim, List.append_assoc, trimStart_append_of_blank blankBefore,
    ← trimStart_trimEnd, trimEnd_append_of_blank blankAfter, trimStart_trimEnd,
    trim]

theorem exists_padded_trim (text : List Char) :
    ∃ before after, (∀ c ∈ before, isBlank c = true) ∧
      (∀ c ∈ after, isBlank c = true) ∧
      text = before ++ trim text ++ after := by
  obtain ⟨after, blankAfter, shape⟩ := exists_trimEnd_append (trimStart text)
  have blankBefore : ∀ c ∈ text.takeWhile isBlank, isBlank c = true :=
    fun c membership => List.mem_takeWhile_imp membership
  refine ⟨text.takeWhile isBlank, after, blankBefore, blankAfter, ?_⟩
  rw [trim, List.append_assoc, ← shape, trimStart,
    List.takeWhile_append_dropWhile]

theorem withoutStart?_append (start text : List Char) :
    withoutStart? start (start ++ text) = some text := by
  rw [withoutStart?, if_pos, List.drop_left]
  exact List.isPrefixOf_iff_prefix.mpr (List.prefix_append start text)

theorem withoutEnd?_append (text ending : List Char) :
    withoutEnd? ending (text ++ ending) = some text := by
  rw [withoutEnd?, if_pos]
  · simp
  · exact List.isSuffixOf_iff_suffix.mpr (List.suffix_append text ending)

theorem eq_append_of_withoutEnd? {ending text shorter : List Char}
    (cut : withoutEnd? ending text = some shorter) :
    text = shorter ++ ending := by
  rw [withoutEnd?] at cut
  split at cut
  next ends =>
    obtain ⟨front, rfl⟩ := List.isSuffixOf_iff_suffix.mp ends
    cases cut
    simp
  next => cases cut

/-- What an ending does not hold is not lost with it. -/
theorem mem_withoutEnds {ending text : List Char} {c : Char}
    (other : c ∉ ending)
    (membership : c ∈ text) : c ∈ withoutEnds ending text := by
  fun_induction withoutEnds ending text with
  | case1 text shorter cut _ ih =>
      rw [eq_append_of_withoutEnd? cut, List.mem_append] at membership
      exact ih (membership.resolve_right other)
  | case2 => exact membership
  | case3 => exact membership

end SchemaAtlas.Text
