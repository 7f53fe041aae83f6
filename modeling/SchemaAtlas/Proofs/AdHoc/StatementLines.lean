import SchemaAtlas.Proofs.AdHoc.ViewLifetime
import SchemaAtlas.Proofs.Text.Lines

/-!
# The lines of a statement

A statement is split at its newlines.  Lines that are not trimmed give it back
with newlines between them.  Lines that are trimmed are its contents, each but
the last with one blank behind it, so that no word of one line runs into the
next when the lines are put one behind the other.  Whichever way the lines are
put together, they have the words of the statement, in the order of the
statement; what the words of a text are does not depend on a scan
(`words_eq_iff`).
-/

namespace SchemaAtlas

open Recorded Text

namespace TypedQuery

private theorem isBlank_newline : isBlank '\n' = true := rfl

private theorem isBlank_space : isBlank ' ' = true := rfl

/-! ## Trimmed lines -/

def blankEnded (line : List Char) : List Char :=
  Text.trim line ++ [' ']

private theorem words_blankEnded (line : List Char) :
    words (blankEnded line) = words line := by
  rw [blankEnded,
    words_append_gap (List.forall_mem_singleton.mpr isBlank_space), words_trim]

/-- All lines but the last get a blank. -/
theorem trimLines_concat (front : List (List Char)) (last : List Char) :
    trimLines (front ++ [last]) =
      front.map blankEnded ++ [Text.trim last] := by
  induction front with
  | nil => rfl
  | cons line front ih =>
      rw [List.cons_append, trimLines, ih]
      · rfl
      · simp

/-- The blanks keep the words of the lines apart. -/
theorem words_flatten_append (front : List (List Char)) (rest : List Char) :
    words ((front.map blankEnded).flatten ++ rest) =
      front.flatMap words ++ words rest := by
  induction front with
  | nil => rfl
  | cons line front ih =>
      -- Other lines may begin with a letter; only the blank in front of them
      -- ends the last word of this one.
      have parted := words_append_cons_of_blank isBlank_space (Text.trim line)
        ((front.map blankEnded).flatten ++ rest)
      rw [words_trim, ih] at parted
      simpa [blankEnded] using parted

/-! ## The lines of a statement -/

/-- The lines of a statement, as they are and trimmed. -/
theorem exists_lines_eq (statement : String) : ∃ front last,
    splitOn '\n' statement.toList = front ++ [last] ∧
    lines false statement = (front ++ [last]).map String.ofList ∧
    lines true statement =
      (front.map blankEnded ++ [Text.trim last]).map String.ofList ∧
    front.length = statement.toList.count '\n' := by
  obtain ⟨front, last, pieces, length⟩ :=
    exists_splitOn_eq_concat '\n' statement.toList
  refine ⟨front, last, pieces, ?_, ?_, length⟩
  · simp [lines, pieces]
  · simp [lines, pieces, trimLines_concat]

theorem length_lines (trim : Bool) (statement : String) :
    (lines trim statement).length = statement.toList.count '\n' + 1 := by
  obtain ⟨front, last, -, asTheyAre, trimmed, length⟩ :=
    exists_lines_eq statement
  cases trim with
  | false => simp [asTheyAre, length]
  | true => simp [trimmed, length]

theorem intercalate_lines (statement : String) :
    "\n".intercalate (lines false statement) = statement := by
  rw [← String.toList_inj, String.toList_intercalate]
  have pieces := intercalate_splitOn '\n' statement.toList
  simpa [lines, Function.comp_def] using pieces

/-- Every word of a statement is a word of one of its lines. -/
theorem flatMap_words_lines (trim : Bool) (statement : String) :
    ((lines trim statement).flatMap fun line => words line.toList) =
      words statement.toList := by
  obtain ⟨front, last, pieces, asTheyAre, trimmed, -⟩ :=
    exists_lines_eq statement
  rw [← flatMap_words_splitOn isBlank_newline, pieces]
  cases trim with
  | false => simp [asTheyAre, List.flatMap_map]
  | true => simp [trimmed, List.flatMap_map, words_blankEnded, words_trim]

theorem words_join_lines (statement : String) :
    words (String.join (lines true statement)).toList =
      words statement.toList := by
  obtain ⟨front, last, pieces, -, trimmed, -⟩ := exists_lines_eq statement
  have joined : (String.join (lines true statement)).toList =
      (front.map blankEnded).flatten ++ Text.trim last := by
    simp [trimmed, List.flatMap_def, Function.comp_def]
  rw [joined, words_flatten_append, words_trim,
    ← flatMap_words_splitOn isBlank_newline statement.toList, pieces]
  simp

/-- A line is shown as what it holds, with one blank behind that. -/
def EndsInBlank (line shown : String) : Prop :=
  ∃ content : String, IsContent line.toList content.toList ∧
    shown = content ++ " "

/-- Splitting a statement into lines preserves it.  Lines that are not trimmed
give it back; trimmed lines, one behind the other, have its words, of which none
is split and none runs into another one. -/
structure SplitsFaithfully (statement : String) : Prop where
  counted (trim : Bool) :
    (lines trim statement).length = statement.toList.count '\n' + 1
  rejoined : "\n".intercalate (lines false statement) = statement
  joinedWords :
    words (String.join (lines true statement)).toList = words statement.toList
  eachWord (trim : Bool) :
    ((lines trim statement).flatMap fun line => words line.toList) =
      words statement.toList
  inner : List.Forall₂ EndsInBlank (lines false statement).dropLast
    (lines true statement).dropLast
  last : ∀ line ∈ (lines false statement).getLast?, ∃ content : String,
    IsContent line.toList content.toList ∧
      (lines true statement).getLast? = some content

private theorem forall₂_endsInBlank (statement : String) :
    List.Forall₂ EndsInBlank (lines false statement).dropLast
      (lines true statement).dropLast := by
  obtain ⟨front, last, -, asTheyAre, trimmed, -⟩ := exists_lines_eq statement
  rw [asTheyAre, trimmed, List.map_append, List.map_append, List.map_singleton,
    List.map_singleton, List.dropLast_concat, List.dropLast_concat,
    List.map_map, List.forall₂_map_left_iff, List.forall₂_map_right_iff,
    List.forall₂_same]
  intro line _
  refine ⟨String.ofList (Text.trim line), ?_, by simp [blankEnded]⟩
  simpa using isContent_trim line

theorem getLast?_lines (statement : String) :
    ∀ line ∈ (lines false statement).getLast?, ∃ content : String,
      IsContent line.toList content.toList ∧
        (lines true statement).getLast? = some content := by
  obtain ⟨front, last, -, asTheyAre, trimmed, -⟩ := exists_lines_eq statement
  intro line isLast
  obtain rfl : String.ofList last = line := by simpa [asTheyAre] using isLast
  refine ⟨String.ofList (Text.trim last), ?_, by simp [trimmed]⟩
  simpa using isContent_trim last

/-- Splitting preserves every statement. -/
theorem splitsFaithfully (statement : String) : SplitsFaithfully statement where
  counted trim := length_lines trim statement
  rejoined := intercalate_lines statement
  joinedWords := words_join_lines statement
  eachWord trim := flatMap_words_lines trim statement
  inner := forall₂_endsInBlank statement
  last := getLast?_lines statement

example : lines true "SELECT id,\r\n\n  title \nFROM\u2003book\t" =
    ["SELECT id, ", " ", "title ", "FROM\u2003book"] := by
  decide +kernel

/-! ## The lines of a query -/

/-- The statement that a view is created of has the words that it has without
being split. -/
theorem words_inspected (spec : QuerySpec) (template : Template) :
    words (inspected spec template).toList =
      words (template.render false fun _ => "NULL").toList := by
  rw [inspected, String.toList_intercalate]
  have joined := words_intercalate isBlank_newline
    ((lines spec.trim (template.render false fun _ => "NULL")).map
      String.toList)
  rw [List.flatMap_map, flatMap_words_lines] at joined
  exact joined

/-- A query whose annotations stay in place has the words of the statement that
is executed, line by line. -/
theorem words_of_returns_introspect {adapter : Adapter} {options : Options}
    {spec : QuerySpec} {surroundings : Surroundings} {query : TypedQuery}
    (unstripped : spec.strip = false)
    (returns : (introspect adapter options spec).Returns surroundings query) :
    ∃ template, Template.read spec.interpolate spec.statement = .ok template ∧
      (query.statement.flatMap fun line => words line.toList) =
        words (template.render true adapter.placeholder).toList := by
  obtain ⟨template, read, returns⟩ := returns_of_bind returns
  obtain ⟨schema, -, returns⟩ := returns_of_bind returns
  obtain ⟨found, -, returns⟩ := returns_of_bind returns
  have shown : query.statement =
      (annotatedLines adapter spec
        (template.render true adapter.placeholder)).1 := by
    rw [eq_of_returns_pure returns]
    rfl
  refine ⟨template, eq_of_returns_ofExcept read, ?_⟩
  rw [shown, annotatedLines, unstripped]
  exact flatMap_words_lines _ _

end TypedQuery

end SchemaAtlas
