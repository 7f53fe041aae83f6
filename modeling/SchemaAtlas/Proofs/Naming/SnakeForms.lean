import SchemaAtlas.Proofs.Naming.Peeking
import SchemaAtlas.Proofs.Naming.SnakeNames
import SchemaAtlas.Proofs.Text.CaseFolding
import SchemaAtlas.Proofs.Text.Lowercasing

/-!
# What a snake case form keeps

The scan of a name copies its characters, in units of one character or of a
whole initialism, and only puts marks between them.  The snake case form of an
ASCII name therefore has the letters of the name in lowercase.  Where no capital
is left, the scan finds nothing to separate, so the form is its own snake case
form.
-/

namespace SchemaAtlas

open Text

namespace Identifier

/-- No two marks of the text stand side by side. -/
def Collapsed (text : List Char) : Prop :=
  ¬ [separator, separator] <:+: text

/-- The text without its marks. -/
def unseparated (text : List Char) : List Char :=
  text.filter (· != separator)

variable {c : Char} {rest text : List Char}

theorem collapsed_cons_iff : Collapsed (c :: rest) ↔
    ¬ (c = separator ∧ rest.head? = some separator) ∧ Collapsed rest := by
  have starts : [separator, separator] <+: c :: rest ↔
      c = separator ∧ rest.head? = some separator := by
    cases rest with
    | nil => simp
    | cons d rest => simp [List.cons_prefix_cons, eq_comm]
  rw [Collapsed, List.infix_cons_iff, starts, not_or]
  rfl

theorem head?_collapse (text : List Char) :
    (collapse text).head? = text.head? := by
  induction text with
  | nil => rfl
  | cons c rest ih =>
      rw [collapse]
      split
      · next marks => rw [ih, marks.2, marks.1, List.head?_cons]
      · rfl

theorem collapsed_collapse (text : List Char) : Collapsed (collapse text) := by
  induction text with
  | nil => simp [Collapsed, collapse]
  | cons c rest ih =>
      rw [collapse]
      split
      · exact ih
      · next apart =>
        rw [collapsed_cons_iff, head?_collapse]
        exact ⟨apart, ih⟩

theorem collapse_of_collapsed (collapsed : Collapsed text) :
    collapse text = text := by
  induction text with
  | nil => rfl
  | cons c rest ih =>
      obtain ⟨apart, later⟩ := collapsed_cons_iff.mp collapsed
      rw [collapse, if_neg apart, ih later]

theorem unseparated_cons : unseparated (c :: rest) =
    if c = separator then unseparated rest else c :: unseparated rest := by
  simp [unseparated, List.filter_cons]

theorem unseparated_append (front rest : List Char) :
    unseparated (front ++ rest) = unseparated front ++ unseparated rest :=
  List.filter_append front rest

theorem unseparated_collapse (text : List Char) :
    unseparated (collapse text) = unseparated text := by
  induction text with
  | nil => rfl
  | cons c rest ih =>
      rw [collapse]
      split
      · next marks => rw [ih, unseparated_cons, if_pos marks.1]
      · rw [unseparated_cons, ih, ← unseparated_cons]

theorem unseparated_fold (text : List Char) :
    unseparated (fold text) = fold (unseparated text) := by
  have same (c : Char) : (c.toLower != separator) = (c != separator) :=
    of_toLower (f := fun c => c != separator) (by decide) c
  simp [unseparated, fold, List.filter_map, Function.comp_def, same]

end Identifier

open Identifier

namespace Initialisms

variable {set : Initialisms} {preceding : Preceding} {text rest run : List Char}
  {c : Char}

private theorem prefix_of_unitAfter?
    (found : set.unitAfter? preceding text = some run) :
    run <+: text ∧ run ≠ [] := by
  rw [unitAfter?] at found
  split at found
  · have starts := (peek?_eq_some_iff.mp found).1.1
    refine ⟨starts.start, ?_⟩
    rintro rfl
    exact absurd starts.long (by decide)
  · cases found

theorem append_drop_of_unitAfter?
    (found : set.unitAfter? preceding (c :: rest) = some run) :
    run ++ rest.drop (run.length - 1) = c :: rest := by
  obtain ⟨⟨behind, shape⟩, filled⟩ := prefix_of_unitAfter? found
  cases run with
  | nil => exact absurd rfl filled
  | cons first others =>
      obtain ⟨rfl, rfl⟩ := List.cons.inj shape
      simp

theorem unseparated_separateFrom (set : Initialisms) (preceding : Preceding)
    (text : List Char) :
    unseparated (set.separateFrom preceding text) = unseparated text := by
  have unmarked (ends : Bool) :
      unseparated (if ends then [separator] else []) = [] := by
    cases ends <;> rfl
  induction preceding, text using separateFrom.induct with
  | case1 preceding => simp [separateFrom]
  | case2 preceding c rest behindUnit behindLetter =>
      rw [separateFrom, unseparated_append, unmarked, List.nil_append]
      cases found : set.unitAfter? preceding (c :: rest) with
      | some run =>
          dsimp only
          rw [unseparated_append, behindUnit run, ← unseparated_append,
            append_drop_of_unitAfter? found]
      | none =>
          dsimp only
          rw [unseparated_cons, behindLetter, ← unseparated_cons]

private theorem mem_of_mem_separateFrom
    (membership : c ∈ set.separateFrom preceding text) :
    c = separator ∨ c ∈ text := by
  by_cases isMark : c = separator
  · exact .inl isMark
  · have kept : c ∈ unseparated (set.separateFrom preceding text) :=
      List.mem_filter.mpr ⟨membership, bne_iff_ne.mpr isMark⟩
    rw [unseparated_separateFrom] at kept
    exact .inr (List.mem_filter.mp kept).1

/-- Nothing is separated in a text without capitals, except behind an
initialism. -/
theorem separateFrom_of_noCapitals (behind : preceding ≠ .initialism)
    (noCapitals : ∀ c ∈ text, isUppercase c = false) :
    set.separateFrom preceding text = text := by
  induction text generalizing preceding with
  | nil => rw [separateFrom]
  | cons c rest ih =>
      obtain ⟨small, later⟩ := List.forall_mem_cons.mp noCapitals
      have joined : preceding.separates c = false := by
        cases preceding with
        | nothing => rfl
        | initialism => exact absurd rfl behind
        | letter before => simp [Preceding.separates, small]
      rw [separateFrom, joined, unitAfter?_of_not_isUppercase small]
      dsimp only
      rw [ih Preceding.noConfusion later]
      rfl

/-! ## The form of a name -/

theorem mem_lower_of_mem_snakeChars {name : List Char}
    (membership : c ∈ set.snakeChars name) :
    c ∈ lower (set.separateFrom .nothing name) :=
  (sublist_collapse _).mem membership

/-- The form has only characters that are in lowercase, whatever their place. -/
theorem lower_snakeChars (set : Initialisms) (name : List Char) :
    lower (set.snakeChars name) = set.snakeChars name := by
  apply lowerAfter_eq_self
  intro c membership
  exact lowerChar_of_mem_lowerAfter (mem_lower_of_mem_snakeChars membership)

private theorem isUppercase_of_mem_snakeChars {name : List Char}
    (noCapitals : ∀ c ∈ lower name, isUppercase c = false) :
    ∀ c ∈ set.snakeChars name, isUppercase c = false := by
  intro image membership
  have inLower := mem_lower_of_mem_snakeChars membership
  rcases mem_lowerAfter_cases inLower with
    rfl | rfl | ⟨c, separated, notSigma, isImage⟩
  · decide +kernel
  · decide +kernel
  · rcases mem_of_mem_separateFrom separated with rfl | inName
    · rw [lowerChar_of_isSymbol (by decide), List.mem_singleton] at isImage
      rw [isImage]
      decide
    · exact noCapitals image (mem_lowerAfter_of_mem inName notSigma isImage)

theorem collapsed_snakeChars (set : Initialisms) (name : List Char) :
    Collapsed (set.snakeChars name) :=
  collapsed_collapse _

theorem unseparated_snakeChars (set : Initialisms) {name : List Char}
    (ascii : ∀ c ∈ name, isAscii c = true) :
    unseparated (set.snakeChars name) = unseparated (lower name) := by
  have separatedAscii :
      ∀ c ∈ set.separateFrom .nothing name, isAscii c = true := by
    intro c membership
    rcases mem_of_mem_separateFrom membership with rfl | inName
    · decide
    · exact ascii c inName
  rw [snakeChars, unseparated_collapse, lower_of_ascii separatedAscii,
    lower_of_ascii ascii, ← fold, ← fold, unseparated_fold, unseparated_fold,
    unseparated_separateFrom]

theorem snakeChars_snakeChars (set : Initialisms) {name : List Char}
    (noCapitals : ∀ c ∈ lower name, isUppercase c = false) :
    set.snakeChars (set.snakeChars name) = set.snakeChars name := by
  have small : ∀ c ∈ set.snakeChars name, isUppercase c = false :=
    isUppercase_of_mem_snakeChars noCapitals
  calc set.snakeChars (set.snakeChars name)
    _ = collapse (lower (set.separateFrom .nothing (set.snakeChars name))) :=
      rfl
    _ = collapse (lower (set.snakeChars name)) := by
      rw [separateFrom_of_noCapitals Preceding.noConfusion small]
    _ = collapse (set.snakeChars name) := by rw [lower_snakeChars]
    _ = set.snakeChars name :=
      collapse_of_collapsed (collapsed_snakeChars set name)

private theorem isUppercase_of_mem_lower {name : List Char}
    (ascii : ∀ c ∈ name, isAscii c = true) :
    ∀ c ∈ lower name, isUppercase c = false := by
  rw [lower_of_ascii ascii]
  intro image membership
  obtain ⟨c, inName, rfl⟩ := List.mem_map.mp membership
  exact of_isAscii (fun c => isUppercase c.toLower = false) (by decide)
    (ascii c inName)

/-- The form of an ASCII name loses nothing of the name but its marks and
capitals, no form has two marks side by side, and the form of a name whose
lowercase form has no capitals is a form of itself. -/
theorem unseparated_snake_and_snake_snake (set : Initialisms) (name : String) :
    ((∀ c ∈ name.toList, isAscii c = true) →
      unseparated (set.snake name).toList =
        unseparated (lowercase name).toList ∧
        ∀ c ∈ (lowercase name).toList, isUppercase c = false) ∧
    Collapsed (set.snake name).toList ∧
    ((∀ c ∈ (lowercase name).toList, isUppercase c = false) →
      set.snake (set.snake name) = set.snake name) := by
  simp only [snake, lowercase, String.toList_ofList]
  refine ⟨?_, collapsed_snakeChars set _, ?_⟩
  · intro ascii
    exact ⟨unseparated_snakeChars set ascii, isUppercase_of_mem_lower ascii⟩
  · intro noCapitals
    rw [snakeChars_snakeChars set noCapitals]

/-- A name with marks of its own between initialisms, and one in Greek
letters. -/
theorem snake_xmlHttpRequest :
    unseparated (common.snake "XMLHttp__RequestID").toList =
        "xmlhttprequestid".toList ∧
      common.snake (common.snake "XMLHttp__RequestID") =
        common.snake "XMLHttp__RequestID" ∧
      common.snake (common.snake "ὉδόςID") = common.snake "ὉδόςID" := by
  have keeps :=
    (unseparated_snake_and_snake_snake common "XMLHttp__RequestID").1
  have stable (name : String) :=
    (unseparated_snake_and_snake_snake common name).2.2
  obtain ⟨letters, noCapitals⟩ := keeps (List.all_eq_true.mp (by decide))
  have noneInGreek : (lowercase "ὉδόςID").toList.any isUppercase = false := by
    decide +kernel
  refine ⟨letters.trans (by decide), stable _ noCapitals, stable _ ?_⟩
  intro c membership
  exact Bool.eq_false_iff.mpr (List.any_eq_false.mp noneInGreek c membership)

end Initialisms

end SchemaAtlas
