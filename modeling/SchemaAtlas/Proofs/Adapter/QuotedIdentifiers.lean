import Mathlib.Logic.Function.Basic
import SchemaAtlas.Proofs.AdHoc.ViewLifetime
import SchemaAtlas.Proofs.Text.Cutting

/-!
# Quoted identifiers

A quoted identifier is read from its opening quote up to the first quote that
stands alone, and two quotes side by side are one of the identifier.  This reads
exactly what quoting writes, whatever the identifier is and whatever follows it
other than one more quote.  No identifier ends early therefore, and the
statements that create and drop a view name the same view.
-/

namespace SchemaAtlas

open Text

def Engine.quoteMark : Engine → Char
  | .sqlite | .postgresql | .cockroachdb | .oracle => '\x22'
  | .mysql => MySql.quoteMark

namespace Adapter

/-- Read on between two quotes: the text up to the closing one, and what
follows. -/
def readInside? (mark : Char) : List Char → Option (List Char × List Char)
  | [] => none
  | [c] => if c = mark then some ([], []) else none
  | c :: next :: rest =>
    if c = mark then
      if next = mark then
        (readInside? mark rest).map fun (inside, behind) =>
          (mark :: inside, behind)
      else some ([], next :: rest)
    else
      (readInside? mark (next :: rest)).map fun (inside, behind) =>
        (c :: inside, behind)

/-- Read a quoted identifier at the beginning of a text: the identifier, and
what follows. -/
def readQuoted? (mark : Char) : List Char → Option (List Char × List Char)
  | [] => none
  | c :: rest => if c = mark then readInside? mark rest else none

variable {mark : Char} {text inside behind : List Char}

/-! ## One step of the reader -/

private theorem readInside?_closing (alone : behind.head? ≠ some mark) :
    readInside? mark (mark :: behind) = some ([], behind) := by
  cases behind with
  | nil => simp [readInside?]
  | cons next rest =>
      have other : next ≠ mark := fun same => alone (by simp [same])
      simp [readInside?, other]

private theorem readInside?_pair (rest : List Char) :
    readInside? mark (mark :: mark :: rest) =
      (readInside? mark rest).map fun (inside, behind) =>
        (mark :: inside, behind) := by
  simp [readInside?]

private theorem readInside?_other {c : Char} (other : c ≠ mark)
    (rest : List Char) : readInside? mark (c :: rest) =
      (readInside? mark rest).map fun (inside, behind) =>
        (c :: inside, behind) := by
  cases rest <;> simp [readInside?, other]

/-! ## Whole identifiers -/

private theorem readInside?_doubleMarks (alone : behind.head? ≠ some mark)
    (inside : List Char) :
    readInside? mark (doubleMarks mark inside ++ mark :: behind) =
      some (inside, behind) := by
  induction inside with
  | nil => exact readInside?_closing alone
  | cons c rest ih =>
      by_cases isMark : c = mark
      · rw [isMark, doubleMarks_mark, List.cons_append, List.cons_append,
          readInside?_pair, ih]
        rfl
      · rw [doubleMarks_other isMark, List.cons_append,
          readInside?_other isMark, ih]
        rfl

private theorem eq_of_readInside?
    (read : readInside? mark text = some (inside, behind)) :
    text = doubleMarks mark inside ++ mark :: behind ∧
      behind.head? ≠ some mark := by
  fun_induction readInside? mark text generalizing inside behind with
  | case1 => cases read
  | case2 =>
      cases read
      exact ⟨rfl, by simp⟩
  | case3 => cases read
  | case4 rest ih =>
      obtain ⟨⟨later, last⟩, found, shape⟩ := Option.map_eq_some_iff.mp read
      cases shape
      obtain ⟨rfl, alone⟩ := ih found
      exact ⟨by rw [doubleMarks_mark]; rfl, alone⟩
  | case5 next rest other =>
      cases read
      exact ⟨rfl, by simpa using other⟩
  | case6 c next rest other ih =>
      obtain ⟨⟨later, last⟩, found, shape⟩ := Option.map_eq_some_iff.mp read
      cases shape
      obtain ⟨same, alone⟩ := ih found
      exact ⟨by rw [same, doubleMarks_other other]; rfl, alone⟩

/-- The reader accepts an identifier exactly as it is quoted, unless one more
quote follows. -/
theorem readQuoted?_eq_some_iff :
    readQuoted? mark text = some (inside, behind) ↔
      text = mark :: doubleMarks mark inside ++ mark :: behind ∧
        behind.head? ≠ some mark := by
  constructor
  · intro read
    cases text with
    | nil => cases read
    | cons c rest =>
        rw [readQuoted?] at read
        split at read
        next isMark =>
          obtain ⟨shape, alone⟩ := eq_of_readInside? read
          exact ⟨by rw [isMark, shape]; rfl, alone⟩
        next => cases read
  · rintro ⟨rfl, alone⟩
    rw [List.cons_append, readQuoted?, if_pos rfl]
    exact readInside?_doubleMarks alone inside

theorem readQuoted?_quoteWith {following : String}
    (alone : following.toList.head? ≠ some mark) (identifier : String) :
    readQuoted? mark (quoteWith mark identifier ++ following).toList =
      some (identifier.toList, following.toList) := by
  refine readQuoted?_eq_some_iff.mpr ⟨?_, alone⟩
  rw [String.toList_append, toList_quoteWith, List.append_assoc]
  rfl

theorem readQuoted?_quoteWith_end (mark : Char) (identifier : String) :
    readQuoted? mark (quoteWith mark identifier).toList =
      some (identifier.toList, []) :=
  readQuoted?_eq_some_iff.mpr ⟨toList_quoteWith mark identifier, nofun⟩

theorem injective_quoteWith (mark : Char) :
    Function.Injective (quoteWith mark) := by
  intro left right same
  have read := readQuoted?_quoteWith_end mark left
  rw [same, readQuoted?_quoteWith_end mark right] at read
  exact (String.toList_injective
    (congrArg Prod.fst (Option.some.inj read))).symm

theorem quote_builtin (engine : Engine) (kind : Catalog.IdentifierKind) :
    (builtin engine).quote kind = quoteWith engine.quoteMark := by
  cases engine <;> rfl

end Adapter

namespace View

/-- The name that the dictionary of an engine has for a view. -/
def storedName : Engine → String → String
  | .oracle, name => uppercase name
  | _, name => name

theorem quotedName_eq (engine : Engine) (name : String) :
    quotedName engine name =
      Adapter.quoteWith engine.quoteMark (storedName engine name) := by
  cases engine <;> rfl

/-- The view that a statement creates, and how the statement goes on. -/
def created? (engine : Engine) (sql : String) :
    Option (List Char × List Char) :=
  (withoutStart? "CREATE VIEW ".toList sql.toList).bind
    (Adapter.readQuoted? engine.quoteMark)

/-- The view that a statement drops, and how the statement goes on. -/
def dropped? (engine : Engine) (sql : String) :
    Option (List Char × List Char) :=
  (withoutStart? "DROP VIEW ".toList sql.toList).bind
    (Adapter.readQuoted? engine.quoteMark)

theorem created?_createStatement (engine : Engine) (name statement : String) :
    created? engine (createStatement engine name statement) =
      some ((storedName engine name).toList,
        (" AS " ++ body engine statement).toList) := by
  have alone : (" AS " ++ body engine statement).toList.head? ≠
      some engine.quoteMark := by
    rw [String.toList_append]
    cases engine <;> exact fun same => absurd (Option.some.inj same) (by decide)
  rw [created?, createStatement, quotedName_eq, String.append_assoc,
    String.append_assoc, String.toList_append, withoutStart?_append]
  exact Adapter.readQuoted?_quoteWith alone _

theorem dropped?_dropStatement (engine : Engine) (name : String) :
    dropped? engine (dropStatement engine name) =
      some ((storedName engine name).toList, []) := by
  rw [dropped?, dropStatement, quotedName_eq, String.toList_append,
    withoutStart?_append]
  exact Adapter.readQuoted?_quoteWith_end _ _

end View

namespace Adapter

/-- Every engine's identifiers are read back from their quotes, no two of them
are quoted alike, and the view that a statement creates is the one that the
statement for its name drops. -/
theorem readQuoted?_quote (engine : Engine) :
    (∀ kind identifier following,
      following.toList.head? ≠ some engine.quoteMark →
        readQuoted? engine.quoteMark
            ((builtin engine).quote kind identifier ++ following).toList =
          some (identifier.toList, following.toList)) ∧
    (∀ kind, Function.Injective ((builtin engine).quote kind)) ∧
    ∀ name statement,
      View.created? engine ((builtin engine).createView name statement) =
        some ((View.storedName engine name).toList,
          (" AS " ++ View.body engine statement).toList) ∧
      View.dropped? engine ((builtin engine).dropView name) =
        some ((View.storedName engine name).toList, []) := by
  refine ⟨?_, fun kind => ?_, fun name statement => ⟨?_, ?_⟩⟩
  · intro kind identifier following alone
    rw [quote_builtin]
    exact readQuoted?_quoteWith alone identifier
  · rw [quote_builtin]
    exact injective_quoteWith engine.quoteMark
  · rw [View.createView_builtin]
    exact View.created?_createStatement engine name statement
  · rw [View.dropView_builtin]
    exact View.dropped?_dropStatement engine name

/-- A name that begins and ends in a quote and has two of them in a row. -/
def tampered : String := "\"book\"\"; DROP VIEW author; --\""

theorem readQuoted?_quote_tampered :
    " AS t".toList.head? ≠ some Engine.oracle.quoteMark ∧
      (builtin .oracle).quote .column tampered =
        "\"\"\"book\"\"\"\"; DROP VIEW author; --\"\"\"" ∧
      readQuoted? Engine.oracle.quoteMark
          ((builtin .oracle).quote .column tampered ++ " AS t").toList =
        some (tampered.toList, " AS t".toList) ∧
      View.created? .oracle
          ((builtin .oracle).createView tampered "SELECT 1 FROM dual") =
        some ("\"BOOK\"\"; DROP VIEW AUTHOR; --\"".toList,
          " AS (SELECT 1 FROM dual)".toList) ∧
      View.dropped? .oracle ((builtin .oracle).dropView tampered) =
        some ("\"BOOK\"\"; DROP VIEW AUTHOR; --\"".toList, []) := by
  have alone : " AS t".toList.head? ≠ some Engine.oracle.quoteMark := by decide
  obtain ⟨reads, _, views⟩ := readQuoted?_quote .oracle
  obtain ⟨created, dropped⟩ := views tampered "SELECT 1 FROM dual"
  have stored : View.storedName .oracle tampered =
      "\"BOOK\"\"; DROP VIEW AUTHOR; --\"" := by decide
  rw [stored] at created dropped
  exact ⟨alone, by decide, reads .column tampered " AS t" alone, created,
    dropped⟩

end Adapter

end SchemaAtlas
