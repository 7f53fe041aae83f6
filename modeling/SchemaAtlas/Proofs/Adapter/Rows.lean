import SchemaAtlas.Registry

/-!
# What rows hold

An engine promises what the columns of a row hold.  A row is at fault if it is
too short or if a column holds something else, and the fault is that of the
first such column.  This is how every reader of rows fails.
-/

namespace SchemaAtlas

open Catalog

/-- The error of a reading that fails. -/
def DriverError.of? {α : Type} : Except DriverError α → Option DriverError
  | .ok _ => none
  | .error cause => some cause

namespace Catalog

/-- What a column may be promised to hold. -/
inductive Content where
  | text
  | optionalText
  | integer
  | truth

namespace Content

abbrev Value : Content → Type
  | .text => String
  | .optionalText => Option String
  | .integer => Int
  | .truth => Bool

def value? : (content : Content) → Cell → Option content.Value
  | .text, cell => cell.text?
  | .optionalText, cell => some cell.text?
  | .integer, cell => cell.int?
  | .truth, cell => cell.bool?

/-- How messages call what a column should have held. -/
def word : Content → String
  | .text | .optionalText => "text"
  | .integer => "integer"
  | .truth => "bool"

end Content

namespace Row

variable (row : Row) (column : Nat)

/-- A column of a row holds a value. -/
def Holds (content : Content) (value : content.Value) : Prop :=
  ∃ cell, row.cells[column]? = some cell ∧ content.value? cell = some value

/-- What is wrong with a column that is promised to hold some content. -/
def columnFault? (content : Content) : Option DriverError :=
  match row.cells[column]? with
  | none => some (.missingColumn column row.cells.length)
  | some cell =>
    if (content.value? cell).isSome then none
    else some (.decode column content.word cell.kind)

/-- What is wrong with a row whose columns, from one on, are promised to hold
some contents: the fault of the first column that is at fault. -/
def faultFrom? (row : Row) (column : Nat) : List Content → Option DriverError
  | [] => none
  | content :: rest =>
    (row.columnFault? column content).or (row.faultFrom? (column + 1) rest)

/-- What is wrong with a row that is promised to hold some contents. -/
def fault? (contents : List Content) : Option DriverError :=
  row.faultFrom? 0 contents

/-- The value of a column, or what is wrong with it. -/
def value (content : Content) : Except DriverError content.Value :=
  match row.cells[column]? with
  | none => .error (.missingColumn column row.cells.length)
  | some cell =>
    match content.value? cell with
    | some value => .ok value
    | none => .error (.decode column content.word cell.kind)

theorem optionalText_eq :
    row.optionalText column = row.value column .optionalText := by
  rw [optionalText, cell, value]
  cases row.cells[column]? <;> rfl

theorem text_eq : row.text column = row.value column .text := by
  rw [text, optionalText, cell, value]
  cases row.cells[column]? with
  | none => rfl
  | some cell => cases cell <;> rfl

theorem int_eq : row.int column = row.value column .integer := by
  rw [int, cell, value]
  cases row.cells[column]? with
  | none => rfl
  | some cell =>
      simp only [Bind.bind, Except.bind, Content.value?]
      cases cell.int? <;> rfl

theorem bool_eq : row.bool column = row.value column .truth := by
  rw [bool, cell, value]
  cases row.cells[column]? with
  | none => rfl
  | some cell =>
      simp only [Bind.bind, Except.bind, Content.value?]
      cases cell.bool? <;> rfl

variable {row column} {content : Content}

theorem value_eq_ok_iff {value : content.Value} :
    row.value column content = .ok value ↔ row.Holds column content value := by
  rw [Row.value, Holds]
  cases row.cells[column]? with
  | none => simp
  | some cell =>
      cases found : content.value? cell <;> simp [found]

theorem of?_value :
    DriverError.of? (row.value column content) =
      row.columnFault? column content := by
  rw [Row.value, columnFault?]
  cases row.cells[column]? with
  | none => rfl
  | some cell =>
      cases found : content.value? cell <;> simp [DriverError.of?, found]

end Row

end Catalog

namespace DriverError

variable {α β : Type} {first : Except DriverError α}
  {next : α → Except DriverError β} {fault rest : Option DriverError}

theorem of?_bind_or (firstFault : of? first = fault)
    (restFault : ∀ value, of? (next value) = rest) :
    of? (first >>= next) = fault.or rest := by
  subst firstFault
  cases first with
  | error cause => rfl
  | ok value => exact restFault value

theorem of?_bind_pure (outcome : Except DriverError α) (make : α → β) :
    of? (outcome >>= fun value => pure (make value)) = of? outcome := by
  cases outcome <;> rfl

theorem bind_eq_ok_iff {value : β} :
    (first >>= next) = .ok value ↔
      ∃ read, first = .ok read ∧ next read = .ok value := by
  cases first with
  | error cause =>
      constructor
      · nofun
      · rintro ⟨_, ⟨⟩, _⟩
  | ok read =>
      constructor
      · exact fun succeeded => ⟨read, rfl, succeeded⟩
      · rintro ⟨_, ⟨⟩, succeeded⟩
        exact succeeded

end DriverError

namespace Catalog.Row

variable (row : Row) (column : Nat)

theorem of?_text :
    DriverError.of? (row.text column) = row.columnFault? column .text :=
  row.text_eq column ▸ of?_value

theorem of?_optionalText :
    DriverError.of? (row.optionalText column) =
      row.columnFault? column .optionalText :=
  row.optionalText_eq column ▸ of?_value

theorem of?_int :
    DriverError.of? (row.int column) = row.columnFault? column .integer :=
  row.int_eq column ▸ of?_value

theorem of?_bool :
    DriverError.of? (row.bool column) = row.columnFault? column .truth :=
  row.bool_eq column ▸ of?_value

variable {row column}

theorem text_eq_ok_iff {text : String} :
    row.text column = .ok text ↔ row.Holds column .text text :=
  row.text_eq column ▸ value_eq_ok_iff

theorem optionalText_eq_ok_iff {text? : Option String} :
    row.optionalText column = .ok text? ↔
      row.Holds column .optionalText text? :=
  row.optionalText_eq column ▸ value_eq_ok_iff

theorem int_eq_ok_iff {number : Int} :
    row.int column = .ok number ↔ row.Holds column .integer number :=
  row.int_eq column ▸ value_eq_ok_iff

theorem bool_eq_ok_iff {truth : Bool} :
    row.bool column = .ok truth ↔ row.Holds column .truth truth :=
  row.bool_eq column ▸ value_eq_ok_iff

end Catalog.Row

/-! ## What the columns of the rows hold -/

namespace Engine

def tableContents : Engine → List Content
  | .sqlite => [.text]
  | _ => [.text, .optionalText]

def columnContents : Engine → List Content
  | .sqlite => [.integer, .text, .text, .truth, .optionalText, .truth]
  | .oracle => [.integer, .text, .text, .truth, .truth, .optionalText]
  | _ =>
    [.integer, .text, .text, .truth, .optionalText, .truth, .optionalText]

def foreignKeyContents : Engine → List Content
  | .sqlite => [.text, .text, .optionalText, .optionalText, .optionalText]
  | .oracle => [.text, .text, .text, .optionalText]
  | _ =>
    [.text, .text, .text, .optionalText, .optionalText, .optionalText]

def indexContents : Engine → List Content
  | .sqlite => [.text, .truth, .optionalText]
  | .mysql => [.text, .truth]
  | _ => [.text, .truth, .truth]

/-- How an engine reads a row about a relation of a kind. -/
def tableOfRow : Engine → String → Row → Except DriverError TableRecord
  | .sqlite => Sqlite.tableOfRow
  | .mysql => MySql.tableOfRow
  | _ => TableRecord.ofRow

def columnOfRow : Engine → Row → Except DriverError ColumnRecord
  | .sqlite => Sqlite.columnOfRow
  | .mysql => MySql.columnOfRow
  | .oracle => Oracle.columnOfRow
  | _ => ColumnRecord.ofRow

def foreignKeyOfRow : Engine → Row → Except DriverError ForeignKeyRecord
  | .sqlite => Sqlite.foreignKeyOfRow
  | .mysql => ForeignKeyRecord.ofRow
  | .oracle => Oracle.foreignKeyOfRow
  | _ => PostgreSql.foreignKeyOfRow

def indexOfRow : Engine → Row → Except DriverError IndexRecord
  | .sqlite => Sqlite.indexOfRow
  | .mysql => MySql.indexOfRow
  | _ => IndexRecord.ofRow

end Engine

section Faults

open DriverError Catalog.Row

variable (row : Row)

theorem Catalog.of?_nameOfRow : of? (nameOfRow row) = row.fault? [.text] :=
  (row.of?_text 0).trans Option.or_none.symm

theorem Catalog.EnumRecord.of?_ofRow :
    of? (EnumRecord.ofRow row) = row.fault? [.text] :=
  of?_bind_or (row.of?_text 0) fun _ => rfl

theorem PostgreSql.of?_labelOfRow :
    of? (labelOfRow row) = row.fault? [.text, .integer] :=
  of?_bind_or (row.of?_text 0) fun _ => of?_bind_or (row.of?_int 1) fun _ => rfl

theorem Catalog.RoutineRecord.of?_ofRow :
    of? (RoutineRecord.ofRow row) = row.fault? [.text, .text] :=
  of?_bind_or (row.of?_text 0) fun _ =>
    of?_bind_or (row.of?_text 1) fun _ => rfl

theorem Catalog.ParameterRecord.of?_ofRow :
    of? (ParameterRecord.ofRow row) = row.fault? [.text] :=
  of?_bind_or (row.of?_text 0) fun _ => rfl

theorem Catalog.IndexColumnRecord.of?_ofRow :
    of? (IndexColumnRecord.ofRow row) =
      row.fault? [.integer, .integer, .text] :=
  of?_bind_or (row.of?_int 0) fun _ => of?_bind_or (row.of?_int 1) fun _ =>
    of?_bind_or (row.of?_text 2) fun _ => rfl

theorem Catalog.TableRecord.of?_ofRow (kind : String) :
    of? (TableRecord.ofRow kind row) = row.fault? [.text, .optionalText] :=
  of?_bind_or (row.of?_text 0) fun _ =>
    of?_bind_or (row.of?_optionalText 1) fun _ => rfl

theorem Engine.of?_tableOfRow (engine : Engine) (kind : String) :
    of? (engine.tableOfRow kind row) = row.fault? engine.tableContents := by
  cases engine with
  | sqlite => exact of?_bind_or (row.of?_text 0) fun _ => rfl
  | mysql =>
      exact (of?_bind_pure _ _).trans (TableRecord.of?_ofRow row kind)
  | postgresql | cockroachdb | oracle => exact TableRecord.of?_ofRow row kind

theorem Catalog.ColumnRecord.of?_ofRow :
    of? (ColumnRecord.ofRow row) = row.fault? [.integer, .text, .text, .truth,
      .optionalText, .truth, .optionalText] :=
  of?_bind_or (row.of?_int 0) fun _ => of?_bind_or (row.of?_text 1) fun _ =>
    of?_bind_or (row.of?_text 2) fun _ => of?_bind_or (row.of?_bool 3) fun _ =>
    of?_bind_or (row.of?_optionalText 4) fun _ =>
    of?_bind_or (row.of?_bool 5) fun _ =>
    of?_bind_or (row.of?_optionalText 6) fun _ => rfl

theorem Engine.of?_columnOfRow (engine : Engine) :
    of? (engine.columnOfRow row) = row.fault? engine.columnContents := by
  cases engine with
  | sqlite =>
      exact of?_bind_or (row.of?_int 0) fun _ =>
        of?_bind_or (row.of?_text 1) fun _ =>
        of?_bind_or (row.of?_text 2) fun _ =>
        of?_bind_or (row.of?_bool 3) fun _ =>
        of?_bind_or (row.of?_optionalText 4) fun _ =>
        of?_bind_or (row.of?_bool 5) fun _ => rfl
  | oracle =>
      exact of?_bind_or (row.of?_int 0) fun _ =>
        of?_bind_or (row.of?_text 1) fun _ =>
        of?_bind_or (row.of?_text 2) fun _ =>
        of?_bind_or (row.of?_bool 3) fun _ =>
        of?_bind_or (row.of?_bool 4) fun _ =>
        of?_bind_or (row.of?_optionalText 5) fun _ => rfl
  | mysql => exact (of?_bind_pure _ _).trans (ColumnRecord.of?_ofRow row)
  | postgresql | cockroachdb => exact ColumnRecord.of?_ofRow row

theorem Catalog.ForeignKeyRecord.of?_ofRow :
    of? (ForeignKeyRecord.ofRow row) = row.fault? [.text, .text, .text,
      .optionalText, .optionalText, .optionalText] :=
  of?_bind_or (row.of?_text 0) fun _ => of?_bind_or (row.of?_text 1) fun _ =>
    of?_bind_or (row.of?_text 2) fun _ =>
    of?_bind_or (row.of?_optionalText 3) fun _ =>
    of?_bind_or (row.of?_optionalText 4) fun _ =>
    of?_bind_or (row.of?_optionalText 5) fun _ => rfl

theorem Engine.of?_foreignKeyOfRow (engine : Engine) :
    of? (engine.foreignKeyOfRow row) =
      row.fault? engine.foreignKeyContents := by
  cases engine with
  | sqlite =>
      exact of?_bind_or (row.of?_text 0) fun _ =>
        of?_bind_or (row.of?_text 1) fun _ =>
        of?_bind_or (row.of?_optionalText 2) fun _ =>
        of?_bind_or (row.of?_optionalText 3) fun _ =>
        of?_bind_or (row.of?_optionalText 4) fun _ => rfl
  | oracle =>
      exact of?_bind_or (row.of?_text 0) fun _ =>
        of?_bind_or (row.of?_text 1) fun _ =>
        of?_bind_or (row.of?_text 2) fun _ =>
        of?_bind_or (row.of?_optionalText 3) fun _ => rfl
  | mysql => exact ForeignKeyRecord.of?_ofRow row
  | postgresql | cockroachdb =>
      exact (of?_bind_pure _ _).trans (ForeignKeyRecord.of?_ofRow row)

theorem Engine.of?_indexOfRow (engine : Engine) :
    of? (engine.indexOfRow row) = row.fault? engine.indexContents := by
  cases engine with
  | sqlite =>
      exact of?_bind_or (row.of?_text 0) fun _ =>
        of?_bind_or (row.of?_bool 1) fun _ =>
        of?_bind_or (row.of?_optionalText 2) fun _ => rfl
  | mysql =>
      exact of?_bind_or (row.of?_text 0) fun _ =>
        of?_bind_or (row.of?_bool 1) fun _ => rfl
  | postgresql | cockroachdb | oracle =>
      exact of?_bind_or (row.of?_text 0) fun _ =>
        of?_bind_or (row.of?_bool 1) fun _ =>
        of?_bind_or (row.of?_bool 2) fun _ => rfl

end Faults

end SchemaAtlas
