import SchemaAtlas.Proofs.Adapter.Rows

/-!
# Records that rows report

A row that is not at fault reports one record: each part of the record is what a
column holds, or is the same for all rows of the engine.
-/

namespace SchemaAtlas

open Catalog

/-- A row reports a relation of a kind. -/
structure Engine.ReportsTable (engine : Engine) (kind : String) (row : Row)
    (table : TableRecord) : Prop where
  name : row.Holds 0 .text table.name
  kind : table.kind = kind
  comment : match engine with
    | .sqlite => table.comment = none
    | .mysql => ∃ comment?, row.Holds 1 .optionalText comment? ∧
        table.comment = comment?.filter fun text => !text.isEmpty
    | _ => row.Holds 1 .optionalText table.comment

structure Engine.ReportsColumn (engine : Engine) (row : Row)
    (column : ColumnRecord) : Prop where
  ordinal : row.Holds 0 .integer column.ordinal
  name : row.Holds 1 .text column.name
  nativeType : row.Holds 2 .text column.nativeType
  notNull : row.Holds 3 .truth column.notNull
  others : match engine with
    | .sqlite => row.Holds 4 .optionalText column.defaultValue ∧
        row.Holds 5 .truth column.inPrimaryKey ∧ column.comment = none
    | .oracle => column.defaultValue = none ∧
        row.Holds 4 .truth column.inPrimaryKey ∧
        row.Holds 5 .optionalText column.comment
    | .mysql => row.Holds 4 .optionalText column.defaultValue ∧
        row.Holds 5 .truth column.inPrimaryKey ∧
        ∃ comment?, row.Holds 6 .optionalText comment? ∧
          column.comment = comment?.filter fun text => !text.isEmpty
    | _ => row.Holds 4 .optionalText column.defaultValue ∧
        row.Holds 5 .truth column.inPrimaryKey ∧
        row.Holds 6 .optionalText column.comment

def Engine.ReportsForeignKey (engine : Engine) (row : Row)
    (key : ForeignKeyRecord) : Prop :=
  match engine with
  | .sqlite => key.name = "" ∧ row.Holds 0 .text key.column ∧
      row.Holds 1 .text key.refTable ∧
      row.Holds 2 .optionalText key.refColumn ∧
      row.Holds 3 .optionalText key.onUpdate ∧
      row.Holds 4 .optionalText key.onDelete
  | .oracle => row.Holds 0 .text key.name ∧ row.Holds 1 .text key.column ∧
      row.Holds 2 .text key.refTable ∧ key.refColumn = none ∧
      key.onUpdate = none ∧ row.Holds 3 .optionalText key.onDelete
  | .mysql => row.Holds 0 .text key.name ∧ row.Holds 1 .text key.column ∧
      row.Holds 2 .text key.refTable ∧
      row.Holds 3 .optionalText key.refColumn ∧
      row.Holds 4 .optionalText key.onUpdate ∧
      row.Holds 5 .optionalText key.onDelete
  | _ => row.Holds 0 .text key.name ∧ row.Holds 1 .text key.column ∧
      row.Holds 2 .text key.refTable ∧
      row.Holds 3 .optionalText key.refColumn ∧
      (∃ code?, row.Holds 4 .optionalText code? ∧
        key.onUpdate = code?.map PostgreSql.actionName) ∧
      ∃ code?, row.Holds 5 .optionalText code? ∧
        key.onDelete = code?.map PostgreSql.actionName

structure Engine.ReportsIndex (engine : Engine) (row : Row)
    (index : IndexRecord) : Prop where
  name : row.Holds 0 .text index.name
  unique : row.Holds 1 .truth index.unique
  others : match engine with
    | .sqlite => index.primary = false ∧
        row.Holds 2 .optionalText index.origin
    | .mysql => index.primary = false ∧ index.origin = none
    | _ => row.Holds 2 .truth index.primary ∧ index.origin = none

section Reports

open DriverError Catalog.Row

variable {row : Row}

theorem Catalog.TableRecord.ofRow_eq_ok_iff {kind : String}
    {table : TableRecord} :
    TableRecord.ofRow kind row = .ok table ↔
      row.Holds 0 .text table.name ∧ table.kind = kind ∧
        row.Holds 1 .optionalText table.comment := by
  simp only [TableRecord.ofRow, bind_eq_ok_iff, text_eq_ok_iff,
    optionalText_eq_ok_iff]
  constructor
  · rintro ⟨_, name, _, comment, ⟨⟩⟩
    exact ⟨name, rfl, comment⟩
  · rintro ⟨name, rfl, comment⟩
    exact ⟨_, name, _, comment, rfl⟩

theorem Engine.tableOfRow_eq_ok_iff (engine : Engine) {kind : String}
    {table : TableRecord} :
    engine.tableOfRow kind row = .ok table ↔
      engine.ReportsTable kind row table := by
  cases engine with
  | sqlite =>
      simp only [tableOfRow, Sqlite.tableOfRow, bind_eq_ok_iff, text_eq_ok_iff]
      constructor
      · rintro ⟨_, name, ⟨⟩⟩
        exact ⟨name, rfl, rfl⟩
      · rintro ⟨name, rfl, comment⟩
        exact ⟨_, name, congrArg Except.ok (by rw [← comment])⟩
  | mysql =>
      simp only [tableOfRow, MySql.tableOfRow, bind_eq_ok_iff,
        TableRecord.ofRow_eq_ok_iff]
      constructor
      · rintro ⟨plain, ⟨name, rfl, comment⟩, ⟨⟩⟩
        exact ⟨name, rfl, _, comment, rfl⟩
      · rintro ⟨name, rfl, comment?, comment, kept⟩
        refine ⟨{ table with comment := comment? }, ⟨name, rfl, comment⟩, ?_⟩
        exact congrArg Except.ok (by rw [dropEmpty, ← kept])
  | postgresql | cockroachdb | oracle =>
      refine TableRecord.ofRow_eq_ok_iff.trans ⟨?_, ?_⟩
      · rintro ⟨name, kind, comment⟩
        exact ⟨name, kind, comment⟩
      · rintro ⟨name, kind, comment⟩
        exact ⟨name, kind, comment⟩

theorem Catalog.ColumnRecord.ofRow_eq_ok_iff {column : ColumnRecord} :
    ColumnRecord.ofRow row = .ok column ↔
      row.Holds 0 .integer column.ordinal ∧ row.Holds 1 .text column.name ∧
        row.Holds 2 .text column.nativeType ∧
        row.Holds 3 .truth column.notNull ∧
        row.Holds 4 .optionalText column.defaultValue ∧
        row.Holds 5 .truth column.inPrimaryKey ∧
        row.Holds 6 .optionalText column.comment := by
  simp only [ColumnRecord.ofRow, bind_eq_ok_iff, int_eq_ok_iff, text_eq_ok_iff,
    bool_eq_ok_iff, optionalText_eq_ok_iff]
  constructor
  · rintro ⟨_, ordinal, _, name, _, type, _, notNull, _, standard, _, inKey, _,
      comment, ⟨⟩⟩
    exact ⟨ordinal, name, type, notNull, standard, inKey, comment⟩
  · rintro ⟨ordinal, name, type, notNull, standard, inKey, comment⟩
    exact ⟨_, ordinal, _, name, _, type, _, notNull, _, standard, _, inKey, _,
      comment, rfl⟩

theorem Engine.columnOfRow_eq_ok_iff (engine : Engine)
    {column : ColumnRecord} :
    engine.columnOfRow row = .ok column ↔ engine.ReportsColumn row column := by
  cases engine with
  | sqlite =>
      simp only [columnOfRow, Sqlite.columnOfRow, bind_eq_ok_iff, int_eq_ok_iff,
        text_eq_ok_iff, bool_eq_ok_iff, optionalText_eq_ok_iff]
      constructor
      · rintro ⟨_, ordinal, _, name, _, type, _, notNull, _, standard, _, inKey,
          ⟨⟩⟩
        exact ⟨ordinal, name, type, notNull, standard, inKey, rfl⟩
      · rintro ⟨ordinal, name, type, notNull, standard, inKey, comment⟩
        exact ⟨_, ordinal, _, name, _, type, _, notNull, _, standard, _, inKey,
          congrArg Except.ok (by rw [← comment])⟩
  | oracle =>
      simp only [columnOfRow, Oracle.columnOfRow, bind_eq_ok_iff, int_eq_ok_iff,
        text_eq_ok_iff, bool_eq_ok_iff, optionalText_eq_ok_iff]
      constructor
      · rintro ⟨_, ordinal, _, name, _, type, _, notNull, _, inKey, _, comment,
          ⟨⟩⟩
        exact ⟨ordinal, name, type, notNull, rfl, inKey, comment⟩
      · rintro ⟨ordinal, name, type, notNull, standard, inKey, comment⟩
        exact ⟨_, ordinal, _, name, _, type, _, notNull, _, inKey, _, comment,
          congrArg Except.ok (by rw [← standard])⟩
  | mysql =>
      simp only [columnOfRow, MySql.columnOfRow, bind_eq_ok_iff,
        ColumnRecord.ofRow_eq_ok_iff]
      constructor
      · rintro ⟨plain, ⟨ordinal, name, type, notNull, standard, inKey, comment⟩,
          ⟨⟩⟩
        exact ⟨ordinal, name, type, notNull, standard, inKey, _, comment, rfl⟩
      · rintro ⟨ordinal, name, type, notNull, standard, inKey, comment?,
          comment, kept⟩
        refine ⟨{ column with comment := comment? },
          ⟨ordinal, name, type, notNull, standard, inKey, comment⟩, ?_⟩
        exact congrArg Except.ok (by rw [dropEmpty, ← kept])
  | postgresql | cockroachdb =>
      refine ColumnRecord.ofRow_eq_ok_iff.trans ⟨?_, ?_⟩
      · rintro ⟨ordinal, name, type, notNull, others⟩
        exact ⟨ordinal, name, type, notNull, others⟩
      · rintro ⟨ordinal, name, type, notNull, others⟩
        exact ⟨ordinal, name, type, notNull, others⟩

theorem Catalog.ForeignKeyRecord.ofRow_eq_ok_iff {key : ForeignKeyRecord} :
    ForeignKeyRecord.ofRow row = .ok key ↔
      Engine.mysql.ReportsForeignKey row key := by
  simp only [ForeignKeyRecord.ofRow, bind_eq_ok_iff, text_eq_ok_iff,
    optionalText_eq_ok_iff]
  constructor
  · rintro ⟨_, name, _, column, _, table, _, refColumn, _, onUpdate, _,
      onDelete, ⟨⟩⟩
    exact ⟨name, column, table, refColumn, onUpdate, onDelete⟩
  · rintro ⟨name, column, table, refColumn, onUpdate, onDelete⟩
    exact ⟨_, name, _, column, _, table, _, refColumn, _, onUpdate, _, onDelete,
      rfl⟩

theorem Engine.foreignKeyOfRow_eq_ok_iff (engine : Engine)
    {key : ForeignKeyRecord} :
    engine.foreignKeyOfRow row = .ok key ↔
      engine.ReportsForeignKey row key := by
  cases engine with
  | sqlite =>
      simp only [foreignKeyOfRow, Sqlite.foreignKeyOfRow, bind_eq_ok_iff,
        text_eq_ok_iff, optionalText_eq_ok_iff]
      constructor
      · rintro ⟨_, column, _, table, _, refColumn, _, onUpdate, _, onDelete, ⟨⟩⟩
        exact ⟨rfl, column, table, refColumn, onUpdate, onDelete⟩
      · rintro ⟨name, column, table, refColumn, onUpdate, onDelete⟩
        exact ⟨_, column, _, table, _, refColumn, _, onUpdate, _, onDelete,
          congrArg Except.ok (by rw [← name])⟩
  | oracle =>
      simp only [foreignKeyOfRow, Oracle.foreignKeyOfRow, bind_eq_ok_iff,
        text_eq_ok_iff, optionalText_eq_ok_iff]
      constructor
      · rintro ⟨_, name, _, column, _, table, _, onDelete, ⟨⟩⟩
        exact ⟨name, column, table, rfl, rfl, onDelete⟩
      · rintro ⟨name, column, table, refColumn, onUpdate, onDelete⟩
        refine ⟨_, name, _, column, _, table, _, onDelete, ?_⟩
        cases key
        cases refColumn
        cases onUpdate
        rfl
  | mysql => exact ForeignKeyRecord.ofRow_eq_ok_iff
  | postgresql | cockroachdb =>
      simp only [foreignKeyOfRow, PostgreSql.foreignKeyOfRow, bind_eq_ok_iff,
        ForeignKeyRecord.ofRow_eq_ok_iff]
      constructor
      · rintro ⟨plain, ⟨name, column, table, refColumn, onUpdate, onDelete⟩, ⟨⟩⟩
        exact ⟨name, column, table, refColumn, ⟨_, onUpdate, rfl⟩, _, onDelete,
          rfl⟩
      · rintro ⟨name, column, table, refColumn, ⟨update?, onUpdate, updates⟩,
          delete?, onDelete, deletes⟩
        refine ⟨{ key with onUpdate := update?, onDelete := delete? },
          ⟨name, column, table, refColumn, onUpdate, onDelete⟩, ?_⟩
        exact congrArg Except.ok (by rw [← updates, ← deletes])

theorem Engine.indexOfRow_eq_ok_iff (engine : Engine) {index : IndexRecord} :
    engine.indexOfRow row = .ok index ↔ engine.ReportsIndex row index := by
  cases engine with
  | sqlite =>
      simp only [indexOfRow, Sqlite.indexOfRow, bind_eq_ok_iff, text_eq_ok_iff,
        bool_eq_ok_iff, optionalText_eq_ok_iff]
      constructor
      · rintro ⟨_, name, _, unique, _, origin, ⟨⟩⟩
        exact ⟨name, unique, rfl, origin⟩
      · rintro ⟨name, unique, primary, origin⟩
        exact ⟨_, name, _, unique, _, origin,
          congrArg Except.ok (by rw [← primary])⟩
  | mysql =>
      simp only [indexOfRow, MySql.indexOfRow, bind_eq_ok_iff, text_eq_ok_iff,
        bool_eq_ok_iff]
      constructor
      · rintro ⟨_, name, _, unique, ⟨⟩⟩
        exact ⟨name, unique, rfl, rfl⟩
      · rintro ⟨name, unique, primary, origin⟩
        exact ⟨_, name, _, unique,
          congrArg Except.ok (by rw [← primary, ← origin])⟩
  | postgresql | cockroachdb | oracle =>
      simp only [indexOfRow, IndexRecord.ofRow, bind_eq_ok_iff, text_eq_ok_iff,
        bool_eq_ok_iff]
      constructor
      · rintro ⟨_, name, _, unique, _, primary, ⟨⟩⟩
        exact ⟨name, unique, primary, rfl⟩
      · rintro ⟨name, unique, primary, origin⟩
        exact ⟨_, name, _, unique, _, primary,
          congrArg Except.ok (by rw [← origin])⟩

end Reports

end SchemaAtlas
