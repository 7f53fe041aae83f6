import SchemaAtlas.Adapter.Basic
import SchemaAtlas.Adapter.Sqlite.Queries
import SchemaAtlas.Vocabulary.Sqlite

/-!
# The adapter of SQLite

A database file has one schema.  Constraints have no names, and a statement that
a view is made of must not stand in parentheses.
-/

namespace SchemaAtlas

open Catalog Inquiry

namespace Sqlite

/-- The one schema of a database file. -/
def mainSchema : String := "main"

/-- Read a row of a relation, which has no comment. -/
def tableOfRow (kind : String) (row : Row) :
    Except DriverError TableRecord := do
  return ⟨← row.text 0, kind, none⟩

/-- Read a row of a column, which has no comment. -/
def columnOfRow (row : Row) : Except DriverError ColumnRecord := do
  return {
    ordinal := ← row.int 0
    name := ← row.text 1
    nativeType := ← row.text 2
    notNull := ← row.bool 3
    defaultValue := ← row.optionalText 4
    inPrimaryKey := ← row.bool 5
    comment := none }

/-- Read a row of a foreign key, which has no name. -/
def foreignKeyOfRow (row : Row) : Except DriverError ForeignKeyRecord := do
  return {
    name := ""
    column := ← row.text 0
    refTable := ← row.text 1
    refColumn := ← row.optionalText 2
    onUpdate := ← row.optionalText 3
    onDelete := ← row.optionalText 4 }

def indexOfRow (row : Row) : Except DriverError IndexRecord := do
  return ⟨← row.text 0, ← row.bool 1, false, ← row.optionalText 2⟩

end Sqlite

open Sqlite

def Adapter.sqlite : Adapter where
  engine := .sqlite
  capabilities :=
    { enums := false
      routines := false
      foreignKeyCorrection := false
      primaryKeyIndexSynthesis := true }
  relationWord
    | .table => "table"
    | .view => "view"
  placeholder _ := "?"
  resolve := Vocabulary.sqlite.resolve
  schemaName := return mainSchema
  tables _ kind := listOf (tableOfRow kind) Queries.tables [kind]
  sequenceTables _ := listOf nameOfRow Queries.sequences []
  autoIncrementTables _ := listOf nameOfRow Queries.rowidTables []
  columns _ relation := listOf columnOfRow Queries.columns [relation]
  foreignKeys _ relation :=
    listOf foreignKeyOfRow Queries.foreignKeys [relation]
  indexes _ relation := listOf indexOfRow Queries.indexes [relation]
  indexColumns _ _ index :=
    listOf IndexColumnRecord.ofRow Queries.indexColumns [index]
  indexOrder _ relation index := do
    requireOrder relation index (← value? Queries.indexOrder [index])
  createView name statement :=
    "CREATE VIEW " ++ quoteWith '\x22' name ++ " AS " ++ statement
  viewSchema _ := return mainSchema

end SchemaAtlas
