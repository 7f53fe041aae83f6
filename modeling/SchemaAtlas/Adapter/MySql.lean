import SchemaAtlas.Adapter.Basic
import SchemaAtlas.Adapter.MySql.Queries
import SchemaAtlas.Catalog.Labels
import SchemaAtlas.Vocabulary.MySql

/-!
# The adapter of MySQL

Enumeration types have no names of their own: each column of such a type counts
as an enumeration named like the column, and the column's type is reported as
the name of the column qualified by the schema.
-/

namespace SchemaAtlas

open Catalog Inquiry

namespace MySql

def quoteMark : Char := '\x60'

/-- Labels with their places, counted from one. -/
def numberLabels (labels : List String) : List LabelRecord :=
  labels.zipIdx.map fun (label, index) => ⟨label, (index : Int) + 1⟩

/-- Read a row of a relation; an empty comment is none. -/
def tableOfRow (kind : String) (row : Row) :
    Except DriverError TableRecord := do
  let record ← TableRecord.ofRow kind row
  return { record with comment := dropEmpty record.comment }

/-- Read a row of a column; an empty comment is none. -/
def columnOfRow (row : Row) : Except DriverError ColumnRecord := do
  let record ← ColumnRecord.ofRow row
  return { record with comment := dropEmpty record.comment }

/-- Read a row of an index.  The index of the primary key is never listed. -/
def indexOfRow (row : Row) : Except DriverError IndexRecord := do
  return ⟨← row.text 0, ← row.bool 1, false, none⟩

end MySql

open MySql

def Adapter.mysql : Adapter where
  engine := .mysql
  capabilities :=
    { enums := true
      routines := true
      foreignKeyCorrection := false
      primaryKeyIndexSynthesis := true }
  relationWord
    | .table => "BASE TABLE"
    | .view => "VIEW"
  placeholder _ := "?"
  quote _ identifier := quoteWith quoteMark identifier
  resolve := Vocabulary.mysql.resolve
  schemaName := do
    return (← value? Queries.schema []).getD ""
  enums schema := listOf EnumRecord.ofRow Queries.enums [schema]
  enumLabels schema enumeration := do
    let columnType ← value? Queries.enumLabels [schema, enumeration]
    return numberLabels (labels (columnType.getD ""))
  routines schema := listOf RoutineRecord.ofRow Queries.routines [schema]
  routineParameters schema routine :=
    listOf ParameterRecord.ofRow Queries.routineParameters [schema, routine]
  tables schema kind := listOf (tableOfRow kind) Queries.tables [schema, kind]
  autoIncrementTables schema := listOf nameOfRow Queries.autoIncrement [schema]
  columns schema relation :=
    listOf columnOfRow Queries.columns [schema, relation]
  foreignKeys schema relation :=
    listOf ForeignKeyRecord.ofRow Queries.foreignKeys [schema, relation]
  indexes schema relation :=
    listOf indexOfRow Queries.indexes [schema, relation]
  indexColumns schema relation index :=
    listOf IndexColumnRecord.ofRow Queries.indexColumns
      [schema, relation, index]
  indexOrder schema relation index := do
    requireOrder (qualified schema relation) index
      (← value? Queries.indexOrder [schema, relation, index])

end SchemaAtlas
