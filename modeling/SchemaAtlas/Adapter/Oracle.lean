import SchemaAtlas.Adapter.Basic
import SchemaAtlas.Adapter.Oracle.Queries
import SchemaAtlas.Text.CaseMap
import SchemaAtlas.Vocabulary.Oracle

/-!
# The adapter of Oracle

The dictionary holds names in uppercase, so its queries lowercase what they
report and uppercase what they look for.  A view is created under an uppercase
name, which the dictionary then finds.
-/

namespace SchemaAtlas

open Catalog Inquiry

namespace Oracle

/-- The name of a view as the dictionary holds it, in quotes. -/
def viewName (name : String) : String :=
  Adapter.quoteWith '\x22' (Text.uppercase name)

/-- Read a row of a column, whose default value is not reported. -/
def columnOfRow (row : Row) : Except DriverError ColumnRecord := do
  return {
    ordinal := ← row.int 0
    name := ← row.text 1
    nativeType := ← row.text 2
    notNull := ← row.bool 3
    defaultValue := none
    inPrimaryKey := ← row.bool 4
    comment := ← row.optionalText 5 }

/-- Read a row of a foreign key, which names the referenced table only. -/
def foreignKeyOfRow (row : Row) : Except DriverError ForeignKeyRecord := do
  return {
    name := ← row.text 0
    column := ← row.text 1
    refTable := ← row.text 2
    refColumn := none
    onUpdate := none
    onDelete := ← row.optionalText 3 }

end Oracle

open Oracle

def Adapter.oracle : Adapter where
  engine := .oracle
  capabilities :=
    { enums := false
      routines := false
      foreignKeyCorrection := false
      primaryKeyIndexSynthesis := false }
  relationWord
    | .table => "TABLE"
    | .view => "VIEW"
  placeholder := numbered ":"
  resolve := Vocabulary.oracle.resolve
  schemaName := do
    return (← value? Queries.schema []).getD ""
  tables schema kind :=
    listOf (TableRecord.ofRow kind) Queries.tables [schema, kind]
  autoIncrementTables schema := listOf nameOfRow Queries.identityTables [schema]
  columns schema relation :=
    listOf columnOfRow Queries.columns [schema, relation]
  foreignKeys schema relation :=
    listOf foreignKeyOfRow Queries.foreignKeys [schema, relation]
  indexes schema relation :=
    listOf IndexRecord.ofRow Queries.indexes [schema, relation]
  indexColumns schema _ index :=
    listOf IndexColumnRecord.ofRow Queries.indexColumns [schema, index]
  indexOrder schema relation index := do
    requireOrder (qualified schema relation) index
      (← value? Queries.indexOrder [schema, index])
  createView name statement := createViewAs (viewName name) statement
  dropView name := dropViewNamed (viewName name)

end SchemaAtlas
