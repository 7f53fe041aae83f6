import SchemaAtlas.Adapter.Basic
import SchemaAtlas.Adapter.PostgreSql.Queries
import SchemaAtlas.Pattern
import SchemaAtlas.Vocabulary.PostgreSql

/-!
# The adapter of PostgreSQL

The catalog is read from the system tables, so that enumerations, routines,
comments and the order of index columns are all at hand.
-/

namespace SchemaAtlas.PostgreSql

open Catalog Inquiry

/-- The name of a foreign key action, by the code that the catalog holds. -/
def actionName (code : String) : String :=
  match code with
  | "a" => "NO ACTION"
  | "r" => "RESTRICT"
  | "c" => "CASCADE"
  | "n" => "SET NULL"
  | "d" => "SET DEFAULT"
  | other => other

/-- Read a row of a foreign key, whose actions are given by their codes. -/
def foreignKeyOfRow (row : Row) : Except DriverError ForeignKeyRecord := do
  let record ← ForeignKeyRecord.ofRow row
  return { record with
    onUpdate := record.onUpdate.map actionName
    onDelete := record.onDelete.map actionName }

/-- Read a row of a label and its place in the order of the labels. -/
def labelOfRow (row : Row) : Except DriverError LabelRecord := do
  return ⟨← row.text 0, ← row.int 1⟩

/-- The routines of a schema.  An engine that cannot tell the result type of a
routine has none to report. -/
def routines (schema : String) : Inquiry (List RoutineRecord) := do
  let known ← listOf (·.bool 0) Queries.routineResultsExist []
  if known = [true] then
    listOf RoutineRecord.ofRow Queries.routines [schema]
  else
    return []

/-- A column of type `json` or `jsonb` is resolved as a type named after it. -/
def retype (column : ColumnRecord) : ColumnRecord :=
  if column.nativeType = "json" ∨ column.nativeType = "jsonb" then
    { column with nativeType := column.name }
  else column

/-- Whether a character may stand in the name of a type or column after its
first letter. -/
def isNamePart (c : Char) : Bool :=
  let c := Pattern.fold c
  c.isLower || c.isDigit || c == '_' || c == '.'

/-- A name of at least two characters, which begins with a letter. -/
def namePattern : Pattern :=
  Pattern.one (fun c => (Pattern.fold c).isLower) ++ .many isNamePart

/-- The annotation of a query column: a cast together with a new name, as in
`::type AS name`. -/
def annotation : Pattern :=
  "::" ++ namePattern ++ .many Text.isBlank ++ "as" ++ .many Text.isBlank ++
    namePattern

/-- A line without its first annotation, and the annotation. -/
def stripLine (line : String) : String × String :=
  match annotation.find? line.toList with
  | some found =>
    (String.ofList (found.before ++ found.after), String.ofList found.matched)
  | none => (line, "")

/-- Put annotations in the place of the first comments, as far as there are
comments. -/
def overwrite : List String → List String → List String
  | annotation :: annotations, _ :: comments =>
    annotation :: overwrite annotations comments
  | _, comments => comments

/-- Move the first annotation of every line into the comment on the line. -/
def stripQuery (lines comments : List String) : List String × List String :=
  let stripped := lines.map stripLine
  (stripped.map Prod.fst,
    match comments with
    | [] => []
    | first :: rest => first :: overwrite (stripped.map Prod.snd) rest)

end PostgreSql

open Catalog Inquiry PostgreSql

def Adapter.postgresql : Adapter where
  engine := .postgresql
  capabilities :=
    { enums := true
      routines := true
      foreignKeyCorrection := false
      primaryKeyIndexSynthesis := true }
  relationWord
    | .table => "r"
    | .view => "v"
  resolve := Vocabulary.postgresql.resolve
  schemaName := do
    return (← value? Queries.schema []).getD "public"
  enums schema := listOf EnumRecord.ofRow Queries.enums [schema]
  enumLabels schema enumeration :=
    listOf labelOfRow Queries.enumLabels [schema, enumeration]
  routines := PostgreSql.routines
  routineParameters schema routine :=
    listOf ParameterRecord.ofRow Queries.routineParameters [schema, routine]
  tables schema kind :=
    listOf (TableRecord.ofRow kind) Queries.tables [schema, kind]
  sequenceTables schema := listOf nameOfRow Queries.sequences [schema]
  columns schema relation :=
    listOf ColumnRecord.ofRow Queries.columns [schema, relation]
  foreignKeys schema relation :=
    listOf foreignKeyOfRow Queries.foreignKeys [schema, relation]
  indexes schema relation :=
    listOf IndexRecord.ofRow Queries.indexes [schema, relation]
  indexColumns schema _ index :=
    listOf IndexColumnRecord.ofRow Queries.indexColumns [schema, index]
  indexOrder schema relation index := do
    requireOrder (qualified schema relation) index
      (← value? Queries.indexOrder [schema, index])
  viewSchema view := do
    match ← value? Queries.viewSchema [view] with
    | some schema => return schema
    | none => throw (.viewSchema view)
  retypeQueryColumn := retype
  stripQuery := PostgreSql.stripQuery

end SchemaAtlas
