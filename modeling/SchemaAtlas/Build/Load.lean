import SchemaAtlas.Adapter.Basic
import SchemaAtlas.Build.Options
import SchemaAtlas.Exchange.Session
import SchemaAtlas.Graph

/-!
# Loading from the catalog

The parts of a graph that are read one by one: enumerations, routines, and the
relations of one kind with their fields.
-/

namespace SchemaAtlas

open Catalog

namespace Build

/-- The schema to load: the chosen one, or the one that is active. -/
def schemaToLoad (adapter : Adapter) (options : Options) : Inquiry String :=
  match options.schema with
  | some schema => return schema
  | none => adapter.schemaName

/-- An enumeration with its labels, each under the name of a constant. -/
def enumerationOf (names : Initialisms) (record : EnumRecord)
    (labels : List LabelRecord) : Enumeration :=
  let name := names.singularCamel record.name
  { name
    nativeName := record.name
    constants := labels.map fun label =>
      { name := names.constantName name label.value
        record := label } }

/-- Load the enumerations of a schema, if the adapter can list them. -/
def loadEnumerations (adapter : Adapter) (options : Options)
    (schema : String) : Inquiry (List Enumeration) :=
  if adapter.capabilities.enums then do
    let records ← adapter.enums schema
    records.mapM fun record => do
      let labels ← adapter.enumLabels schema record.name
      return enumerationOf options.initialisms record labels
  else return []

def parameterOf (adapter : Adapter) (context : TypeContext)
    (record : ParameterRecord) (position : Nat) : RoutineParameter :=
  let nativeType := Text.trimmed record.nativeType
  { name := "v" ++ Text.decimal position
    type := adapter.resolve context nativeType false
    nativeType }

/-- A routine with its parameters.  Underscores before its name do not count. -/
def routineOf (adapter : Adapter) (context : TypeContext)
    (record : RoutineRecord) (parameters : List ParameterRecord) : Routine where
  name := context.names.camel
    (String.ofList (record.name.toList.dropWhile (· == '_')))
  parameters := parameters.zipIdx.map fun (parameter, position) =>
    parameterOf adapter context parameter position
  returnType := adapter.resolve context record.returnType false
  record := record

/-- Load the routines of a schema, if the adapter can list them. -/
def loadRoutines (adapter : Adapter) (options : Options) (schema : String) :
    Inquiry (List Routine) :=
  if adapter.capabilities.routines then do
    let records ← adapter.routines schema
    records.mapM fun record => do
      let parameters ← adapter.routineParameters schema record.name
      return routineOf adapter (options.typeContext schema) record parameters
  else return []

/-- Whether columns of JSON are resolved as types named after them. -/
def renamesJson (adapter : Adapter) (options : Options) : Bool :=
  options.jsonColumnTypes &&
    (adapter.engine == .postgresql || adapter.engine == .cockroachdb)

/-- The descriptor that a column is resolved by. -/
def descriptorOf (adapter : Adapter) (options : Options)
    (column : ColumnRecord) : String :=
  if renamesJson adapter options &&
      (column.nativeType == "json" || column.nativeType == "jsonb") then
    column.name
  else column.nativeType

def fieldOf (adapter : Adapter) (options : Options) (schema : String)
    (column : ColumnRecord) : Field where
  name := options.initialisms.camel column.name
  type := adapter.resolve (options.typeContext schema)
    (descriptorOf adapter options column) column.nullable
  column := column

/-- A relation with the fields for its columns, those aside that are left
out. -/
def relationOf (adapter : Adapter) (options : Options) (schema : String)
    (kind : RelationKind) (backed : List String) (table : TableRecord)
    (columns : List ColumnRecord) : Relation :=
  let name := options.initialisms.singularCamel table.name
  let kept := columns.filter fun column => !options.ignoresField column.name
  { (Relation.ofTable name schema kind table).pushAll
      (kept.map (fieldOf adapter options schema)) with
    manualPrimaryKey := !backed.contains table.name }

theorem relationOf_eq (adapter : Adapter) (options : Options)
    (schema : String) (kind : RelationKind) (backed : List String)
    (table : TableRecord) (columns : List ColumnRecord) :
    let fields := (columns.filter fun column =>
      !options.ignoresField column.name).map (fieldOf adapter options schema)
    relationOf adapter options schema kind backed table columns =
      { name := options.initialisms.singularCamel table.name
        schema
        kind
        table
        fields
        primaryKey? := (keyPositions fields).getLast?
        primaryKeyFields := keyPositions fields
        manualPrimaryKey := !backed.contains table.name
        foreignKeys := []
        indexes := []
        comment := table.comment
        primaryKeyFields_eq := rfl
        primaryKey?_eq := rfl } := by
  intro fields
  rw [relationOf, Relation.pushAll_eq]
  rfl

@[simp] theorem nativeName_relationOf (adapter : Adapter) (options : Options)
    (schema : String) (kind : RelationKind) (backed : List String)
    (table : TableRecord) (columns : List ColumnRecord) :
    (relationOf adapter options schema kind backed table columns).nativeName =
      table.name := by
  rw [relationOf_eq]
  rfl

/-- The map of relations by their native names; a later relation takes the place
of an earlier one of its name. -/
def byNativeName (relations : List Relation) : NameMap Relation :=
  relations.foldl (fun map relation =>
    map.insert relation.nativeName relation) .empty

/-- Load the relations of one kind, those aside that are left out. -/
def loadRelations (adapter : Adapter) (options : Options) (schema : String)
    (backed : List String) (kind : RelationKind) :
    Inquiry (NameMap Relation) := do
  let tables ← adapter.tables schema (adapter.relationWord kind)
  let kept := tables.filter fun table => !options.ignoresTable table.name
  let relations ← kept.mapM fun table => do
    let columns ← adapter.columns schema table.name
    return relationOf adapter options schema kind backed table columns
  return byNativeName relations

/-- Carry out an optional query; its failure is only told. -/
def probe (kind : Probe) (schema : String)
    (inquiry : Inquiry (List String)) : Session (List String) := do
  match ← (Session.ask inquiry).attempt with
  | .ok names => return names
  | .error cause =>
    Session.tell (.probeFailed kind cause schema)
    return []

/-- The tables whose primary key the engine fills in. -/
def backedTables (adapter : Adapter) (schema : String) :
    Session (List String) := do
  let sequences ← probe .sequence schema (adapter.sequenceTables schema)
  let counters ←
    probe .autoIncrement schema (adapter.autoIncrementTables schema)
  return sequences ++ counters

/-- Put the views into the map of tables, in the order of their names.  A view
takes the place of a table of its name, which is told. -/
def mergeViews (tables : NameMap Relation) :
    List (String × Relation) → Session (NameMap Relation)
  | [] => return tables
  | (name, view) :: rest => do
    if tables.contains name then
      Session.tell (.viewReplacesTable name)
    mergeViews (tables.insert name view) rest

end Build

end SchemaAtlas
