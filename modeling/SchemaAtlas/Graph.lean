import SchemaAtlas.Catalog.Record
import SchemaAtlas.Engine
import SchemaAtlas.NameMap
import SchemaAtlas.Typing.Target

/-!
# Schema graphs

A graph holds what a schema consists of.  Each relation owns its fields; foreign
keys and indexes refer to fields by position, and the graph finds all foreign
keys and indexes through maps of places.
-/

namespace SchemaAtlas

open Catalog

/-- A column of a relation with its target type. -/
structure Field where
  name : String
  type : TargetType
  column : ColumnRecord
  deriving DecidableEq, Repr

/-- A position in a relation, which is given by its native name: of a field, or
of a foreign key or an index. -/
structure Place where
  relation : String
  position : Nat
  deriving DecidableEq, Repr

/-- A reference from a field of one relation to a field of another. -/
structure ForeignKey where
  name : String
  accessor : String
  field : Place
  refField : Place
  refType : String
  record : ForeignKeyRecord
  deriving DecidableEq, Repr

/-- An index over fields of a relation, which are given in index order. -/
structure Index where
  name : String
  accessor : String
  fields : List Nat
  unique : Bool
  primary : Bool
  /-- Whether the index was added because the catalog listed none. -/
  synthesized : Bool
  record : IndexRecord
  deriving DecidableEq, Repr

/-- The positions of the fields that belong to a primary key. -/
def keyPositions (fields : List Field) : List Nat :=
  (fields.zipIdx.filter fun (field, _) =>
    field.column.inPrimaryKey).map Prod.snd

/-- A table, a view, or the rows of a query.  The positions of its primary key
are kept beside its fields and go with them. -/
structure Relation where
  name : String
  schema : String
  kind : RelationKind
  table : TableRecord
  fields : List Field
  /-- The last field that belongs to the primary key. -/
  primaryKey? : Option Nat
  /-- All fields that belong to the primary key. -/
  primaryKeyFields : List Nat
  /-- Whether no sequence or counter fills in the primary key. -/
  manualPrimaryKey : Bool
  foreignKeys : List ForeignKey
  indexes : List Index
  comment : Option String
  primaryKeyFields_eq : primaryKeyFields = keyPositions fields
  primaryKey?_eq : primaryKey? = primaryKeyFields.getLast?
  deriving DecidableEq, Repr

/-- A label of an enumeration and the constant named after it. -/
structure EnumConstant where
  name : String
  record : LabelRecord
  deriving DecidableEq, Repr

structure Enumeration where
  name : String
  nativeName : String
  constants : List EnumConstant
  deriving DecidableEq, Repr

/-- A parameter of a routine, named for its position. -/
structure RoutineParameter where
  name : String
  type : TargetType
  nativeType : String
  deriving DecidableEq, Repr

structure Routine where
  name : String
  parameters : List RoutineParameter
  returnType : TargetType
  record : RoutineRecord
  deriving DecidableEq, Repr

/-- The native types of the parameters as a signature lists them. -/
def Routine.nativeSignature (routine : Routine) : String :=
  ", ".intercalate (routine.parameters.map RoutineParameter.nativeType)

/-- Everything a schema consists of. -/
structure Graph where
  schema : String
  engine : Engine
  enumerations : List Enumeration
  routines : List Routine
  relations : NameMap Relation
  foreignKeys : NameMap Place
  indexes : NameMap Place

theorem keyPositions_concat (fields : List Field) (field : Field) :
    keyPositions (fields ++ [field]) =
      if field.column.inPrimaryKey then keyPositions fields ++ [fields.length]
      else keyPositions fields := by
  cases inKey : field.column.inPrimaryKey <;>
    simp [keyPositions, List.zipIdx_append, inKey]

namespace Relation

/-- A relation for a row of a listing, before it has any fields. -/
def ofTable (name schema : String) (kind : RelationKind)
    (table : TableRecord) : Relation where
  name := name
  schema := schema
  kind := kind
  table := table
  fields := []
  primaryKey? := none
  primaryKeyFields := []
  manualPrimaryKey := false
  foreignKeys := []
  indexes := []
  comment := table.comment
  primaryKeyFields_eq := rfl
  primaryKey?_eq := rfl

/-- Add a field behind the others.  A field of the primary key is the last of
it, too. -/
def push (relation : Relation) (field : Field) : Relation :=
  { relation with
    fields := relation.fields ++ [field]
    primaryKey? :=
      if field.column.inPrimaryKey then some relation.fields.length
      else relation.primaryKey?
    primaryKeyFields :=
      if field.column.inPrimaryKey then
        relation.primaryKeyFields ++ [relation.fields.length]
      else relation.primaryKeyFields
    primaryKeyFields_eq := by
      rw [keyPositions_concat, relation.primaryKeyFields_eq]
    primaryKey?_eq := by
      split
      · rw [List.getLast?_concat]
      · exact relation.primaryKey?_eq }

def pushAll (relation : Relation) (fields : List Field) : Relation :=
  fields.foldl push relation

/-- Fields that are added to a relation change nothing else but its key. -/
theorem pushAll_eq (relation : Relation) (fields : List Field) :
    relation.pushAll fields =
      { relation with
        fields := relation.fields ++ fields
        primaryKeyFields := keyPositions (relation.fields ++ fields)
        primaryKey? := (keyPositions (relation.fields ++ fields)).getLast?
        primaryKeyFields_eq := rfl
        primaryKey?_eq := rfl } := by
  induction fields generalizing relation with
  | nil =>
      simp only [List.append_nil, ← relation.primaryKeyFields_eq,
        ← relation.primaryKey?_eq]
      rfl
  | cons field rest ih =>
      show (relation.push field).pushAll rest = _
      rw [ih]
      simp only [push, List.append_assoc, List.singleton_append]

/-- The fields that are added to an empty relation are all of its fields. -/
@[simp] theorem fields_pushAll_ofTable (name schema : String)
    (kind : RelationKind) (table : TableRecord) (fields : List Field) :
    ((ofTable name schema kind table).pushAll fields).fields = fields := by
  rw [pushAll_eq]
  rfl

def nativeName (relation : Relation) : String :=
  relation.table.name

/-- The position of the field for a native column. -/
def positionOf? (relation : Relation) (column : String) : Option Nat :=
  relation.fields.findIdx? fun field => field.column.name == column

/-- The field for a native column. -/
def fieldOf? (relation : Relation) (column : String) : Option Field :=
  relation.fields.find? fun field => field.column.name == column

def primaryKeyField? (relation : Relation) : Option Field :=
  relation.primaryKey?.bind fun position => relation.fields[position]?

def indexFields (relation : Relation) (index : Index) : List Field :=
  index.fields.filterMap fun position => relation.fields[position]?

end Relation

namespace Graph

def relation? (graph : Graph) (name : String) : Option Relation :=
  graph.relations.find? name

def field? (graph : Graph) (place : Place) : Option Field :=
  (graph.relation? place.relation).bind fun relation =>
    relation.fields[place.position]?

def foreignKeyAt? (graph : Graph) (place : Place) : Option ForeignKey :=
  (graph.relation? place.relation).bind fun relation =>
    relation.foreignKeys[place.position]?

def indexAt? (graph : Graph) (place : Place) : Option Index :=
  (graph.relation? place.relation).bind fun relation =>
    relation.indexes[place.position]?

/-- The foreign keys of the schema, each with its key in the map of places. -/
def foreignKeyList (graph : Graph) : List (String × ForeignKey) :=
  graph.foreignKeys.entries.filterMap fun (key, place) =>
    (graph.foreignKeyAt? place).map fun foreignKey => (key, foreignKey)

/-- The indexes of the schema, each with its key in the map of places. -/
def indexList (graph : Graph) : List (String × Index) :=
  graph.indexes.entries.filterMap fun (key, place) =>
    (graph.indexAt? place).map fun index => (key, index)

def index? (graph : Graph) (key : String) : Option Index :=
  (graph.indexes.find? key).bind graph.indexAt?

end Graph

end SchemaAtlas
