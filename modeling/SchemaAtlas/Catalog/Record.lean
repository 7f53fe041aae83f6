/-!
# Catalog records

What a catalog reports about enumerations, routines, tables, columns, foreign
keys and indexes, in one shape for all engines.  Names are native: they stand
here as the catalog spells them.
-/

namespace SchemaAtlas.Catalog

/-- The two kinds of relations. -/
inductive RelationKind where
  | table
  | view
  deriving DecidableEq, Repr, Inhabited

def RelationKind.name : RelationKind → String
  | .table => "table"
  | .view => "view"

/-- What an identifier that is to be quoted stands for. -/
inductive IdentifierKind where
  | schema
  | table
  | column
  deriving DecidableEq, Repr

structure EnumRecord where
  name : String
  deriving DecidableEq, Repr

/-- A label of an enumeration, with its place in the order of the labels. -/
structure LabelRecord where
  value : String
  order : Int
  deriving DecidableEq, Repr

structure RoutineRecord where
  name : String
  returnType : String
  deriving DecidableEq, Repr

structure ParameterRecord where
  nativeType : String
  deriving DecidableEq, Repr

/-- A table or view, with the native word for its kind. -/
structure TableRecord where
  name : String
  kind : String
  comment : Option String
  deriving DecidableEq, Repr

/-- A column; its type is a native descriptor such as `integer[]`. -/
structure ColumnRecord where
  ordinal : Int
  name : String
  nativeType : String
  notNull : Bool
  defaultValue : Option String
  inPrimaryKey : Bool
  comment : Option String
  deriving DecidableEq, Repr

/-- Whether a column may hold no value. -/
def ColumnRecord.nullable (column : ColumnRecord) : Bool :=
  !column.notNull

/-- A column of a foreign key constraint.  The name is empty where the engine
does not name constraints, and the referenced column is missing where the
catalog does not report it. -/
structure ForeignKeyRecord where
  name : String
  column : String
  refTable : String
  refColumn : Option String
  onUpdate : Option String
  onDelete : Option String
  deriving DecidableEq, Repr

/-- An index, with its origin where the engine reports one. -/
structure IndexRecord where
  name : String
  unique : Bool
  primary : Bool
  origin : Option String
  deriving DecidableEq, Repr

/-- Whether an index stands behind the primary key. -/
def IndexRecord.backsPrimaryKey (index : IndexRecord) : Bool :=
  index.primary || index.origin == some "pk"

/-- A column of an index, known to the index order by its column id. -/
structure IndexColumnRecord where
  sequence : Int
  columnId : Int
  name : String
  deriving DecidableEq, Repr

end SchemaAtlas.Catalog
