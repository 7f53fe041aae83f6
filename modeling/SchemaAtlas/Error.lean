import SchemaAtlas.Catalog.Row
import SchemaAtlas.Engine
import SchemaAtlas.Mode
import SchemaAtlas.Text.Quoted

/-!
# Errors

Everything that can end a run: settings that make no sense, catalogs that cannot
be read, and catalogs that contradict themselves.  An error holds its cause;
`Error.message` puts it into words.
-/

namespace SchemaAtlas

/-- Why a foreign key does not fit the relations that were loaded. -/
inductive ForeignKeyMiss where
  /-- The owning relation has no such column. -/
  | owningColumn (name : String)
  /-- There is no such referenced relation. -/
  | referencedRelation (name : String)
  /-- The referenced relation has no such column. -/
  | referencedColumn (relation column : String)
  /-- The referenced relation has no primary key to stand in for the column. -/
  | noPrimaryKey (relation : String)
  deriving DecidableEq, Repr

def ForeignKeyMiss.message : ForeignKeyMiss → String
  | .owningColumn name => "owning column '" ++ name ++ "' not found"
  | .referencedRelation name => "referenced relation '" ++ name ++ "' not found"
  | .referencedColumn relation column =>
    "referenced column '" ++ column ++ "' not found in '" ++ relation ++ "'"
  | .noPrimaryKey relation =>
    "referenced relation '" ++ relation ++
      "' has no primary key to fall back to"

inductive Error where
  | unknownWord (unknown : UnknownWord)
  | invalidInitialism (initialism : String)
  | unknownEngine (name : String)
  | noAdapter (engine : Engine)
  | configurationMissing (path : String)
  | configurationUnreadable (path cause : String)
  | configurationMalformed (path cause : String)
  | driver (cause : DriverError)
  | unsupported (engine : Engine) (capability : String)
  | foreignKey (relation constraint : String) (miss : ForeignKeyMiss)
  | indexOrdinal (relation index ordinal : String)
  | indexOrder (relation index : String)
  | indexColumn (relation index : String) (columnId : Int)
  | indexField (relation index field : String)
  | viewSchema (view : String)
  | queryParameter (body : String)
  /-- No draw of the random source made a key distinct. -/
  | drawsExhausted (name : String)
  deriving DecidableEq, Repr

def Error.message : Error → String
  | .unknownWord unknown => unknown.message
  | .invalidInitialism initialism =>
    "invalid initialism " ++ Text.quoted initialism ++
      ": must be at least 2 characters"
  | .unknownEngine name => "unknown engine '" ++ name ++ "'"
  | .noAdapter engine => "no adapter registered for " ++ engine.name
  | .configurationMissing path => "config not found: " ++ path
  | .configurationUnreadable path cause =>
    "failed to read " ++ path ++ ": " ++ cause
  | .configurationMalformed path cause =>
    "failed to parse " ++ path ++ ": " ++ cause
  | .driver cause => cause.message
  | .unsupported engine capability =>
    engine.name ++ " adapter does not support " ++ capability
  | .foreignKey relation constraint miss =>
    "could not resolve foreign key " ++ constraint ++ " on " ++ relation ++
      ": " ++ miss.message
  | .indexOrdinal relation index ordinal =>
    "could not convert " ++ relation ++ " index " ++ index ++ " column " ++
      ordinal ++ " to int"
  | .indexOrder relation index =>
    "no column order found for " ++ relation ++ " index " ++ index
  | .indexColumn relation index columnId =>
    "could not find " ++ relation ++ " index " ++ index ++ " column id " ++
      Text.signedDecimal columnId
  | .indexField relation index column =>
    relation ++ " index " ++ index ++ " references unknown field " ++ column
  | .viewSchema view => "could not find the schema of view " ++ view
  | .queryParameter body => "invalid query parameter " ++ Text.quoted body
  | .drawsExhausted name => "no unused key found for " ++ name

/-- The name of a relation together with its schema, as messages give it. -/
def qualified (schema relation : String) : String :=
  if schema.isEmpty then relation else schema ++ "." ++ relation

end SchemaAtlas
