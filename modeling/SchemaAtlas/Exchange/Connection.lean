import SchemaAtlas.Exchange.Recorded

/-!
# Connections and inquiries

A connection answers catalog queries and carries out statements.  Its answer may
depend on everything that it was asked before.  An inquiry is a computation that
only asks queries; it records them, failing ones included.
-/

namespace SchemaAtlas

open Catalog

/-- What a catalog query asks about. -/
inductive Topic where
  | schema
  | enums
  | enumLabels
  | routineResultsExist
  | routines
  | routineParameters
  | tables
  | sequences
  | rowidTables
  | identityTables
  | autoIncrement
  | columns
  | foreignKeys
  | indexes
  | indexColumns
  | indexOrder
  | viewSchema
  deriving DecidableEq, Repr

def Topic.label : Topic → String
  | .schema => "schema"
  | .enums => "enums"
  | .enumLabels => "enum_values"
  | .routineResultsExist => "function_result_exists"
  | .routines => "procs"
  | .routineParameters => "proc_params"
  | .tables => "tables"
  | .sequences => "sequences"
  | .rowidTables => "rowid_tables"
  | .identityTables => "identity_tables"
  | .autoIncrement => "auto_increment"
  | .columns => "columns"
  | .foreignKeys => "foreign_keys"
  | .indexes => "indexes"
  | .indexColumns => "index_columns"
  | .indexOrder => "index_order"
  | .viewSchema => "view_schema"

/-- A catalog query: its topic, and its text in the language of the engine. -/
structure CatalogQuery where
  topic : Topic
  sql : String
  deriving DecidableEq, Repr

/-- What a connection is asked to do. -/
inductive Request where
  | query (query : CatalogQuery) (parameters : List String)
  | execute (sql : String)
  deriving DecidableEq, Repr

/-- A connection, by its answers to a query and to a statement after the
requests that came before. -/
structure Connection where
  query : List Request → CatalogQuery → List String →
    Except DriverError (List Row)
  execute : List Request → String → Except DriverError Unit

/-- A connection whose answers do not depend on what it was asked before. -/
def Connection.scripted
    (replies : CatalogQuery → List String → Except DriverError (List Row))
    (execution : String → Except DriverError Unit) : Connection where
  query _ := replies
  execute _ := execution

/-- A computation that asks catalog queries. -/
abbrev Inquiry := Recorded Connection (List Request)

namespace Inquiry

def liftDriver (outcome : Except DriverError α) : Except Error α :=
  outcome.mapError .driver

def rows (query : CatalogQuery) (parameters : List String) :
    Inquiry (List Row) :=
  fun connection before =>
    (liftDriver (connection.query before query parameters),
      [.query query parameters])

/-- Ask a query and read every row; the first row that cannot be read is the
error. -/
def listOf (read : Row → Except DriverError α) (query : CatalogQuery)
    (parameters : List String) : Inquiry (List α) := do
  let rows ← rows query parameters
  Recorded.ofExcept (liftDriver (rows.mapM read))

/-- Ask a query for one value: the first column of the first row, which may be
missing. -/
def value? (query : CatalogQuery) (parameters : List String) :
    Inquiry (Option String) := do
  match ← rows query parameters with
  | [] => return none
  | row :: _ => Recorded.ofExcept (liftDriver (row.optionalText 0))

end Inquiry

end SchemaAtlas
