import SchemaAtlas.Adapter.CockroachDb.Queries
import SchemaAtlas.Adapter.PostgreSql

/-!
# The adapter of CockroachDB

The catalog is that of PostgreSQL with two differences.  Keys are counted up by
a default value instead of a sequence.  And the query for foreign keys reports
every pair of columns of a composite constraint, also those that do not belong
together.
-/

namespace SchemaAtlas

open Catalog Inquiry

namespace CockroachDb

/-- The foreign key records whose constraint name mentions the owning column. -/
def mentioningColumn (records : List ForeignKeyRecord) :
    List ForeignKeyRecord :=
  records.filter fun record =>
    Text.occursIn record.column.toList record.name.toList

end CockroachDb

/-- The adapter of CockroachDB, which leaves to that of PostgreSQL what is the
same there. -/
def Adapter.cockroachdb : Adapter where
  engine := .cockroachdb
  capabilities :=
    { Adapter.postgresql.capabilities with foreignKeyCorrection := true }
  relationWord := Adapter.postgresql.relationWord
  resolve := Adapter.postgresql.resolve
  schemaName := Adapter.postgresql.schemaName
  enums := Adapter.postgresql.enums
  enumLabels := Adapter.postgresql.enumLabels
  routines := Adapter.postgresql.routines
  routineParameters := Adapter.postgresql.routineParameters
  tables := Adapter.postgresql.tables
  sequenceTables := Adapter.postgresql.sequenceTables
  autoIncrementTables schema :=
    listOf nameOfRow CockroachDb.Queries.autoIncrement [schema]
  columns := Adapter.postgresql.columns
  foreignKeys := Adapter.postgresql.foreignKeys
  correctForeignKeys := CockroachDb.mentioningColumn
  indexes := Adapter.postgresql.indexes
  indexColumns := Adapter.postgresql.indexColumns
  indexOrder := Adapter.postgresql.indexOrder
  viewSchema := Adapter.postgresql.viewSchema
  retypeQueryColumn := Adapter.postgresql.retypeQueryColumn
  stripQuery := Adapter.postgresql.stripQuery

end SchemaAtlas
