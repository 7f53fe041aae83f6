import SchemaAtlas.Exchange.Connection

/-!
# Catalog queries of CockroachDB
-/

namespace SchemaAtlas.CockroachDb.Queries

/-- The tables whose key the engine counts up. -/
def autoIncrement : CatalogQuery where
  topic := .autoIncrement
  sql := r#"
        SELECT table_name
        FROM information_schema.columns
        WHERE table_schema = $1 AND column_default = 'unique_rowid()'
    "#

end SchemaAtlas.CockroachDb.Queries
