import SchemaAtlas.Exchange.Connection

/-!
# Catalog queries of MySQL
-/

namespace SchemaAtlas.MySql.Queries

/-- The schema that is active when none is chosen. -/
def schema : CatalogQuery where
  topic := .schema
  sql := "SELECT DATABASE()"

/-- The columns of an inline enumeration type, each named like its column. -/
def enums : CatalogQuery where
  topic := .enums
  sql := r#"
        SELECT DISTINCT column_name
        FROM information_schema.columns
        WHERE data_type = 'enum' AND table_schema = ?
        ORDER BY column_name
    "#

/-- The column type that lists the labels of an inline enumeration. -/
def enumLabels : CatalogQuery where
  topic := .enumLabels
  sql := r#"
        SELECT column_type
        FROM information_schema.columns
        WHERE data_type = 'enum' AND table_schema = ? AND column_name = ?
        LIMIT 1
    "#

def routines : CatalogQuery where
  topic := .routines
  sql := r#"
        SELECT r.routine_name, p.dtd_identifier
        FROM information_schema.routines r
        JOIN information_schema.parameters p
            ON p.specific_schema = r.routine_schema
            AND p.specific_name = r.routine_name
            AND p.ordinal_position = 0
        WHERE r.routine_schema = ?
        ORDER BY r.routine_name
    "#

def routineParameters : CatalogQuery where
  topic := .routineParameters
  sql := r#"
        SELECT dtd_identifier
        FROM information_schema.parameters
        WHERE ordinal_position > 0 AND specific_schema = ? AND specific_name = ?
        ORDER BY ordinal_position
    "#

def tables : CatalogQuery where
  topic := .tables
  sql := r#"
        SELECT table_name, table_comment
        FROM information_schema.tables
        WHERE table_schema = ? AND table_type = ?
        ORDER BY table_name
    "#

/-- The tables whose key the engine counts up. -/
def autoIncrement : CatalogQuery where
  topic := .autoIncrement
  sql := r#"
        SELECT table_name
        FROM information_schema.tables
        WHERE auto_increment IS NOT NULL AND table_schema = ?
    "#

def columns : CatalogQuery where
  topic := .columns
  sql := r#"
        SELECT
            ordinal_position,
            column_name,
            IF(data_type = 'enum', CONCAT(table_schema, '.', column_name), column_type),
            is_nullable = 'NO',
            column_default,
            column_key = 'PRI',
            column_comment
        FROM information_schema.columns
        WHERE table_schema = ? AND table_name = ?
        ORDER BY ordinal_position
    "#

/-- The foreign keys of a relation, one row per column. -/
def foreignKeys : CatalogQuery where
  topic := .foreignKeys
  sql := r#"
        SELECT
            k.constraint_name,
            k.column_name,
            k.referenced_table_name,
            k.referenced_column_name,
            r.update_rule,
            r.delete_rule
        FROM information_schema.key_column_usage k
        JOIN information_schema.referential_constraints r
            ON r.constraint_schema = k.table_schema
            AND r.table_name = k.table_name
            AND r.constraint_name = k.constraint_name
        WHERE k.referenced_table_name IS NOT NULL
            AND k.table_schema = ?
            AND k.table_name = ?
        ORDER BY k.constraint_name, k.ordinal_position
    "#

def indexes : CatalogQuery where
  topic := .indexes
  sql := r#"
        SELECT DISTINCT index_name, NOT non_unique
        FROM information_schema.statistics
        WHERE index_name <> 'PRIMARY' AND index_schema = ? AND table_name = ?
        ORDER BY index_name
    "#

/-- The columns of an index, in no order. -/
def indexColumns : CatalogQuery where
  topic := .indexColumns
  sql := r#"
        SELECT s.seq_in_index, c.ordinal_position, s.column_name
        FROM information_schema.statistics s
        JOIN information_schema.columns c
            ON c.table_schema = s.index_schema
            AND c.table_name = s.table_name
            AND c.column_name = s.column_name
        WHERE s.index_schema = ? AND s.table_name = ? AND s.index_name = ?
    "#

/-- The column ids of an index, in index order. -/
def indexOrder : CatalogQuery where
  topic := .indexOrder
  sql := r#"
        SELECT GROUP_CONCAT(c.ordinal_position ORDER BY s.seq_in_index SEPARATOR ' ')
        FROM information_schema.statistics s
        JOIN information_schema.columns c
            ON c.table_schema = s.index_schema
            AND c.table_name = s.table_name
            AND c.column_name = s.column_name
        WHERE s.index_schema = ? AND s.table_name = ? AND s.index_name = ?
    "#

end SchemaAtlas.MySql.Queries
