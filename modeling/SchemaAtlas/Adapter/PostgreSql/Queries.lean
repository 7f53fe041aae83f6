import SchemaAtlas.Exchange.Connection

/-!
# Catalog queries of PostgreSQL
-/

namespace SchemaAtlas.PostgreSql.Queries

/-- The schema that is active when none is chosen. -/
def schema : CatalogQuery where
  topic := .schema
  sql := "SELECT current_schema()"

def enums : CatalogQuery where
  topic := .enums
  sql := r#"
        SELECT DISTINCT t.typname
        FROM pg_type t
        JOIN ONLY pg_namespace n ON n.oid = t.typnamespace
        JOIN ONLY pg_enum e ON t.oid = e.enumtypid
        WHERE n.nspname = $1
        ORDER BY t.typname
    "#

def enumLabels : CatalogQuery where
  topic := .enumLabels
  sql := r#"
        SELECT e.enumlabel, e.enumsortorder::integer
        FROM pg_type t
        JOIN ONLY pg_namespace n ON n.oid = t.typnamespace
        LEFT JOIN pg_enum e ON t.oid = e.enumtypid
        WHERE n.nspname = $1 AND t.typname = $2
        ORDER BY e.enumsortorder
    "#

/-- Whether the engine can tell the result type of a routine. -/
def routineResultsExist : CatalogQuery where
  topic := .routineResultsExist
  sql := r#"
        SELECT EXISTS (
            SELECT 1 FROM pg_catalog.pg_proc WHERE proname = 'pg_get_function_result'
        )
    "#

def routines : CatalogQuery where
  topic := .routines
  sql := r#"
        SELECT p.proname, pg_get_function_result(p.oid)
        FROM pg_proc p
        JOIN ONLY pg_namespace n ON p.pronamespace = n.oid
        WHERE n.nspname = $1
        ORDER BY p.proname
    "#

def routineParameters : CatalogQuery where
  topic := .routineParameters
  sql := r#"
        SELECT UNNEST(STRING_TO_ARRAY(oidvectortypes(p.proargtypes), ', '))
        FROM pg_proc p
        JOIN ONLY pg_namespace n ON p.pronamespace = n.oid
        WHERE n.nspname = $1 AND p.proname = $2
    "#

def tables : CatalogQuery where
  topic := .tables
  sql := r#"
        SELECT c.relname, obj_description(c.oid, 'pg_class')
        FROM pg_class c
        JOIN ONLY pg_namespace n ON n.oid = c.relnamespace
        WHERE n.nspname = $1 AND c.relkind::text = $2
        ORDER BY c.relname
    "#

/-- The tables whose key a sequence fills in. -/
def sequences : CatalogQuery where
  topic := .sequences
  sql := r#"
        SELECT t.relname
        FROM pg_class s
        JOIN pg_depend d ON d.objid = s.oid
        JOIN pg_class t ON d.objid = s.oid AND d.refobjid = t.oid
        JOIN pg_namespace n ON n.oid = s.relnamespace
        WHERE n.nspname = $1 AND s.relkind = 'S'
    "#

def columns : CatalogQuery where
  topic := .columns
  sql := r#"
        SELECT
            a.attnum::integer,
            a.attname::text,
            format_type(a.atttypid, a.atttypmod),
            a.attnotnull,
            pg_get_expr(ad.adbin, ad.adrelid),
            COALESCE(ct.contype = 'p', false),
            col_description(a.attrelid, a.attnum)
        FROM pg_attribute a
        JOIN ONLY pg_class c ON c.oid = a.attrelid
        JOIN ONLY pg_namespace n ON n.oid = c.relnamespace
        LEFT JOIN pg_constraint ct ON ct.conrelid = c.oid
            AND a.attnum = ANY(ct.conkey)
            AND ct.contype = 'p'
        LEFT JOIN pg_attrdef ad ON ad.adrelid = c.oid AND ad.adnum = a.attnum
        WHERE a.attisdropped = false
            AND n.nspname = $1
            AND c.relname = $2
            AND a.attnum > 0
        ORDER BY a.attnum
    "#

/-- The foreign keys of a relation, one row per column. -/
def foreignKeys : CatalogQuery where
  topic := .foreignKeys
  sql := r#"
        SELECT
            r.conname::text,
            b.attname::text,
            i.relname::text,
            f.attname::text,
            r.confupdtype::text,
            r.confdeltype::text
        FROM pg_constraint r
        JOIN ONLY pg_class c ON r.conrelid = c.oid
        JOIN ONLY pg_namespace n ON c.relnamespace = n.oid
        JOIN ONLY pg_attribute b ON b.attisdropped = false
            AND b.attnum = ANY(r.conkey)
            AND b.attrelid = r.conrelid
        JOIN ONLY pg_class i ON r.confrelid = i.oid
        JOIN ONLY pg_attribute f ON f.attisdropped = false
            AND f.attnum = ANY(r.confkey)
            AND f.attrelid = r.confrelid
        WHERE r.contype = 'f' AND n.nspname = $1 AND c.relname = $2
        ORDER BY r.conname, b.attname
    "#

def indexes : CatalogQuery where
  topic := .indexes
  sql := r#"
        SELECT DISTINCT ic.relname::text, i.indisunique, i.indisprimary
        FROM pg_index i
        JOIN ONLY pg_class c ON c.oid = i.indrelid
        JOIN ONLY pg_namespace n ON n.oid = c.relnamespace
        JOIN ONLY pg_class ic ON ic.oid = i.indexrelid
        WHERE i.indkey::text <> '0' AND n.nspname = $1 AND c.relname = $2
        ORDER BY ic.relname
    "#

/-- The columns of an index, in no order. -/
def indexColumns : CatalogQuery where
  topic := .indexColumns
  sql := r#"
        SELECT (row_number() OVER ())::integer, a.attnum::integer, a.attname::text
        FROM pg_index i
        JOIN ONLY pg_class c ON c.oid = i.indrelid
        JOIN ONLY pg_namespace n ON n.oid = c.relnamespace
        JOIN ONLY pg_class ic ON ic.oid = i.indexrelid
        LEFT JOIN pg_attribute a ON i.indrelid = a.attrelid
            AND a.attnum = ANY(i.indkey)
            AND a.attisdropped = false
        WHERE i.indkey::text <> '0' AND n.nspname = $1 AND ic.relname = $2
    "#

/-- The column ids of an index, in index order. -/
def indexOrder : CatalogQuery where
  topic := .indexOrder
  sql := r#"
        SELECT i.indkey::text
        FROM pg_index i
        JOIN ONLY pg_class c ON c.oid = i.indrelid
        JOIN ONLY pg_namespace n ON n.oid = c.relnamespace
        JOIN ONLY pg_class ic ON ic.oid = i.indexrelid
        WHERE n.nspname = $1 AND ic.relname = $2
    "#

def viewSchema : CatalogQuery where
  topic := .viewSchema
  sql := r#"
        SELECT n.nspname::text
        FROM pg_class c
        JOIN pg_namespace n ON n.oid = c.relnamespace
        WHERE c.relname = $1
    "#

end SchemaAtlas.PostgreSql.Queries
