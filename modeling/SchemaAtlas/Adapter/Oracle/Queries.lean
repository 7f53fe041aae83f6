import SchemaAtlas.Exchange.Connection

/-!
# Catalog queries of Oracle
-/

namespace SchemaAtlas.Oracle.Queries

/-- The schema that is active when none is chosen. -/
def schema : CatalogQuery where
  topic := .schema
  sql := "SELECT LOWER(SYS_CONTEXT('USERENV', 'CURRENT_SCHEMA')) FROM dual"

def tables : CatalogQuery where
  topic := .tables
  sql := r#"
        SELECT LOWER(o.object_name), c.comments
        FROM all_objects o
        LEFT JOIN all_tab_comments c
            ON c.owner = o.owner AND c.table_name = o.object_name
        WHERE o.owner = UPPER(:1)
            AND o.object_type = :2
            AND o.object_name NOT LIKE '%$%'
            AND o.object_name NOT LIKE 'LOGMNR%\_%' ESCAPE '\'
            AND o.object_name NOT LIKE 'REDO\_%' ESCAPE '\'
            AND o.object_name NOT LIKE 'SCHEDULER\_%\_TBL' ESCAPE '\'
            AND o.object_name NOT LIKE 'SQLPLUS\_%' ESCAPE '\'
        ORDER BY o.object_name
    "#

def identityTables : CatalogQuery where
  topic := .identityTables
  sql := r#"
        SELECT LOWER(table_name)
        FROM all_tab_identity_cols
        WHERE owner = UPPER(:1)
    "#

def columns : CatalogQuery where
  topic := .columns
  sql := r#"
        SELECT
            c.column_id,
            LOWER(c.column_name),
            LOWER(CASE c.data_type
                WHEN 'CHAR' THEN 'CHAR(' || c.char_length || ')'
                WHEN 'VARCHAR2' THEN 'VARCHAR2(' || c.char_length || ')'
                WHEN 'NUMBER' THEN
                    CASE
                        WHEN c.data_precision IS NULL AND c.data_scale IS NULL THEN 'NUMBER'
                        WHEN c.data_scale IS NULL OR c.data_scale = 0
                            THEN 'NUMBER(' || NVL(c.data_precision, 38) || ')'
                        ELSE 'NUMBER(' || NVL(c.data_precision, 38) || ', ' || c.data_scale || ')'
                    END
                ELSE c.data_type
            END),
            CASE WHEN c.nullable = 'N' THEN '1' ELSE '0' END,
            CASE WHEN pk.column_name IS NOT NULL THEN '1' ELSE '0' END,
            cc.comments
        FROM all_tab_columns c
        LEFT JOIN (
            SELECT acc.owner, acc.table_name, acc.column_name
            FROM all_constraints ac
            JOIN all_cons_columns acc
                ON acc.owner = ac.owner AND acc.constraint_name = ac.constraint_name
            WHERE ac.constraint_type = 'P'
        ) pk ON pk.owner = c.owner
            AND pk.table_name = c.table_name
            AND pk.column_name = c.column_name
        LEFT JOIN all_col_comments cc
            ON cc.owner = c.owner
            AND cc.table_name = c.table_name
            AND cc.column_name = c.column_name
        WHERE c.owner = UPPER(:1) AND c.table_name = UPPER(:2)
        ORDER BY c.column_id
    "#

/-- The foreign keys of a relation, one row per column. -/
def foreignKeys : CatalogQuery where
  topic := .foreignKeys
  sql := r#"
        SELECT
            LOWER(a.constraint_name),
            LOWER(a.column_name),
            LOWER(r.table_name),
            c.delete_rule
        FROM all_cons_columns a
        JOIN all_constraints c
            ON c.owner = a.owner AND c.constraint_name = a.constraint_name
        JOIN all_constraints r
            ON r.owner = c.r_owner AND r.constraint_name = c.r_constraint_name
        WHERE c.constraint_type = 'R' AND a.owner = UPPER(:1) AND a.table_name = UPPER(:2)
        ORDER BY a.constraint_name, a.position
    "#

def indexes : CatalogQuery where
  topic := .indexes
  sql := r#"
        SELECT
            LOWER(i.index_name),
            CASE WHEN i.uniqueness = 'UNIQUE' THEN '1' ELSE '0' END,
            CASE WHEN c.constraint_type = 'P' THEN '1' ELSE '0' END
        FROM all_indexes i
        LEFT JOIN all_constraints c
            ON c.owner = i.owner
            AND c.table_name = i.table_name
            AND c.index_name = i.index_name
            AND c.constraint_type = 'P'
        WHERE i.table_owner = UPPER(:1) AND i.table_name = UPPER(:2)
        ORDER BY i.index_name
    "#

/-- The columns of an index, in no order. -/
def indexColumns : CatalogQuery where
  topic := .indexColumns
  sql := r#"
        SELECT ic.column_position, tc.column_id, LOWER(ic.column_name)
        FROM all_ind_columns ic
        JOIN all_tab_columns tc
            ON tc.owner = ic.table_owner
            AND tc.table_name = ic.table_name
            AND tc.column_name = ic.column_name
        WHERE ic.index_owner = UPPER(:1) AND ic.index_name = UPPER(:2)
    "#

/-- The column ids of an index, in index order. -/
def indexOrder : CatalogQuery where
  topic := .indexOrder
  sql := r#"
        SELECT LISTAGG(tc.column_id, ' ') WITHIN GROUP (ORDER BY ic.column_position)
        FROM all_ind_columns ic
        JOIN all_tab_columns tc
            ON tc.owner = ic.table_owner
            AND tc.table_name = ic.table_name
            AND tc.column_name = ic.column_name
        WHERE ic.index_owner = UPPER(:1) AND ic.index_name = UPPER(:2)
    "#

end SchemaAtlas.Oracle.Queries
