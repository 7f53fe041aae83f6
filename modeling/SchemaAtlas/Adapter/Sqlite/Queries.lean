import SchemaAtlas.Exchange.Connection

/-!
# Catalog queries of SQLite
-/

namespace SchemaAtlas.Sqlite.Queries

def tables : CatalogQuery where
  topic := .tables
  sql := r#"
        SELECT name
        FROM sqlite_master
        WHERE type = ?1 AND name NOT LIKE 'sqlite\_%' ESCAPE '\'
        ORDER BY name
    "#

/-- The tables whose key a sequence fills in. -/
def sequences : CatalogQuery where
  topic := .sequences
  sql := r#"
        SELECT name
        FROM sqlite_master
        WHERE type = 'table' AND upper(sql) LIKE '%AUTOINCREMENT%'
    "#

/-- The tables whose key stands for the row id. -/
def rowidTables : CatalogQuery where
  topic := .rowidTables
  sql := r#"
        SELECT m.name
        FROM sqlite_master m, pragma_table_info(m.name) p
        WHERE m.type = 'table'
            AND m.name NOT LIKE 'sqlite\_%' ESCAPE '\'
            AND upper(m.sql) NOT LIKE '%WITHOUT ROWID%'
        GROUP BY m.name
        HAVING sum(p.pk > 0) = 1 AND max(p.pk = 1 AND upper(p.type) = 'INTEGER') = 1
    "#

def columns : CatalogQuery where
  topic := .columns
  sql := r#"
        SELECT cid + 1, name, type, "notnull" OR pk > 0, dflt_value, pk > 0
        FROM pragma_table_info(?1)
        ORDER BY cid
    "#

/-- The foreign keys of a relation, one row per column. -/
def foreignKeys : CatalogQuery where
  topic := .foreignKeys
  sql := r#"
        SELECT "from", "table", "to", on_update, on_delete
        FROM pragma_foreign_key_list(?1)
        ORDER BY id, seq
    "#

def indexes : CatalogQuery where
  topic := .indexes
  sql := r#"
        SELECT name, "unique", origin
        FROM pragma_index_list(?1)
        ORDER BY name
    "#

/-- The columns of an index, in no order. -/
def indexColumns : CatalogQuery where
  topic := .indexColumns
  sql := r#"
        SELECT seqno, cid, name
        FROM pragma_index_info(?1)
    "#

/-- The column ids of an index, in index order. -/
def indexOrder : CatalogQuery where
  topic := .indexOrder
  sql := r#"
        SELECT group_concat(cid, ' ')
        FROM (SELECT cid FROM pragma_index_info(?1) ORDER BY seqno)
    "#

end SchemaAtlas.Sqlite.Queries
