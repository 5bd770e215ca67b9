import SqlCatalog.Engine.Rules

/-!
# SQLite

There are no schemas, no stored procedures and no catalogue of functions. Keys,
indexes and columns are asked for by pragmas, whose table cannot be bound and is
embedded as a quoted name.

## Main definitions

* `Sqlite.rules`: The rules of the engine.
* `Sqlite.tables` and the like: Its queries by kind of object.
-/

namespace SqlCatalog

namespace Sqlite

/-- Queries on tables. -/
def tables : TableQueries where
  listing := [.sql "
                SELECT
                    'main' AS table_schema,
                    name AS table_name,
                    'BASE TABLE' AS table_type
                FROM sqlite_master
                WHERE type = 'table'
                    AND name NOT LIKE 'sqlite_%'"]
  nameFilter := [.sql " AND name LIKE ", .slot .marker]
  order := "name"
  summary := [.sql "PRAGMA table_info(", .slot .table, .sql ")"]
  existence := [.sql "SELECT COUNT(*) FROM sqlite_master WHERE type = 'table' AND name = ",
    .marker 1]
  columns := [.sql "PRAGMA table_info(", .slot .table, .sql ")"]
  fullColumns := [.sql "PRAGMA table_info(", .slot .table, .sql ")"]
  primaryKey := [.sql "PRAGMA table_info(", .slot .table, .sql ")"]
  indexes := [.sql "PRAGMA index_list(", .slot .table, .sql ")"]
  foreignKeys := [.sql "PRAGMA foreign_key_list(", .slot .table, .sql ")"]

/-- Queries on views. -/
def views : ViewQueries where
  listing := [.sql "
                SELECT
                    'main' AS view_schema,
                    name AS view_name,
                    NULL AS created,
                    NULL AS last_altered
                FROM sqlite_master
                WHERE type = 'view'"]
  nameFilter := [.sql " AND name LIKE ", .slot .marker]
  order := "name"
  definition := [.sql "SELECT sql FROM sqlite_master WHERE type = 'view' AND name = ", .marker 1]

/-- Queries on triggers. -/
def triggers : TriggerQueries where
  listing := [.sql "
                SELECT
                    'main' AS schema_name,
                    name AS trigger_name,
                    tbl_name AS table_name,
                    0 AS is_disabled,
                    NULL AS create_date,
                    NULL AS modify_date
                FROM sqlite_master
                WHERE type = 'trigger'"]
  tableFilter := [.sql " AND tbl_name = ", .slot .marker]
  nameFilter := [.sql " AND name LIKE ", .slot .marker]
  order := "tbl_name, name"
  code := [.sql "SELECT sql FROM sqlite_master WHERE type = 'trigger' AND name = ", .marker 1]

/-- Queries on the server. -/
def server : ServerQueries where
  version := [.sql "SELECT sqlite_version()"]
  objectCounts := [.sql "
                SELECT
                    SUM(CASE WHEN type = 'table' THEN 1 ELSE 0 END) AS tables,
                    SUM(CASE WHEN type = 'view' THEN 1 ELSE 0 END) AS views,
                    0 AS procedures,
                    0 AS functions,
                    SUM(CASE WHEN type = 'trigger' THEN 1 ELSE 0 END) AS triggers
                FROM sqlite_master
                WHERE name NOT LIKE 'sqlite_%'"]
  search := [.sql "
                SELECT
                    '' AS schema_name,
                    name AS object_name,
                    type AS object_type,
                    NULL AS create_date,
                    NULL AS modify_date,
                    CASE WHEN sql IS NOT NULL THEN 1 ELSE 0 END AS has_code
                FROM sqlite_master
                WHERE name NOT LIKE 'sqlite_%'
                  AND (name LIKE '%' || ", .marker 1, .sql " || '%'", .slot .codeSearch, .sql ")",
    .slot .typeFilter, .sql "
                ORDER BY name"]

/-- The rules of SQLite. -/
def rules : Rules where
  markers := .question
  openQuote := '"'
  closeQuote := '"'
  defaultSchema := "main"
  currentDatabase := "'main'"
  currentSchema := "'main'"
  calls := .never
  lacks := [.procedures, .functions, .schemas, .caselessLike]
  search :=
    { typeCodes := [("table", "table"), ("view", "view"), ("trigger", "trigger")]
      typeColumn := "type"
      codeClause := [.sql " OR sql LIKE '%' || ", .marker 2, .sql " || '%'"] }
  tables := tables
  views := views
  triggers := triggers
  server := server

end Sqlite

end SqlCatalog
