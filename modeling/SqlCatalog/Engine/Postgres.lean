import SqlCatalog.Engine.Rules

/-!
# PostgreSQL

Markers are numbered, names stand in double quotes, and there is a pattern
operator that ignores case. Functions that return tables are told apart by a flag
of the catalogue.

## Main definitions

* `Postgres.rules`: The rules of the engine.
* `Postgres.tables` and the like: Its queries by kind of object.
-/

namespace SqlCatalog

namespace Postgres

/-- Queries on tables. -/
def tables : TableQueries where
  listing := [.sql "
                SELECT
                    table_schema,
                    table_name,
                    table_type
                FROM information_schema.tables
                WHERE table_type = 'BASE TABLE'
                    AND table_schema NOT IN ('pg_catalog', 'information_schema')"]
  schemaFilter := [.sql " AND table_schema = ", .slot .marker]
  nameFilter := [.sql " AND table_name ILIKE ", .slot .marker]
  order := "table_schema, table_name"
  summary := [.sql "
                SELECT
                    column_name,
                    data_type,
                    is_nullable,
                    column_default,
                    character_maximum_length
                FROM information_schema.columns
                WHERE table_schema = ", .marker 1, .sql " AND table_name = ", .marker 2, .sql "
                ORDER BY ordinal_position"]
  existence := [.sql "SELECT COUNT(*) FROM information_schema.tables WHERE table_schema = ",
    .marker 1, .sql " AND table_name = ", .marker 2]
  columns := [.sql "
                SELECT
                    column_name,
                    data_type,
                    character_maximum_length,
                    is_nullable,
                    column_default
                FROM information_schema.columns
                WHERE table_schema = ", .marker 1, .sql " AND table_name = ", .marker 2, .sql "
                ORDER BY ordinal_position"]
  fullColumns := [.sql "
                SELECT
                    c.column_name,
                    c.data_type,
                    c.character_maximum_length,
                    c.numeric_precision,
                    c.numeric_scale,
                    c.is_nullable,
                    c.column_default,
                    CASE WHEN pk.column_name IS NOT NULL THEN 'YES' ELSE 'NO' END AS is_primary_key
                FROM information_schema.columns c
                LEFT JOIN (
                    SELECT ku.table_schema, ku.table_name, ku.column_name
                    FROM information_schema.table_constraints tc
                    JOIN information_schema.key_column_usage ku
                        ON tc.constraint_type = 'PRIMARY KEY'
                        AND tc.constraint_name = ku.constraint_name
                        AND tc.table_schema = ku.table_schema
                        AND tc.table_name = ku.table_name
                ) pk ON c.table_schema = pk.table_schema
                    AND c.table_name = pk.table_name
                    AND c.column_name = pk.column_name
                WHERE c.table_schema = ", .marker 1, .sql " AND c.table_name = ", .marker 2,
    .sql "
                ORDER BY c.ordinal_position"]
  primaryKey := [.sql "
                SELECT ku.column_name
                FROM information_schema.table_constraints tc
                JOIN information_schema.key_column_usage ku
                    ON tc.constraint_name = ku.constraint_name
                    AND tc.table_schema = ku.table_schema
                    AND tc.table_name = ku.table_name
                WHERE tc.constraint_type = 'PRIMARY KEY'
                    AND tc.table_schema = ", .marker 1, .sql "
                    AND tc.table_name = ", .marker 2, .sql "
                ORDER BY ku.ordinal_position"]
  indexes := [.sql "
                SELECT
                    i.indexname AS index_name,
                    a.amname AS index_type,
                    ix.indisunique AS is_unique,
                    a2.attname AS column_name
                FROM pg_indexes i
                JOIN pg_class c ON i.indexname = c.relname
                JOIN pg_index ix ON c.oid = ix.indexrelid
                JOIN pg_class t ON ix.indrelid = t.oid
                JOIN pg_namespace n ON t.relnamespace = n.oid
                JOIN pg_am a ON c.relam = a.oid
                JOIN pg_attribute a2 ON a2.attrelid = t.oid AND a2.attnum = ANY(ix.indkey)
                WHERE n.nspname = ", .marker 1, .sql " AND t.relname = ", .marker 2, .sql "
                ORDER BY i.indexname"]
  foreignKeys := [.sql "
                SELECT
                    tc.constraint_name,
                    kcu.column_name,
                    ccu.table_schema AS referenced_schema,
                    ccu.table_name AS referenced_table,
                    ccu.column_name AS referenced_column
                FROM information_schema.table_constraints tc
                JOIN information_schema.key_column_usage kcu
                    ON tc.constraint_name = kcu.constraint_name
                    AND tc.table_schema = kcu.table_schema
                JOIN information_schema.constraint_column_usage ccu
                    ON ccu.constraint_name = tc.constraint_name
                    AND ccu.table_schema = tc.table_schema
                WHERE tc.constraint_type = 'FOREIGN KEY'
                    AND tc.table_schema = ", .marker 1, .sql "
                    AND tc.table_name = ", .marker 2, .sql "
                ORDER BY tc.constraint_name"]

/-- Queries on stored procedures. -/
def procedures : ProcedureQueries where
  listing := [.sql "
                SELECT
                    routine_schema,
                    routine_name,
                    created::timestamp AS created,
                    created::timestamp AS last_altered
                FROM information_schema.routines
                WHERE routine_type = 'PROCEDURE'
                    AND routine_schema NOT IN ('pg_catalog', 'information_schema')"]
  schemaFilter := [.sql " AND routine_schema = ", .slot .marker]
  nameFilter := [.sql " AND routine_name ILIKE ", .slot .marker]
  order := "routine_schema, routine_name"
  code := [.sql "
                SELECT pg_get_functiondef(p.oid)
                FROM pg_proc p
                JOIN pg_namespace n ON p.pronamespace = n.oid
                WHERE n.nspname = ", .marker 1, .sql " AND p.proname = ", .marker 2,
    .sql " AND prokind = 'p'"]
  parameters := [.sql "
                SELECT
                    p.parameter_name,
                    p.data_type AS type_name,
                    CASE WHEN p.parameter_mode IN ('OUT', 'INOUT') THEN 1 ELSE 0 END AS is_output
                FROM information_schema.parameters p
                JOIN information_schema.routines r
                    ON p.specific_schema = r.specific_schema
                    AND p.specific_name = r.specific_name
                WHERE r.routine_schema = ", .marker 1, .sql " AND r.routine_name = ", .marker 2,
    .sql " AND r.routine_type = 'PROCEDURE'
                ORDER BY p.ordinal_position"]

/-- Queries on functions. -/
def functions : FunctionQueries where
  listing := [.sql "
                SELECT
                    n.nspname AS routine_schema,
                    p.proname AS routine_name,
                    CASE WHEN p.proretset THEN 'TABLE' ELSE 'SCALAR' END AS function_type,
                    NULL::timestamp AS created,
                    NULL::timestamp AS last_altered
                FROM pg_proc p
                JOIN pg_namespace n ON p.pronamespace = n.oid
                WHERE n.nspname NOT IN ('pg_catalog', 'information_schema')
                    AND prokind = 'f'"]
  scalarOnly := [.sql " AND NOT p.proretset"]
  tableOnly := [.sql " AND p.proretset"]
  schemaFilter := [.sql " AND n.nspname = ", .slot .marker]
  nameFilter := [.sql " AND p.proname ILIKE ", .slot .marker]
  order := "n.nspname, p.proname"
  code := [.sql "
                SELECT pg_get_functiondef(p.oid)
                FROM pg_proc p
                JOIN pg_namespace n ON p.pronamespace = n.oid
                WHERE n.nspname = ", .marker 1, .sql " AND p.proname = ", .marker 2,
    .sql " AND prokind = 'f'"]

/-- Queries on views. -/
def views : ViewQueries where
  listing := [.sql "
                SELECT
                    table_schema AS view_schema,
                    table_name AS view_name,
                    NULL::timestamp AS created,
                    NULL::timestamp AS last_altered
                FROM information_schema.views
                WHERE table_schema NOT IN ('pg_catalog', 'information_schema')"]
  schemaFilter := [.sql " AND table_schema = ", .slot .marker]
  nameFilter := [.sql " AND table_name ILIKE ", .slot .marker]
  order := "table_schema, table_name"
  definition := [.sql "
                SELECT view_definition
                FROM information_schema.views
                WHERE table_schema = ", .marker 1, .sql " AND table_name = ", .marker 2]

/-- Queries on triggers. -/
def triggers : TriggerQueries where
  listing := [.sql "
                SELECT
                    n.nspname AS schema_name,
                    t.tgname AS trigger_name,
                    c.relname AS table_name,
                    t.tgenabled = 'D' AS is_disabled,
                    NULL::timestamp AS create_date,
                    NULL::timestamp AS modify_date
                FROM pg_trigger t
                JOIN pg_class c ON t.tgrelid = c.oid
                JOIN pg_namespace n ON c.relnamespace = n.oid
                WHERE NOT t.tgisinternal
                    AND n.nspname NOT IN ('pg_catalog', 'information_schema')"]
  schemaFilter := [.sql " AND n.nspname = ", .slot .marker]
  tableFilter := [.sql " AND c.relname = ", .slot .marker]
  nameFilter := [.sql " AND t.tgname ILIKE ", .slot .marker]
  enabledOnly := [.sql " AND t.tgenabled <> 'D'"]
  order := "n.nspname, c.relname, t.tgname"
  code := [.sql "
                SELECT pg_get_triggerdef(t.oid)
                FROM pg_trigger t
                JOIN pg_class c ON t.tgrelid = c.oid
                JOIN pg_namespace n ON c.relnamespace = n.oid
                WHERE n.nspname = ", .marker 1, .sql " AND t.tgname = ", .marker 2]

/-- Queries on the server. -/
def server : ServerQueries where
  version := [.sql "SELECT version()"]
  details := [.sql "
                SELECT
                    current_database() AS database_name,
                    pg_encoding_to_char(encoding) AS encoding,
                    datcollate AS collation,
                    '' AS recovery_model_desc,
                    0 AS compatibility_level,
                    NULL AS create_date
                FROM pg_database
                WHERE datname = current_database()"]
  objectCounts := [.sql "
                SELECT
                    COUNT(CASE WHEN table_type = 'BASE TABLE' THEN 1 END) AS tables,
                    COUNT(CASE WHEN table_type = 'VIEW' THEN 1 END) AS views,
                    (SELECT COUNT(*) FROM pg_proc p JOIN pg_namespace n ON p.pronamespace = n.oid
                     WHERE n.nspname NOT IN ('pg_catalog', 'information_schema') AND prokind = 'p') AS procedures,
                    (SELECT COUNT(*) FROM pg_proc p JOIN pg_namespace n ON p.pronamespace = n.oid
                     WHERE n.nspname NOT IN ('pg_catalog', 'information_schema') AND prokind = 'f') AS functions,
                    (SELECT COUNT(*) FROM pg_trigger t JOIN pg_class c ON t.tgrelid = c.oid
                     JOIN pg_namespace n ON c.relnamespace = n.oid
                     WHERE n.nspname NOT IN ('pg_catalog', 'information_schema') AND NOT tgisinternal) AS triggers
                FROM information_schema.tables
                WHERE table_schema NOT IN ('pg_catalog', 'information_schema')"]
  schemas := [.sql "
                SELECT schema_name
                FROM information_schema.schemata
                WHERE schema_name NOT IN ('pg_catalog', 'information_schema', 'pg_toast')
                ORDER BY schema_name"]
  search := [.sql "
                SELECT
                    table_schema AS schema_name,
                    table_name AS object_name,
                    table_type AS object_type,
                    NULL AS create_date,
                    NULL AS modify_date,
                    CASE WHEN view_definition IS NOT NULL THEN 1 ELSE 0 END AS has_code
                FROM information_schema.tables
                LEFT JOIN information_schema.views USING (table_schema, table_name)
                WHERE table_schema NOT IN ('pg_catalog', 'information_schema')
                  AND (table_name LIKE '%' || ", .marker 1, .sql " || '%'", .slot .codeSearch,
    .sql ")", .slot .typeFilter, .sql "
                ORDER BY table_schema, table_name"]

/-- The rules of PostgreSQL. -/
def rules : Rules where
  markers := .numbered
  openQuote := '"'
  closeQuote := '"'
  defaultSchema := "public"
  currentDatabase := "current_database()"
  currentSchema := "current_schema()"
  systemSchemas := ["pg_catalog", "information_schema", "pg_toast"]
  lacks := []
  search :=
    { typeCodes := [("table", "BASE TABLE"), ("view", "VIEW")]
      typeColumn := "table_type"
      codeClause := [.sql " OR view_definition LIKE '%' || ", .marker 1, .sql " || '%'"] }
  tables := tables
  procedures := procedures
  functions := functions
  views := views
  triggers := triggers
  server := server

end Postgres

end SqlCatalog
