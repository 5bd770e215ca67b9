import SqlCatalog.Engine.Rules

/-!
# Oracle

Names that are not quoted are folded to upper case by the engine, so every name
is put in upper case before it is quoted and every looked-up value before it is
bound. Rows are fetched behind an order, and expressions are selected from a
table of one row. Source code is kept one line per row.

## Main definitions

* `Oracle.rules`: The rules of the engine.
* `Oracle.tables` and the like: Its queries by kind of object.
-/

namespace SqlCatalog

namespace Oracle

/-- The schemas that the listing of tables leaves out. -/
def excludedSchemas : String :=
  "'SYS', 'SYSTEM', 'OUTLN', 'XDB', 'WMSYS', 'CTXSYS', 'MDSYS', 'OLAPSYS'"

/-- Queries on tables. -/
def tables : TableQueries where
  listing := [.sql "
                SELECT
                    owner AS table_schema,
                    table_name,
                    'BASE TABLE' AS table_type
                FROM all_tables
                WHERE owner NOT IN (", .sql excludedSchemas, .sql ")"]
  schemaFilter := [.sql " AND owner = ", .slot .marker]
  nameFilter := [.sql " AND table_name LIKE ", .slot .marker]
  order := "owner, table_name"
  summary := [.sql "
                SELECT
                    column_name,
                    data_type,
                    nullable AS is_nullable,
                    data_default AS column_default,
                    data_length AS character_maximum_length
                FROM all_tab_columns
                WHERE owner = ", .marker 1, .sql " AND table_name = ", .marker 2, .sql "
                ORDER BY column_id"]
  existence := [.sql "SELECT COUNT(*) FROM all_tables WHERE owner = ", .marker 1,
    .sql " AND table_name = ", .marker 2]
  columns := [.sql "
                SELECT
                    column_name,
                    data_type,
                    data_length,
                    nullable,
                    data_default
                FROM all_tab_columns
                WHERE owner = ", .marker 1, .sql " AND table_name = ", .marker 2, .sql "
                ORDER BY column_id"]
  fullColumns := [.sql "
                SELECT
                    c.column_name,
                    c.data_type,
                    c.data_length,
                    c.data_precision,
                    c.data_scale,
                    c.nullable,
                    c.data_default,
                    CASE WHEN pk.column_name IS NOT NULL THEN 'YES' ELSE 'NO' END AS is_primary_key
                FROM all_tab_columns c
                LEFT JOIN (
                    SELECT acc.owner, acc.table_name, acc.column_name
                    FROM all_constraints ac
                    JOIN all_cons_columns acc
                        ON ac.constraint_type = 'P'
                        AND ac.constraint_name = acc.constraint_name
                        AND ac.owner = acc.owner
                ) pk ON c.owner = pk.owner
                    AND c.table_name = pk.table_name
                    AND c.column_name = pk.column_name
                WHERE c.owner = ", .marker 1, .sql " AND c.table_name = ", .marker 2, .sql "
                ORDER BY c.column_id"]
  primaryKey := [.sql "
                SELECT acc.column_name
                FROM all_constraints ac
                JOIN all_cons_columns acc
                    ON ac.constraint_name = acc.constraint_name
                    AND ac.owner = acc.owner
                WHERE ac.constraint_type = 'P'
                    AND ac.owner = ", .marker 1, .sql "
                    AND ac.table_name = ", .marker 2, .sql "
                ORDER BY acc.position"]
  indexes := [.sql "
                SELECT
                    i.index_name,
                    i.index_type,
                    i.uniqueness,
                    ic.column_name
                FROM all_indexes i
                JOIN all_ind_columns ic ON i.index_name = ic.index_name AND i.owner = ic.index_owner
                WHERE i.owner = ", .marker 1, .sql " AND i.table_name = ", .marker 2, .sql "
                ORDER BY i.index_name, ic.column_position"]
  foreignKeys := [.sql "
                SELECT
                    ac.constraint_name,
                    acc.column_name,
                    ac_ref.owner AS referenced_schema,
                    ac_ref.table_name AS referenced_table,
                    acc_ref.column_name AS referenced_column
                FROM all_constraints ac
                JOIN all_cons_columns acc
                    ON ac.constraint_name = acc.constraint_name
                    AND ac.owner = acc.owner
                JOIN all_constraints ac_ref
                    ON ac.r_constraint_name = ac_ref.constraint_name
                    AND ac.r_owner = ac_ref.owner
                JOIN all_cons_columns acc_ref
                    ON ac_ref.constraint_name = acc_ref.constraint_name
                    AND ac_ref.owner = acc_ref.owner
                WHERE ac.constraint_type = 'R'
                    AND ac.owner = ", .marker 1, .sql "
                    AND ac.table_name = ", .marker 2, .sql "
                ORDER BY ac.constraint_name"]

/-- Queries on stored procedures. -/
def procedures : ProcedureQueries where
  listing := [.sql "
                SELECT
                    owner AS routine_schema,
                    object_name AS routine_name,
                    created,
                    last_ddl_time AS last_altered
                FROM all_objects
                WHERE object_type = 'PROCEDURE'
                    AND owner NOT IN ('SYS', 'SYSTEM')"]
  schemaFilter := [.sql " AND owner = ", .slot .marker]
  nameFilter := [.sql " AND object_name LIKE ", .slot .marker]
  order := "owner, object_name"
  code := [.sql "
                SELECT text
                FROM all_source
                WHERE owner = ", .marker 1, .sql " AND name = ", .marker 2,
    .sql " AND type = 'PROCEDURE'
                ORDER BY line"]
  parameters := [.sql "
                SELECT
                    argument_name AS parameter_name,
                    data_type AS type_name,
                    CASE WHEN in_out IN ('OUT', 'IN/OUT') THEN 1 ELSE 0 END AS is_output
                FROM all_arguments
                WHERE owner = ", .marker 1, .sql " AND object_name = ", .marker 2, .sql "
                    AND package_name IS NULL AND argument_name IS NOT NULL
                ORDER BY position"]

/-- Queries on functions. -/
def functions : FunctionQueries where
  listing := [.sql "
                SELECT
                    owner AS routine_schema,
                    object_name AS routine_name,
                    'FUNCTION' AS function_type,
                    created,
                    last_ddl_time AS last_altered
                FROM all_objects
                WHERE object_type = 'FUNCTION'
                    AND owner NOT IN ('SYS', 'SYSTEM')"]
  schemaFilter := [.sql " AND owner = ", .slot .marker]
  nameFilter := [.sql " AND object_name LIKE ", .slot .marker]
  order := "owner, object_name"
  code := [.sql "
                SELECT text
                FROM all_source
                WHERE owner = ", .marker 1, .sql " AND name = ", .marker 2,
    .sql " AND type = 'FUNCTION'
                ORDER BY line"]

/-- Queries on views. -/
def views : ViewQueries where
  listing := [.sql "
                SELECT
                    owner AS view_schema,
                    view_name,
                    NULL AS created,
                    NULL AS last_altered
                FROM all_views
                WHERE owner NOT IN ('SYS', 'SYSTEM')"]
  schemaFilter := [.sql " AND owner = ", .slot .marker]
  nameFilter := [.sql " AND view_name LIKE ", .slot .marker]
  order := "owner, view_name"
  definition := [.sql "
                SELECT text
                FROM all_views
                WHERE owner = ", .marker 1, .sql " AND view_name = ", .marker 2]

/-- Queries on triggers. -/
def triggers : TriggerQueries where
  listing := [.sql "
                SELECT
                    owner AS schema_name,
                    trigger_name,
                    table_name,
                    CASE WHEN status = 'DISABLED' THEN 1 ELSE 0 END AS is_disabled,
                    NULL AS create_date,
                    NULL AS modify_date
                FROM all_triggers
                WHERE owner NOT IN ('SYS', 'SYSTEM')"]
  schemaFilter := [.sql " AND owner = ", .slot .marker]
  tableFilter := [.sql " AND table_name = ", .slot .marker]
  nameFilter := [.sql " AND trigger_name LIKE ", .slot .marker]
  enabledOnly := [.sql " AND status = 'ENABLED'"]
  order := "owner, table_name, trigger_name"
  code := [.sql "
                SELECT trigger_body
                FROM all_triggers
                WHERE owner = ", .marker 1, .sql " AND trigger_name = ", .marker 2]

/-- Queries on the server. -/
def server : ServerQueries where
  version := [.sql "SELECT banner FROM v$version WHERE banner LIKE 'Oracle%'"]
  objectCounts := [.sql "
                SELECT
                    COUNT(CASE WHEN object_type = 'TABLE' THEN 1 END) AS tables,
                    COUNT(CASE WHEN object_type = 'VIEW' THEN 1 END) AS views,
                    COUNT(CASE WHEN object_type = 'PROCEDURE' THEN 1 END) AS procedures,
                    COUNT(CASE WHEN object_type = 'FUNCTION' THEN 1 END) AS functions,
                    COUNT(CASE WHEN object_type = 'TRIGGER' THEN 1 END) AS triggers
                FROM all_objects
                WHERE owner = USER"]
  schemas := [.sql "
                SELECT username
                FROM all_users
                WHERE username NOT IN ('SYS', 'SYSTEM', 'OUTLN', 'DBSNMP')
                ORDER BY username"]
  search := [.sql "
                SELECT
                    owner AS schema_name,
                    object_name,
                    object_type,
                    created AS create_date,
                    last_ddl_time AS modify_date,
                    0 AS has_code
                FROM all_objects
                WHERE owner NOT IN ('SYS', 'SYSTEM')
                  AND (object_name LIKE '%' || ", .marker 1, .sql " || '%'", .slot .codeSearch,
    .sql ")", .slot .typeFilter, .sql "
                ORDER BY owner, object_name"]

/-- The rules of Oracle. -/
def rules : Rules where
  markers := .numeric
  openQuote := '"'
  closeQuote := '"'
  foldsNames := true
  window := .fetch "(SELECT NULL FROM DUAL)"
  currentDatabase := "SYS_CONTEXT('USERENV', 'DB_NAME')"
  currentSchema := "SYS_CONTEXT('USERENV', 'CURRENT_SCHEMA')"
  selectSuffix := " FROM DUAL"
  calls := .inBlock
  systemSchemas := ["SYS", "SYSTEM", "OUTLN", "XDB", "WMSYS", "CTXSYS", "MDSYS", "OLAPSYS"]
  search :=
    { typeCodes := [("table", "TABLE"), ("view", "VIEW"), ("procedure", "PROCEDURE"),
        ("function", "FUNCTION")]
      typeColumn := "object_type" }
  tables := tables
  procedures := procedures
  functions := functions
  views := views
  triggers := triggers
  server := server

end Oracle

end SqlCatalog
