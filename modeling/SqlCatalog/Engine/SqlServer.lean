import SqlCatalog.Engine.Rules

/-!
# SQL Server

Markers are named, names stand in brackets, and rows are fetched behind an order.
Procedures take their arguments by the name of the parameter.

## Main definitions

* `SqlServer.rules`: The rules of the engine.
* `SqlServer.tables` and the like: Its queries by kind of object.
-/

namespace SqlCatalog

namespace SqlServer

/-- Queries on tables. -/
def tables : TableQueries where
  listing := [.sql "
                SELECT
                    TABLE_SCHEMA,
                    TABLE_NAME,
                    TABLE_TYPE
                FROM INFORMATION_SCHEMA.TABLES
                WHERE TABLE_TYPE = 'BASE TABLE'"]
  schemaFilter := [.sql " AND TABLE_SCHEMA = ", .slot .marker]
  nameFilter := [.sql " AND TABLE_NAME LIKE ", .slot .marker]
  order := "TABLE_SCHEMA, TABLE_NAME"
  summary := [.sql "
                SELECT
                    COLUMN_NAME,
                    DATA_TYPE,
                    IS_NULLABLE,
                    COLUMN_DEFAULT,
                    CHARACTER_MAXIMUM_LENGTH
                FROM INFORMATION_SCHEMA.COLUMNS
                WHERE TABLE_SCHEMA = ", .marker 1, .sql " AND TABLE_NAME = ", .marker 2, .sql "
                ORDER BY ORDINAL_POSITION"]
  existence := [.sql "SELECT COUNT(*) FROM INFORMATION_SCHEMA.TABLES WHERE TABLE_SCHEMA = ",
    .marker 1, .sql " AND TABLE_NAME = ", .marker 2]
  columns := [.sql "
                SELECT
                    COLUMN_NAME,
                    DATA_TYPE,
                    CHARACTER_MAXIMUM_LENGTH,
                    IS_NULLABLE,
                    COLUMN_DEFAULT
                FROM INFORMATION_SCHEMA.COLUMNS
                WHERE TABLE_SCHEMA = ", .marker 1, .sql " AND TABLE_NAME = ", .marker 2, .sql "
                ORDER BY ORDINAL_POSITION"]
  fullColumns := [.sql "
                SELECT
                    c.COLUMN_NAME,
                    c.DATA_TYPE,
                    c.CHARACTER_MAXIMUM_LENGTH,
                    c.NUMERIC_PRECISION,
                    c.NUMERIC_SCALE,
                    c.IS_NULLABLE,
                    c.COLUMN_DEFAULT,
                    CASE WHEN pk.COLUMN_NAME IS NOT NULL THEN 'YES' ELSE 'NO' END AS IS_PRIMARY_KEY
                FROM INFORMATION_SCHEMA.COLUMNS c
                LEFT JOIN (
                    SELECT ku.TABLE_SCHEMA, ku.TABLE_NAME, ku.COLUMN_NAME
                    FROM INFORMATION_SCHEMA.TABLE_CONSTRAINTS tc
                    JOIN INFORMATION_SCHEMA.KEY_COLUMN_USAGE ku
                        ON tc.CONSTRAINT_TYPE = 'PRIMARY KEY'
                        AND tc.CONSTRAINT_NAME = ku.CONSTRAINT_NAME
                        AND tc.TABLE_SCHEMA = ku.TABLE_SCHEMA
                        AND tc.TABLE_NAME = ku.TABLE_NAME
                ) pk ON c.TABLE_SCHEMA = pk.TABLE_SCHEMA
                    AND c.TABLE_NAME = pk.TABLE_NAME
                    AND c.COLUMN_NAME = pk.COLUMN_NAME
                WHERE c.TABLE_SCHEMA = ", .marker 1, .sql " AND c.TABLE_NAME = ", .marker 2,
    .sql "
                ORDER BY c.ORDINAL_POSITION"]
  primaryKey := [.sql "
                SELECT ku.COLUMN_NAME
                FROM INFORMATION_SCHEMA.TABLE_CONSTRAINTS tc
                JOIN INFORMATION_SCHEMA.KEY_COLUMN_USAGE ku
                    ON tc.CONSTRAINT_NAME = ku.CONSTRAINT_NAME
                    AND tc.TABLE_SCHEMA = ku.TABLE_SCHEMA
                    AND tc.TABLE_NAME = ku.TABLE_NAME
                WHERE tc.CONSTRAINT_TYPE = 'PRIMARY KEY'
                    AND tc.TABLE_SCHEMA = ", .marker 1, .sql "
                    AND tc.TABLE_NAME = ", .marker 2, .sql "
                ORDER BY ku.ORDINAL_POSITION"]
  indexes := [.sql "
                SELECT
                    i.name AS index_name,
                    i.type_desc AS index_type,
                    i.is_unique,
                    COL_NAME(ic.object_id, ic.column_id) AS column_name
                FROM sys.indexes i
                INNER JOIN sys.index_columns ic ON i.object_id = ic.object_id AND i.index_id = ic.index_id
                INNER JOIN sys.tables t ON i.object_id = t.object_id
                INNER JOIN sys.schemas s ON t.schema_id = s.schema_id
                WHERE s.name = ", .marker 1, .sql " AND t.name = ", .marker 2, .sql "
                ORDER BY i.name, ic.key_ordinal"]
  foreignKeys := [.sql "
                SELECT
                    fk.name AS constraint_name,
                    COL_NAME(fkc.parent_object_id, fkc.parent_column_id) AS column_name,
                    SCHEMA_NAME(ref_t.schema_id) AS referenced_schema,
                    ref_t.name AS referenced_table,
                    COL_NAME(fkc.referenced_object_id, fkc.referenced_column_id) AS referenced_column
                FROM sys.foreign_keys fk
                INNER JOIN sys.foreign_key_columns fkc ON fk.object_id = fkc.constraint_object_id
                INNER JOIN sys.tables t ON fk.parent_object_id = t.object_id
                INNER JOIN sys.schemas s ON t.schema_id = s.schema_id
                INNER JOIN sys.tables ref_t ON fkc.referenced_object_id = ref_t.object_id
                WHERE s.name = ", .marker 1, .sql " AND t.name = ", .marker 2, .sql "
                ORDER BY fk.name"]

/-- Queries on stored procedures. -/
def procedures : ProcedureQueries where
  listing := [.sql "
                SELECT
                    s.name AS routine_schema,
                    o.name AS routine_name,
                    o.create_date AS created,
                    o.modify_date AS last_altered
                FROM sys.objects o
                INNER JOIN sys.schemas s ON o.schema_id = s.schema_id
                WHERE o.type = 'P' AND o.is_ms_shipped = 0"]
  schemaFilter := [.sql " AND s.name = ", .slot .marker]
  nameFilter := [.sql " AND o.name LIKE ", .slot .marker]
  order := "s.name, o.name"
  code := [.sql "
                SELECT m.definition
                FROM sys.sql_modules m
                INNER JOIN sys.objects o ON m.object_id = o.object_id
                INNER JOIN sys.schemas s ON o.schema_id = s.schema_id
                WHERE o.type = 'P' AND s.name = ", .marker 1, .sql " AND o.name = ", .marker 2]
  parameters := [.sql "
                SELECT
                    p.name AS parameter_name,
                    TYPE_NAME(p.user_type_id) AS type_name,
                    p.is_output
                FROM sys.parameters p
                INNER JOIN sys.objects o ON p.object_id = o.object_id
                INNER JOIN sys.schemas s ON o.schema_id = s.schema_id
                WHERE s.name = ", .marker 1, .sql " AND o.name = ", .marker 2,
    .sql " AND p.parameter_id > 0
                ORDER BY p.parameter_id"]

/-- Queries on functions. -/
def functions : FunctionQueries where
  listing := [.sql "
                SELECT
                    s.name AS routine_schema,
                    o.name AS routine_name,
                    o.type_desc AS function_type,
                    o.create_date AS created,
                    o.modify_date AS last_altered
                FROM sys.objects o
                INNER JOIN sys.schemas s ON o.schema_id = s.schema_id
                WHERE o.is_ms_shipped = 0"]
  scalarOnly := [.sql " AND o.type = 'FN'"]
  tableOnly := [.sql " AND o.type IN ('IF', 'TF')"]
  everyKind := [.sql " AND o.type IN ('FN', 'IF', 'TF')"]
  schemaFilter := [.sql " AND s.name = ", .slot .marker]
  nameFilter := [.sql " AND o.name LIKE ", .slot .marker]
  order := "s.name, o.name"
  code := [.sql "
                SELECT m.definition
                FROM sys.sql_modules m
                INNER JOIN sys.objects o ON m.object_id = o.object_id
                INNER JOIN sys.schemas s ON o.schema_id = s.schema_id
                WHERE o.type IN ('FN', 'IF', 'TF') AND s.name = ", .marker 1,
    .sql " AND o.name = ", .marker 2]

/-- Queries on views. -/
def views : ViewQueries where
  listing := [.sql "
                SELECT
                    s.name AS view_schema,
                    v.name AS view_name,
                    v.create_date AS created,
                    v.modify_date AS last_altered
                FROM sys.views v
                INNER JOIN sys.schemas s ON v.schema_id = s.schema_id
                WHERE v.is_ms_shipped = 0"]
  schemaFilter := [.sql " AND s.name = ", .slot .marker]
  nameFilter := [.sql " AND v.name LIKE ", .slot .marker]
  order := "s.name, v.name"
  definition := [.sql "
                SELECT m.definition
                FROM sys.sql_modules m
                INNER JOIN sys.views v ON m.object_id = v.object_id
                INNER JOIN sys.schemas s ON v.schema_id = s.schema_id
                WHERE s.name = ", .marker 1, .sql " AND v.name = ", .marker 2]

/-- Queries on triggers. -/
def triggers : TriggerQueries where
  listing := [.sql "
                SELECT
                    s.name AS schema_name,
                    t.name AS trigger_name,
                    OBJECT_NAME(tr.parent_id) AS table_name,
                    tr.is_disabled,
                    tr.create_date,
                    tr.modify_date
                FROM sys.triggers tr
                INNER JOIN sys.objects t ON tr.object_id = t.object_id
                INNER JOIN sys.schemas s ON t.schema_id = s.schema_id
                WHERE 1 = 1"]
  schemaFilter := [.sql " AND s.name = ", .slot .marker]
  tableFilter := [.sql " AND OBJECT_NAME(tr.parent_id) = ", .slot .marker]
  nameFilter := [.sql " AND t.name LIKE ", .slot .marker]
  enabledOnly := [.sql " AND tr.is_disabled = 0"]
  order := "s.name, OBJECT_NAME(tr.parent_id), t.name"
  code := [.sql "
                SELECT m.definition
                FROM sys.sql_modules m
                INNER JOIN sys.triggers tr ON m.object_id = tr.object_id
                INNER JOIN sys.objects t ON tr.object_id = t.object_id
                INNER JOIN sys.schemas s ON t.schema_id = s.schema_id
                WHERE s.name = ", .marker 1, .sql " AND t.name = ", .marker 2]

/-- Queries on the server. -/
def server : ServerQueries where
  version := [.sql "SELECT @@VERSION"]
  details := [.sql "
                SELECT
                    DB_NAME() AS database_name,
                    collation_name,
                    recovery_model_desc,
                    compatibility_level,
                    create_date
                FROM sys.databases
                WHERE name = DB_NAME()"]
  objectCounts := [.sql "
                SELECT
                    COUNT(CASE WHEN type = 'U' THEN 1 END) AS tables,
                    COUNT(CASE WHEN type = 'V' THEN 1 END) AS views,
                    COUNT(CASE WHEN type = 'P' THEN 1 END) AS procedures,
                    COUNT(CASE WHEN type IN ('FN', 'IF', 'TF') THEN 1 END) AS functions,
                    COUNT(CASE WHEN type = 'TR' THEN 1 END) AS triggers
                FROM sys.objects
                WHERE is_ms_shipped = 0"]
  schemas := [.sql "
                SELECT name
                FROM sys.schemas
                WHERE schema_id < 16384
                ORDER BY name"]
  search := [.sql "
                SELECT DISTINCT
                    s.name AS schema_name,
                    o.name AS object_name,
                    o.type_desc AS object_type,
                    o.create_date,
                    o.modify_date,
                    CASE WHEN m.definition IS NOT NULL THEN 1 ELSE 0 END AS has_code
                FROM sys.objects o
                INNER JOIN sys.schemas s ON o.schema_id = s.schema_id
                LEFT JOIN sys.sql_modules m ON o.object_id = m.object_id
                WHERE o.is_ms_shipped = 0", .slot .typeFilter, .sql "
                  AND (o.name LIKE '%' + ", .marker 1, .sql " + '%'", .slot .codeSearch, .sql ")
                ORDER BY s.name, o.name"]

/-- The rules of SQL Server. -/
def rules : Rules where
  markers := .named
  openQuote := '['
  closeQuote := ']'
  defaultSchema := "dbo"
  window := .fetch "(SELECT NULL)"
  concat := .operator " + "
  currentDatabase := "DB_NAME()"
  currentSchema := "SCHEMA_NAME()"
  calls := .byName
  systemSchemas := ["sys", "INFORMATION_SCHEMA"]
  search :=
    { typeCodes := [("table", "U"), ("view", "V"), ("procedure", "P"), ("function", "FN")]
      typeColumn := "o.type"
      codeClause := [
        .sql " OR (m.definition IS NOT NULL AND m.definition LIKE '%' + ", .marker 1,
        .sql " + '%')"]
      allTypesByDefault := true }
  tables := tables
  procedures := procedures
  functions := functions
  views := views
  triggers := triggers
  server := server

end SqlServer

end SqlCatalog
