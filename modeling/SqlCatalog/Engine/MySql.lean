import SqlCatalog.Engine.Rules

/-!
# MySQL and MariaDB

Markers are question marks and names stand between backticks. The schema that a
caller leaves out is the database of the connection. Functions are scalar only,
triggers cannot be disabled, and definitions are not searched.

## Main definitions

* `MySql.rules`: The rules of the engine.
* `MySql.tables` and the like: Its queries by kind of object.
-/

namespace SqlCatalog

namespace MySql

/-- The schemas that listings leave out, as a list of the query language. -/
def excludedSchemas : String :=
  "('mysql', 'information_schema', 'performance_schema', 'sys')"

/-- Queries on tables. -/
def tables : TableQueries where
  listing := [.sql "
                SELECT
                    TABLE_SCHEMA,
                    TABLE_NAME,
                    TABLE_TYPE
                FROM INFORMATION_SCHEMA.TABLES
                WHERE TABLE_TYPE = 'BASE TABLE'
                    AND TABLE_SCHEMA NOT IN ", .sql excludedSchemas]
  schemaFilter := [.sql " AND TABLE_SCHEMA = ", .slot .marker]
  nameFilter := [.sql " AND TABLE_NAME LIKE ", .slot .marker]
  order := "TABLE_SCHEMA, TABLE_NAME"
  summary := [.sql "
                SELECT
                    COLUMN_NAME,
                    DATA_TYPE,
                    IS_NULLABLE,
                    COLUMN_DEFAULT,
                    CHARACTER_MAXIMUM_LENGTH
                FROM INFORMATION_SCHEMA.COLUMNS
                WHERE TABLE_SCHEMA = ", .marker 1, .sql " AND TABLE_NAME = ", .marker 2, .sql "
                ORDER BY ORDINAL_POSITION"]
  existence := [.sql "SELECT COUNT(*) FROM INFORMATION_SCHEMA.TABLES WHERE TABLE_SCHEMA = ",
    .marker 1, .sql " AND TABLE_NAME = ", .marker 2]
  columns := [.sql "
                SELECT
                    COLUMN_NAME,
                    DATA_TYPE,
                    CHARACTER_MAXIMUM_LENGTH,
                    IS_NULLABLE,
                    COLUMN_DEFAULT
                FROM INFORMATION_SCHEMA.COLUMNS
                WHERE TABLE_SCHEMA = ", .marker 1, .sql " AND TABLE_NAME = ", .marker 2, .sql "
                ORDER BY ORDINAL_POSITION"]
  fullColumns := [.sql "
                SELECT
                    c.COLUMN_NAME,
                    c.DATA_TYPE,
                    c.CHARACTER_MAXIMUM_LENGTH,
                    c.NUMERIC_PRECISION,
                    c.NUMERIC_SCALE,
                    c.IS_NULLABLE,
                    c.COLUMN_DEFAULT,
                    CASE WHEN pk.COLUMN_NAME IS NOT NULL THEN 'YES' ELSE 'NO' END AS IS_PRIMARY_KEY
                FROM INFORMATION_SCHEMA.COLUMNS c
                LEFT JOIN (
                    SELECT ku.TABLE_SCHEMA, ku.TABLE_NAME, ku.COLUMN_NAME
                    FROM INFORMATION_SCHEMA.TABLE_CONSTRAINTS tc
                    JOIN INFORMATION_SCHEMA.KEY_COLUMN_USAGE ku
                        ON tc.CONSTRAINT_TYPE = 'PRIMARY KEY'
                        AND tc.CONSTRAINT_NAME = ku.CONSTRAINT_NAME
                        AND tc.TABLE_SCHEMA = ku.TABLE_SCHEMA
                        AND tc.TABLE_NAME = ku.TABLE_NAME
                ) pk ON c.TABLE_SCHEMA = pk.TABLE_SCHEMA
                    AND c.TABLE_NAME = pk.TABLE_NAME
                    AND c.COLUMN_NAME = pk.COLUMN_NAME
                WHERE c.TABLE_SCHEMA = ", .marker 1, .sql " AND c.TABLE_NAME = ", .marker 2,
    .sql "
                ORDER BY c.ORDINAL_POSITION"]
  primaryKey := [.sql "
                SELECT ku.COLUMN_NAME
                FROM INFORMATION_SCHEMA.TABLE_CONSTRAINTS tc
                JOIN INFORMATION_SCHEMA.KEY_COLUMN_USAGE ku
                    ON tc.CONSTRAINT_NAME = ku.CONSTRAINT_NAME
                    AND tc.TABLE_SCHEMA = ku.TABLE_SCHEMA
                    AND tc.TABLE_NAME = ku.TABLE_NAME
                WHERE tc.CONSTRAINT_TYPE = 'PRIMARY KEY'
                    AND tc.TABLE_SCHEMA = ", .marker 1, .sql "
                    AND tc.TABLE_NAME = ", .marker 2, .sql "
                ORDER BY ku.ORDINAL_POSITION"]
  indexes := [.sql "
                SELECT
                    INDEX_NAME AS index_name,
                    INDEX_TYPE AS index_type,
                    CASE WHEN NON_UNIQUE = 0 THEN 1 ELSE 0 END AS is_unique,
                    COLUMN_NAME AS column_name
                FROM INFORMATION_SCHEMA.STATISTICS
                WHERE TABLE_SCHEMA = ", .marker 1, .sql " AND TABLE_NAME = ", .marker 2, .sql "
                ORDER BY INDEX_NAME, SEQ_IN_INDEX"]
  foreignKeys := [.sql "
                SELECT
                    kcu.CONSTRAINT_NAME AS constraint_name,
                    kcu.COLUMN_NAME AS column_name,
                    kcu.REFERENCED_TABLE_SCHEMA AS referenced_schema,
                    kcu.REFERENCED_TABLE_NAME AS referenced_table,
                    kcu.REFERENCED_COLUMN_NAME AS referenced_column
                FROM INFORMATION_SCHEMA.KEY_COLUMN_USAGE kcu
                WHERE kcu.TABLE_SCHEMA = ", .marker 1, .sql "
                    AND kcu.TABLE_NAME = ", .marker 2, .sql "
                    AND kcu.REFERENCED_TABLE_NAME IS NOT NULL
                ORDER BY kcu.CONSTRAINT_NAME"]

/-- Queries on stored procedures. -/
def procedures : ProcedureQueries where
  listing := [.sql "
                SELECT
                    ROUTINE_SCHEMA AS routine_schema,
                    ROUTINE_NAME AS routine_name,
                    CREATED AS created,
                    LAST_ALTERED AS last_altered
                FROM INFORMATION_SCHEMA.ROUTINES
                WHERE ROUTINE_TYPE = 'PROCEDURE'
                    AND ROUTINE_SCHEMA NOT IN ", .sql excludedSchemas]
  schemaFilter := [.sql " AND ROUTINE_SCHEMA = ", .slot .marker]
  nameFilter := [.sql " AND ROUTINE_NAME LIKE ", .slot .marker]
  order := "ROUTINE_SCHEMA, ROUTINE_NAME"
  code := [.sql "
                SELECT ROUTINE_DEFINITION
                FROM INFORMATION_SCHEMA.ROUTINES
                WHERE ROUTINE_SCHEMA = ", .marker 1, .sql " AND ROUTINE_NAME = ", .marker 2,
    .sql " AND ROUTINE_TYPE = 'PROCEDURE'"]
  parameters := [.sql "
                SELECT
                    PARAMETER_NAME AS parameter_name,
                    DATA_TYPE AS type_name,
                    CASE WHEN PARAMETER_MODE IN ('OUT', 'INOUT') THEN 1 ELSE 0 END AS is_output
                FROM INFORMATION_SCHEMA.PARAMETERS
                WHERE SPECIFIC_SCHEMA = ", .marker 1, .sql " AND SPECIFIC_NAME = ", .marker 2,
    .sql "
                    AND ROUTINE_TYPE = 'PROCEDURE' AND ORDINAL_POSITION > 0
                ORDER BY ORDINAL_POSITION"]

/-- Queries on functions. -/
def functions : FunctionQueries where
  listing := [.sql "
                SELECT
                    ROUTINE_SCHEMA AS routine_schema,
                    ROUTINE_NAME AS routine_name,
                    'FUNCTION' AS function_type,
                    CREATED AS created,
                    LAST_ALTERED AS last_altered
                FROM INFORMATION_SCHEMA.ROUTINES
                WHERE ROUTINE_TYPE = 'FUNCTION'
                    AND ROUTINE_SCHEMA NOT IN ", .sql excludedSchemas]
  schemaFilter := [.sql " AND ROUTINE_SCHEMA = ", .slot .marker]
  nameFilter := [.sql " AND ROUTINE_NAME LIKE ", .slot .marker]
  order := "ROUTINE_SCHEMA, ROUTINE_NAME"
  code := [.sql "
                SELECT ROUTINE_DEFINITION
                FROM INFORMATION_SCHEMA.ROUTINES
                WHERE ROUTINE_SCHEMA = ", .marker 1, .sql " AND ROUTINE_NAME = ", .marker 2,
    .sql " AND ROUTINE_TYPE = 'FUNCTION'"]

/-- Queries on views. -/
def views : ViewQueries where
  listing := [.sql "
                SELECT
                    TABLE_SCHEMA AS view_schema,
                    TABLE_NAME AS view_name,
                    NULL AS created,
                    NULL AS last_altered
                FROM INFORMATION_SCHEMA.VIEWS
                WHERE TABLE_SCHEMA NOT IN ", .sql excludedSchemas]
  schemaFilter := [.sql " AND TABLE_SCHEMA = ", .slot .marker]
  nameFilter := [.sql " AND TABLE_NAME LIKE ", .slot .marker]
  order := "TABLE_SCHEMA, TABLE_NAME"
  definition := [.sql "
                SELECT VIEW_DEFINITION
                FROM INFORMATION_SCHEMA.VIEWS
                WHERE TABLE_SCHEMA = ", .marker 1, .sql " AND TABLE_NAME = ", .marker 2]

/-- Queries on triggers. -/
def triggers : TriggerQueries where
  listing := [.sql "
                SELECT
                    TRIGGER_SCHEMA AS schema_name,
                    TRIGGER_NAME AS trigger_name,
                    EVENT_OBJECT_TABLE AS table_name,
                    0 AS is_disabled,
                    CREATED AS create_date,
                    NULL AS modify_date
                FROM INFORMATION_SCHEMA.TRIGGERS
                WHERE TRIGGER_SCHEMA NOT IN ", .sql excludedSchemas]
  schemaFilter := [.sql " AND TRIGGER_SCHEMA = ", .slot .marker]
  tableFilter := [.sql " AND EVENT_OBJECT_TABLE = ", .slot .marker]
  nameFilter := [.sql " AND TRIGGER_NAME LIKE ", .slot .marker]
  order := "TRIGGER_SCHEMA, EVENT_OBJECT_TABLE, TRIGGER_NAME"
  code := [.sql "
                SELECT ACTION_STATEMENT
                FROM INFORMATION_SCHEMA.TRIGGERS
                WHERE TRIGGER_SCHEMA = ", .marker 1, .sql " AND TRIGGER_NAME = ", .marker 2]

/-- Queries on the server. -/
def server : ServerQueries where
  version := [.sql "SELECT VERSION()"]
  details := [.sql "
                SELECT
                    DATABASE() AS database_name,
                    DEFAULT_COLLATION_NAME AS collation_name,
                    '' AS recovery_model_desc,
                    0 AS compatibility_level,
                    NULL AS create_date
                FROM INFORMATION_SCHEMA.SCHEMATA
                WHERE SCHEMA_NAME = DATABASE()"]
  objectCounts := [.sql "
                SELECT
                    SUM(CASE WHEN TABLE_TYPE = 'BASE TABLE' THEN 1 ELSE 0 END) AS tables,
                    SUM(CASE WHEN TABLE_TYPE = 'VIEW' THEN 1 ELSE 0 END) AS views,
                    (SELECT COUNT(*) FROM INFORMATION_SCHEMA.ROUTINES
                     WHERE ROUTINE_TYPE = 'PROCEDURE' AND ROUTINE_SCHEMA = DATABASE()) AS procedures,
                    (SELECT COUNT(*) FROM INFORMATION_SCHEMA.ROUTINES
                     WHERE ROUTINE_TYPE = 'FUNCTION' AND ROUTINE_SCHEMA = DATABASE()) AS functions,
                    (SELECT COUNT(*) FROM INFORMATION_SCHEMA.TRIGGERS
                     WHERE TRIGGER_SCHEMA = DATABASE()) AS triggers
                FROM INFORMATION_SCHEMA.TABLES
                WHERE TABLE_SCHEMA = DATABASE()"]
  schemas := [.sql "
                SELECT SCHEMA_NAME
                FROM INFORMATION_SCHEMA.SCHEMATA
                WHERE SCHEMA_NAME NOT IN ", .sql excludedSchemas, .sql "
                ORDER BY SCHEMA_NAME"]
  search := [.sql "
                SELECT
                    TABLE_SCHEMA AS schema_name,
                    TABLE_NAME AS object_name,
                    TABLE_TYPE AS object_type,
                    CREATE_TIME AS create_date,
                    UPDATE_TIME AS modify_date,
                    0 AS has_code
                FROM INFORMATION_SCHEMA.TABLES
                WHERE TABLE_SCHEMA NOT IN ", .sql excludedSchemas, .sql "
                  AND (TABLE_NAME LIKE CONCAT('%', ", .marker 1, .sql ", '%')", .slot .codeSearch,
    .sql ")", .slot .typeFilter, .sql "
                ORDER BY TABLE_SCHEMA, TABLE_NAME"]

/-- The rules of MySQL. -/
def rules : Rules where
  markers := .question
  openQuote := '\x60'
  closeQuote := '\x60'
  concat := .function "CONCAT"
  currentDatabase := "DATABASE()"
  currentSchema := "DATABASE()"
  systemSchemas := ["mysql", "information_schema", "performance_schema", "sys"]
  search :=
    { typeCodes := [("table", "BASE TABLE"), ("view", "VIEW")]
      typeColumn := "TABLE_TYPE" }
  tables := tables
  procedures := procedures
  functions := functions
  views := views
  triggers := triggers
  server := server

end MySql

end SqlCatalog
