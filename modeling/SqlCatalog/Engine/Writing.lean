import SqlCatalog.Engine.MySql
import SqlCatalog.Engine.Oracle
import SqlCatalog.Engine.Postgres
import SqlCatalog.Engine.SqlServer
import SqlCatalog.Engine.Sqlite

/-!
# Writing for an Engine

How an engine writes the parts of a query: markers, quoted and qualified names,
windows of rows, joined texts and procedure calls. Each is read off the rules of
the engine; no other module asks which engine it is writing for.

## Main definitions

* `Engine.rules`: The rules of an engine.
* `Engine.marker`, `Engine.quote`, `Engine.qualified`: Markers and names.
* `Engine.window`, `Engine.call`: The pieces of a window and of a call.
* `Engine.render`: The text of a query.

## Theorems

* `Engine.render_append`: A query is written piece by piece.
* `Engine.render_commaSeparated`: So are parts with commas between them.
-/

namespace SqlCatalog

namespace Engine

/-- The rules of an engine. -/
def rules : Engine → Rules
  | .sqlServer => SqlServer.rules
  | .postgres => Postgres.rules
  | .mysql => MySql.rules
  | .oracle => Oracle.rules
  | .sqlite => Sqlite.rules

/-- Whether an engine has a feature. -/
def supports (e : Engine) (f : Feature) : Bool :=
  !e.rules.lacks.contains f

/-- The marker of the argument with this number. -/
def marker (e : Engine) (index : Int) : String :=
  match e.rules.markers with
  | .named => "@p" ++ toString index
  | .numbered => "$" ++ toString index
  | .numeric => ":" ++ toString index
  | .question => "?"

/-- Markers of consecutive arguments. -/
def markersFrom (e : Engine) (start count : Int) : List String :=
  (List.range count.toNat).map fun (i : Nat) => e.marker (start + i)

/-- A name as the engine's catalogue spells it. -/
def fold (e : Engine) (name : String) : String :=
  if e.rules.foldsNames then Text.uppercase name else name

/-- A name between the engine's quotes. -/
def quote (e : Engine) (name : String) : String :=
  String.ofList (e.rules.openQuote :: (e.fold name).toList ++ [e.rules.closeQuote])

/-- A name behind its schema, where there is one and the engine has schemas. -/
def qualified (e : Engine) (schema name : String) : List Piece :=
  if schema = "" || !e.supports .schemas then [.name name]
  else [.name schema, .sql ".", .name name]

/-- The pattern operator. Case is ignored only where the engine has an operator for it. -/
def likeOperator (e : Engine) (caseSensitive : Bool) : String :=
  if !caseSensitive && e.supports .caselessLike then "ILIKE" else "LIKE"

/-- Texts joined into one expression. -/
def concat (e : Engine) (parts : List String) : String :=
  match e.rules.concat with
  | .operator symbol => symbol.intercalate parts
  | .function name => name ++ "(" ++ ", ".intercalate parts ++ ")"

/-- The select of a single expression. -/
def scalarSelect (e : Engine) (expression : String) : String :=
  "SELECT " ++ expression ++ e.rules.selectSuffix

/-- The clause that cuts out a window of rows, behind the order when there is one.
    Engines that fetch behind an order name a neutral one when there is none. -/
def window (e : Engine) (limit offset : String) (order : List Piece) : List Piece :=
  match e.rules.window with
  | .limit =>
    let clause := Piece.sql ("LIMIT " ++ limit ++ " OFFSET " ++ offset)
    if order.isEmpty then [clause] else .sql "ORDER BY " :: order ++ [.sql " ", clause]
  | .fetch neutral =>
    .sql "ORDER BY " :: (if order.isEmpty then [.sql neutral] else order)
      ++ [.sql (" OFFSET " ++ offset ++ " ROWS FETCH NEXT " ++ limit ++ " ROWS ONLY")]

/-- Pieces with commas between them. -/
def commaSeparated : List (List Piece) → List Piece
  | [] => []
  | [p] => p
  | p :: rest => p ++ .sql ", " :: commaSeparated rest

/-- The call of a procedure with its arguments, each the name of a parameter and the
    pieces of its marker. Nothing where the engine has no procedures. -/
def call (e : Engine) (procedure : List Piece) (arguments : List (String × List Piece)) :
    List Piece :=
  let byPosition := commaSeparated (arguments.map (·.2))
  match e.rules.calls with
  | .byName =>
    let named := arguments.map fun (name, m) => .parameter name :: .sql " = " :: m
    .sql "EXEC " :: procedure
      ++ (if arguments.isEmpty then [] else .sql " " :: commaSeparated named)
  | .byPosition => .sql "CALL " :: procedure ++ .sql "(" :: byPosition ++ [.sql ")"]
  | .inBlock => .sql "BEGIN " :: procedure ++ .sql "(" :: byPosition ++ [.sql "); END;"]
  | .never => []

/-- The text of one piece. A slot is shown as its name between braces. -/
def renderPiece (e : Engine) : Piece → String
  | .sql text => text
  | .name identifier => e.quote identifier
  | .parameter identifier => "@" ++ identifier
  | .marker index => e.marker index
  | .slot s => "\x7b" ++ s.name ++ "\x7d"

/-- The text of a query or of a template. -/
def render (e : Engine) (pieces : List Piece) : String :=
  String.join (pieces.map e.renderPiece)

/-- A query is written piece by piece. -/
theorem render_cons (e : Engine) (p : Piece) (ps : List Piece) :
    e.render (p :: ps) = e.renderPiece p ++ e.render ps :=
  String.join_cons

theorem render_append (e : Engine) (ps qs : List Piece) :
    e.render (ps ++ qs) = e.render ps ++ e.render qs := by
  simp [render, String.join_append]

/-- Parts with commas between them, by induction on the parts. -/
theorem render_commaSeparated (e : Engine) (parts : List (List Piece)) :
    e.render (commaSeparated parts) = ", ".intercalate (parts.map e.render) := by
  induction parts with
  | nil => rfl
  | cons part rest ih =>
      cases rest with
      | nil => exact String.intercalate_singleton.symm
      | cons next more =>
          calc e.render (part ++ .sql ", " :: commaSeparated (next :: more))
              = e.render part ++ (", " ++ e.render (commaSeparated (next :: more))) := by
                rw [render_append, render_cons]
                rfl
            _ = e.render part ++ ", " ++ ", ".intercalate ((next :: more).map e.render) := by
                rw [ih, String.append_assoc]
            _ = ", ".intercalate ((part :: next :: more).map e.render) :=
                String.intercalate_cons_cons.symm

end Engine

end SqlCatalog
