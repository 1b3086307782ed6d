/-
Statements that change rows: INSERT, UPDATE and DELETE.
-/
import SqlPrinter.Ast.Query

namespace SqlPrinter

/-- A column and its new value. -/
structure Assignment where
  table : Option String
  column : String
  value : Expr
  /-- The value is the one that the INSERT brought for this column. -/
  fromInserted : Bool

/-- Where the rows of an INSERT come from. -/
inductive RowSource where
  | values (rows : List (List Expr))
  | query (query : Query)
  | assignments (assignments : List Assignment)

/-- What an INSERT does with a row that is there already. -/
inductive ConflictAction where
  | doNothing
  | doUpdate (assignments : List Assignment) (condition : Option Expr)

/-- The conflict clause of an INSERT. -/
structure ConflictClause where
  columns : List String
  constraint : Option String
  action : Option ConflictAction

/-- An INSERT or a REPLACE. -/
structure Insert where
  replace : Bool
  ignore : Bool
  into : Bool
  table : TableRef
  columns : List String
  source : RowSource
  conflict : Option ConflictClause
  returning : List SelectItem

/-- `UPDATE OR REPLACE` and `UPDATE OR IGNORE`. -/
inductive UpdateFallback where
  | replace
  | ignore
deriving DecidableEq

/-- An UPDATE. -/
structure Update where
  ctes : Option With
  fallback : Option UpdateFallback
  table : TableRef
  joins : List Join
  assignments : List Assignment
  tables : List TableRef
  condition : Option Expr
  orderBy : List OrderItem
  limit : Option Expr
  returning : List SelectItem

/-- A DELETE. -/
structure Delete where
  ctes : Option With
  /-- The tables whose rows go, where several are named. -/
  targets : List String
  tables : List TableRef
  joins : List Join
  usingTables : List TableRef
  condition : Option Expr
  orderBy : List OrderItem
  limit : Option Expr
  returning : List SelectItem

end SqlPrinter
