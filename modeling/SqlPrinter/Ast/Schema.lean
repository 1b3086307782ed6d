/-
Statements about the tables themselves: CREATE, ALTER and DROP, and the three
small ones SHOW, ANALYZE and ATTACH.
-/
import SqlPrinter.Ast.Query

namespace SqlPrinter

/-- What happens to a row when the row it refers to changes. -/
inductive RefAction where
  | restrict
  | cascade
  | setNull
  | setDefault
  | noAction
deriving DecidableEq

/-- A reference from one table to another. -/
structure Reference where
  table : ObjectName
  columns : List String
  onDelete : Option RefAction
  onUpdate : Option RefAction

/-- The attributes of a column, in the order in which they are written. -/
structure ColumnOptions where
  /-- `some false` is written NOT NULL and `some true` is written NULL. -/
  nullable : Option Bool
  default : Option Expr
  onUpdate : Option Expr
  autoIncrement : Bool
  unique : Bool
  primaryKey : Bool
  comment : Option String
  characterSet : Option String
  collate : Option String
  check : Option Expr
  references : Option Reference

/-- A column without attributes. -/
def ColumnOptions.plain : ColumnOptions where
  nullable := none
  default := none
  onUpdate := none
  autoIncrement := false
  unique := false
  primaryKey := false
  comment := none
  characterSet := none
  collate := none
  check := none
  references := none

/-- The definition of a column. -/
structure ColumnDef where
  name : String
  dataType : Option DataType
  options : ColumnOptions

/-- The structure behind an index. -/
inductive IndexType where
  | btree
  | hash
deriving DecidableEq

/-- The word after UNIQUE. -/
inductive IndexKeyword where
  | key
  | index
deriving DecidableEq

/-- The kinds of indexes inside a table definition. -/
inductive IndexKind where
  | key
  | index
  | fulltext
  | spatial
deriving DecidableEq

/-- A column of an index. -/
structure IndexColumn where
  column : String
  length : Option UInt64
  order : Option Direction

/-- A whole column, in no particular order. -/
def IndexColumn.whole (column : String) : IndexColumn :=
  ⟨column, none, none⟩

/-- A constraint on a table. -/
inductive TableConstraint where
  | primaryKey (constraint : Option String) (columns : List IndexColumn)
      (method : Option IndexType)
  | unique (constraint : Option String) (keyword : Option IndexKeyword)
      (name : Option String)
      (columns : List IndexColumn) (method : Option IndexType)
  | foreignKey (constraint : Option String) (columns : List String)
      (references : Reference)
  | check (constraint : Option String) (condition : Expr)

/-- An index inside a table definition. -/
structure IndexDef where
  kind : IndexKind
  name : Option String
  columns : List IndexColumn
  method : Option IndexType

/-- An entry of a table definition. -/
inductive TableElement where
  | column (column : ColumnDef)
  | constraint (constraint : TableConstraint)
  | index (index : IndexDef)

/-- An option such as `ENGINE = INNODB`. -/
structure TableOption where
  keyword : String
  value : String

/-- `CREATE TABLE`. -/
structure CreateTable where
  temporary : Bool
  ifNotExists : Bool
  name : ObjectName
  elements : List TableElement
  options : List TableOption
  query : Option Query
  like : Option ObjectName

/-- The two words for a database. -/
inductive DatabaseKeyword where
  | database
  | schema
deriving DecidableEq

/-- `CREATE DATABASE`. -/
structure CreateDatabase where
  keyword : DatabaseKeyword
  ifNotExists : Bool
  name : String
  options : List TableOption

/-- `CREATE VIEW`. -/
structure CreateView where
  orReplace : Bool
  name : ObjectName
  columns : List String
  query : Query

/-- `CREATE INDEX`. -/
structure CreateIndex where
  unique : Bool
  ifNotExists : Bool
  name : String
  table : ObjectName
  columns : List IndexColumn
  method : Option IndexType

/-- One action of `ALTER TABLE`. -/
inductive AlterAction where
  | addColumn (columnKeyword : Bool) (column : ColumnDef)
  | dropColumn (columnKeyword : Bool) (name : String)
  | modifyColumn (columnKeyword : Bool) (column : ColumnDef)
  | changeColumn (columnKeyword : Bool) (oldName : String) (column : ColumnDef)
  | renameColumn (oldName newName : String)
  | addConstraint (constraint : TableConstraint)
  | addIndex (index : IndexDef)
  | dropIndex (name : String)
  | dropPrimaryKey
  | renameTable (newName : ObjectName)
  | setOption (option : TableOption)

/-- `ALTER TABLE`. -/
structure AlterTable where
  name : ObjectName
  actions : List AlterAction

/-- What a DROP removes. -/
inductive ObjectKind where
  | table
  | database
  | schema
  | view
  | index
deriving DecidableEq

/-- `DROP`, for an index with the table that it belongs to. -/
structure Drop where
  kind : ObjectKind
  ifExists : Bool
  names : List ObjectName
  table : Option ObjectName

/-- The objects whose definition can be shown. -/
inductive ShowCreateKind where
  | table
  | view
  | event
  | trigger
  | procedure
deriving DecidableEq

/-- What a SHOW lists. -/
inductive Show where
  | tables (database : Option String)
  | databases
  | columns (table : ObjectName)
  | index (table : ObjectName)
  | create (kind : ShowCreateKind) (name : ObjectName)

/-- `ANALYZE`. -/
structure Analyze where
  tableKeyword : Bool
  names : List ObjectName

/-- `ATTACH DATABASE file AS schema`. -/
structure Attach where
  file : Expr
  schema : String

end SqlPrinter
