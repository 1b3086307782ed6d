/-
Expressions and queries.  They contain each other, so they are one family of
types: an expression may be a subquery, and a query is made of expressions.
-/
import SqlPrinter.Ast.Leaf
import SqlPrinter.Ast.Operator

namespace SqlPrinter

mutual

/-- An expression. -/
inductive Expr where
  | column (ref : ColumnRef)
  | star (table : Option String)
  | keyword (word : String)
  | literal (value : Literal)
  | parameter (param : Parameter)
  | var (sigil name : String)
  | binary (left : Expr) (op : BinaryOp) (right : Expr)
  | unary (op : UnaryOp) (operand : Expr)
  | between (subject : Expr) (negated : Bool) (low high : Expr)
  | paren (inner : Expr)
  | list (items : List Expr)
  | function (call : FunctionCall)
  | aggregate (call : Aggregate)
  | cast (conversion : Cast)
  | extract (call : Extract)
  | anyValue (call : AnyValue)
  | case (operand : Option Expr) (branches : List (Expr × Expr))
      (otherwise : Option Expr)
  | subquery (query : Query)
  | collate (subject : Expr) (collation : KeywordValue)
  | fullText (columns : List ColumnRef) (against : Expr) (mode : Option String)
  | interval (amount : Expr) (unit : String)

/-- A call of a scalar function.  Without arguments it is a bare name such as
`CURRENT_TIMESTAMP`. -/
structure FunctionCall where
  name : String
  args : Option (List Expr)
  /-- Parentheses around the arguments. -/
  argsParentheses : Bool
  separator : Option String
  /-- Parentheses around the whole call. -/
  parentheses : Bool
  window : Option Over
  collate : Option KeywordValue
  suffix : Option Expr

/-- A call of an aggregate function such as `COUNT` or `GROUP_CONCAT`. -/
structure Aggregate where
  name : String
  distinct : Bool
  args : List Expr
  orderBy : List OrderItem
  separator : Option Expr
  filter : Option Expr
  window : Option Over

/-- The name of a type, as it stands in a cast or in a column definition. -/
structure DataType where
  name : String
  length : Option UInt64
  scale : Option UInt64
  parentheses : Bool
  /-- A mark around the name, which then keeps its letter case. -/
  quoted : Option String
  /-- Words such as `UNSIGNED` or `WITH TIME ZONE`. -/
  suffix : List String
  array : Option ArrayDim
  /-- The members of an ENUM or SET. -/
  values : List Expr

/-- An operator and an operand that follow a cast. -/
structure CastTail where
  operator : String
  operand : Expr

/-- The conversion of a value to a type. -/
structure Cast where
  subject : Expr
  target : DataType
  form : CastForm
  /-- `CAST`, `TRY_CAST` or `SAFE_CAST`; the keyword form cannot do without. -/
  keyword : Option String
  tail : Option CastTail
  rename : Option String
  collate : Option KeywordValue

/-- `EXTRACT(field FROM source)`. -/
structure Extract where
  name : String
  field : String
  castType : Option String
  source : Expr

/-- `HAVING MAX x` inside a call of `ANY_VALUE`. -/
structure AnyValueHaving where
  /-- `MAX` or `MIN`. -/
  bound : String
  subject : Expr

/-- `ANY_VALUE(x HAVING MAX y)`. -/
structure AnyValue where
  name : String
  subject : Expr
  having : Option AnyValueHaving
  window : Option Over

/-- The window of a call: a named one or one that is spelled out. -/
inductive Over where
  | named (name : String)
  | spec (window : WindowSpec)

/-- What stands between the parentheses of a window. -/
structure WindowSpec where
  base : Option String
  partitionBy : List Expr
  orderBy : List OrderItem
  frame : Option WindowFrame

/-- One end of a window frame. -/
inductive FrameBound where
  | unboundedPreceding
  | preceding (distance : Expr)
  | currentRow
  | following (distance : Expr)
  | unboundedFollowing

/-- The frame of a window; without a last bound it has one bound only. -/
structure WindowFrame where
  units : FrameUnits
  first : FrameBound
  last : Option FrameBound

/-- A sort key. -/
structure OrderItem where
  key : Expr
  direction : Option Direction
  nulls : Option NullsOrder

/-- A query with the clauses that apply to the whole of it. -/
structure Query where
  ctes : Option With
  body : QueryBody
  orderBy : List OrderItem
  limit : Option Expr
  offset : Option Expr

/-- A SELECT, or two bodies combined. -/
inductive QueryBody where
  | select (select : Select)
  | combine (left : QueryBody) (op : SetOp) (right : QueryBody)

/-- The clauses of a SELECT, in the order in which they are written. -/
structure Select where
  distinct : Bool
  distinctOn : List Expr
  /-- Words such as `SQL_CALC_FOUND_ROWS`. -/
  options : List String
  items : List SelectItem
  into : Option SelectInto
  tables : List TableRef
  joins : List Join
  condition : Option Expr
  groupBy : List Expr
  groupModifiers : List GroupModifier
  having : Option Expr
  windows : List NamedWindow
  orderBy : List OrderItem
  limit : Option Expr
  offset : Option Expr
  locking : Option Locking

/-- A column of the result. -/
inductive SelectItem where
  | star
  | qualifiedStar (table : String)
  | expr (value : Expr) (rename : Option String)

/-- A modifier of GROUP BY. -/
inductive GroupModifier where
  | rollup
  | cube
  | groupingSets (sets : List (List Expr))

/-- Where the rows of a query go. -/
inductive IntoTarget where
  | vars (vars : List Expr)
  | outfile (file : String) (charset : Option String)
  | dumpfile (file : String)
  | table (name : String)

/-- The INTO clause of a SELECT. -/
structure SelectInto where
  position : IntoPosition
  target : IntoTarget

/-- A source of rows. -/
inductive TableRef where
  | named (schema : Option String) (name : String) (rename : Option String)
  | subquery (query : Query) (rename : Option String)
  | function (call : FunctionCall) (rename : Option String)
  | values (rows : List (List Expr)) (rowKeyword : Bool) (rename : Option String)
  | paren (table : TableRef)

/-- A join with the table on its right. -/
structure Join where
  kind : JoinKind
  table : TableRef
  condition : Option Expr
  columns : Option (List String)

/-- A window that calls may refer to by its name. -/
structure NamedWindow where
  name : String
  window : WindowSpec

/-- The common table expressions before a query or a change. -/
structure With where
  recursive : Bool
  tables : List Cte

/-- A common table expression. -/
structure Cte where
  name : String
  columns : List String
  materialized : Option Materialization
  query : Query

end

/-- A call with arguments and nothing else. -/
def FunctionCall.ofArgs (name : String) (args : List Expr) : FunctionCall where
  name
  args := some args
  argsParentheses := true
  separator := none
  parentheses := false
  window := none
  collate := none
  suffix := none

/-- A query that is just a SELECT. -/
def Query.ofSelect (select : Select) : Query where
  ctes := none
  body := .select select
  orderBy := []
  limit := none
  offset := none

end SqlPrinter
