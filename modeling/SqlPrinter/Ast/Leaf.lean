/-
The parts of a statement that contain no expression: references to columns and
objects, literals, parameters, and the small choices that a clause may make.
-/
namespace SqlPrinter

/-- A column, with the table and the schema it belongs to where they are given. -/
structure ColumnRef where
  schema : Option String
  table : Option String
  column : String

/-- A table, view, index or routine, with its schema where it is given. -/
structure ObjectName where
  schema : Option String
  name : String

/-- A keyword and its value, such as `COLLATE utf8mb4_bin`, with a symbol between
them where there is one. -/
structure KeywordValue where
  keyword : String
  symbol : Option String
  value : String

/-- `X'4D79'` or `0x4D79`. -/
inductive HexForm where
  | quoted
  | zeroX
deriving DecidableEq

/-- `b'1010'` or `0b1010`. -/
inductive BitForm where
  | quoted
  | zeroB
deriving DecidableEq

/-- A constant.  Text is held without escapes; a charset is an introducer such as
`_latin1`. -/
inductive Literal where
  | string (value : String) (charset : Option String)
  | national (value : String)
  | hex (digits : String) (form : HexForm) (charset : Option String)
  | bit (digits : String) (form : BitForm) (charset : Option String)
  | number (digits : String)
  | bool (value : Bool)
  | null
  /-- A constant such as `DATE '2020-01-01'`. -/
  | typed (kind value : String)

/-- A place that a value is bound to later. -/
inductive Parameter where
  | question
  | dollar (index : UInt64)
  | named (name : String)
  /-- Spelled as the placeholder style says. -/
  | bind

/-- `CAST(x AS t)` or `x::t`. -/
inductive CastForm where
  | keyword
  | doubleColon
deriving DecidableEq

/-- The number of dimensions of an array type. -/
inductive ArrayDim where
  | one
  | two
deriving DecidableEq

/-- What a window frame counts. -/
inductive FrameUnits where
  | rows
  | range
  | groups
deriving DecidableEq

/-- `ASC` or `DESC`. -/
inductive Direction where
  | ascending
  | descending
deriving DecidableEq

/-- Where null values are sorted. -/
inductive NullsOrder where
  | first
  | last
deriving DecidableEq

/-- A wish about the storage of a common table expression. -/
inductive Materialization where
  | materialized
  | notMaterialized
deriving DecidableEq

/-- Where the INTO clause of a query stands: after the columns, before the lock,
or at the very end. -/
inductive IntoPosition where
  | afterColumns
  | beforeLock
  | atEnd
deriving DecidableEq

/-- The kinds of joins. -/
inductive JoinKind where
  | inner
  | left
  | right
  | full
  | cross
  | naturalInner
  | naturalLeft
  | naturalRight
  | naturalFull
deriving DecidableEq

/-- A cross join and a natural join take no condition. -/
def JoinKind.takesCondition : JoinKind → Bool
  | inner | left | right | full => true
  | cross | naturalInner | naturalLeft | naturalRight | naturalFull => false

/-- How two queries are combined. -/
inductive SetOp where
  | union
  | unionAll
  | unionDistinct
  | intersect
  | intersectAll
  | except
  | exceptAll
  | minus
deriving DecidableEq

/-- The strength of a row lock. -/
inductive LockMode where
  | update
  | share
  | lockInShareMode
deriving DecidableEq

/-- What happens when a row is locked already. -/
inductive LockWait where
  | nowait
  | skipLocked
deriving DecidableEq

/-- A row lock at the end of a query. -/
structure Locking where
  mode : LockMode
  tables : List String
  wait : Option LockWait

end SqlPrinter
