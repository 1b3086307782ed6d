/-
The layout of the parts that contain no expression.
-/
import SqlPrinter.Ast.Leaf
import SqlPrinter.Ast.Operator
import SqlPrinter.Doc
import SqlPrinter.Fragments
import SqlPrinter.Settings

namespace SqlPrinter

/-- A path that starts with the qualifiers that are given. -/
def ColumnRef.doc (ref : ColumnRef) : Doc :=
  .requireText ref.column "column" "column" ++
    .path ((Text.nonEmpty ref.schema).toList ++ (Text.nonEmpty ref.table).toList ++
      [ref.column])

/-- A path that starts with the schema if it is given. -/
def ObjectName.doc (object : ObjectName) : Doc :=
  .requireText object.name "object name" "name" ++
    .path ((Text.nonEmpty object.schema).toList ++ [object.name])

namespace KeywordValue

/-- Keyword, symbol and value, the first and the last in upper case. -/
def fragments (kv : KeywordValue) : Fragments :=
  ((Fragments.empty.push kv.keyword.toUpper).push? kv.symbol).push kv.value.toUpper

/-- The parts that are not empty, with spaces between them. -/
def doc (kv : KeywordValue) : Doc :=
  .verbatim (kv.fragments.join " ")

end KeywordValue

/-- The charset before a constant, in upper case. -/
def charsetDoc (charset : Option String) : Doc :=
  match Text.nonEmpty charset with
  | none => .empty
  | some name => .word name ++ .text " "

/-- A constant.  Only a number may not be empty. -/
def Literal.doc (settings : Settings) : Literal → Doc
  | string value charset => charsetDoc charset ++ .string value
  | national value => .text "N" ++ .string value
  | hex digits form charset =>
      charsetDoc charset ++
        (if form = .zeroX || settings.dialect.writesHexAsNumber then
          .text "0x" ++ .verbatim digits
        else .text "X'" ++ .verbatim digits ++ .text "'")
  | bit digits form charset =>
      charsetDoc charset ++
        (match form with
        | .quoted => .text "b'" ++ .verbatim digits ++ .text "'"
        | .zeroB => .text "0b" ++ .verbatim digits)
  | number digits =>
      .requireText digits "number literal" "value" ++ .verbatim digits
  | bool value => .text (if value then "TRUE" else "FALSE")
  | null => .text "NULL"
  | typed kind value => .word kind ++ .text " " ++ .string value

/-- A parameter.  Only a bound one is spelled by the placeholder style. -/
def Parameter.doc : Parameter → Doc
  | question => .question
  | dollar index => .text "$" ++ .number index
  | named name => .text ":" ++ .verbatim name
  | bind => .placeholder

namespace BinaryOp

/-- An operator of one's own has to have a character that is not blank. -/
def isPrintable : BinaryOp → Bool
  | standard _ => true
  | other spelling => !Text.isAllBlank spelling

/-- The operator between its operands. -/
def doc : BinaryOp → Doc
  | standard op => .text op.text
  | other spelling => .verbatim spelling

end BinaryOp

/-- The dimensions of an array type. -/
def ArrayDim.doc : ArrayDim → Doc
  | one => .text "[]"
  | two => .text "[][]"

/-- The word for what a frame counts. -/
def FrameUnits.text : FrameUnits → String
  | rows => "ROWS"
  | range => "RANGE"
  | groups => "GROUPS"

/-- The direction of a sort key, where one is given. -/
def Direction.doc? : Option Direction → Doc
  | none => .empty
  | some ascending => .text " ASC"
  | some descending => .text " DESC"

/-- The place of null values, where one is given. -/
def NullsOrder.doc? : Option NullsOrder → Doc
  | none => .empty
  | some first => .text " NULLS FIRST"
  | some last => .text " NULLS LAST"

/-- The wish about a common table expression, where there is one. -/
def Materialization.doc? : Option Materialization → Doc
  | none => .empty
  | some materialized => .text " MATERIALIZED"
  | some notMaterialized => .text " NOT MATERIALIZED"

/-- The words between two tables. -/
def JoinKind.text : JoinKind → String
  | inner => "INNER JOIN "
  | left => "LEFT JOIN "
  | right => "RIGHT JOIN "
  | full => "FULL JOIN "
  | cross => "CROSS JOIN "
  | naturalInner => "NATURAL INNER JOIN "
  | naturalLeft => "NATURAL LEFT JOIN "
  | naturalRight => "NATURAL RIGHT JOIN "
  | naturalFull => "NATURAL FULL JOIN "

/-- The words between two queries. -/
def SetOp.text : SetOp → String
  | union => " UNION "
  | unionAll => " UNION ALL "
  | unionDistinct => " UNION DISTINCT "
  | intersect => " INTERSECT "
  | intersectAll => " INTERSECT ALL "
  | except => " EXCEPT "
  | exceptAll => " EXCEPT ALL "
  | minus => " MINUS "

/-- The tables that are locked and the way to wait for them. -/
def Locking.details (lock : Locking) : Doc :=
  (if lock.tables.isEmpty then .empty
    else .text " OF " ++ .names "locking" "of" lock.tables) ++
    (match lock.wait with
    | none => .empty
    | some .nowait => .text " NOWAIT"
    | some .skipLocked => .text " SKIP LOCKED")

/-- A lock in the old spelling names neither tables nor a way to wait. -/
def Locking.doc (lock : Locking) : Doc :=
  match lock.mode with
  | .lockInShareMode => .text " LOCK IN SHARE MODE"
  | .update => .text " FOR UPDATE" ++ lock.details
  | .share => .text " FOR SHARE" ++ lock.details

end SqlPrinter
