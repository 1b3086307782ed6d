/-
The JSON form of the parts that contain no expression.  Each part has its
fields or its word for reading, and a function for writing beside it.
-/
import SqlPrinter.Ast.Leaf
import SqlPrinter.Ast.Operator
import SqlPrinter.Dialect
import SqlPrinter.Form.Reader

namespace SqlPrinter

namespace Json

/-- A value that may be missing, which is written as null. -/
def optional (write : α → Json) : Option α → Json
  | none => null
  | some a => write a

/-- A number of a machine word. -/
def count (n : UInt64) : Json :=
  natural n.toNat

/-- A list of texts. -/
def strings (ss : List String) : Json :=
  array (ss.map string)

/-- A variant: its tag and its fields. -/
def tagged (tag : String) (fields : List (String × Json)) : Json :=
  object (("type", string tag) :: fields)

end Json

namespace Dialect

/-- A dialect is written by its name. -/
def read : Form.Reader Dialect :=
  .word all name

def toJson (d : Dialect) : Json :=
  .string d.name

end Dialect

namespace ColumnRef

def fields : Form.Fields ColumnRef :=
  mk <$> .optional "schema" .text <*> .optional "table" .text <*>
    .required "column" .text

def entries (ref : ColumnRef) : List (String × Json) :=
  [("schema", .optional .string ref.schema), ("table", .optional .string ref.table),
    ("column", .string ref.column)]

def toJson (ref : ColumnRef) : Json :=
  .object ref.entries

end ColumnRef

namespace ObjectName

def fields : Form.Fields ObjectName :=
  mk <$> .optional "schema" .text <*> .required "name" .text

def read : Form.Reader ObjectName :=
  .record fields

def toJson (object : ObjectName) : Json :=
  .object [("schema", .optional .string object.schema),
    ("name", .string object.name)]

end ObjectName

namespace KeywordValue

def fields : Form.Fields KeywordValue :=
  mk <$> .required "keyword" .text <*> .optional "symbol" .text <*>
    .required "value" .text

def read : Form.Reader KeywordValue :=
  .record fields

def toJson (kv : KeywordValue) : Json :=
  .object
    [("keyword", .string kv.keyword), ("symbol", .optional .string kv.symbol),
      ("value", .string kv.value)]

end KeywordValue

namespace HexForm

def word : HexForm → String
  | quoted => "x_quote"
  | zeroX => "zero_x"

def read : Form.Reader HexForm :=
  .word [quoted, zeroX] word

end HexForm

namespace BitForm

def word : BitForm → String
  | quoted => "b_quote"
  | zeroB => "zero_b"

def read : Form.Reader BitForm :=
  .word [quoted, zeroB] word

end BitForm

namespace Literal

def variants : List (String × Form.Fields Literal) :=
  [("string", string <$> .required "value" .text <*> .optional "prefix" .text),
    ("national", national <$> .required "value" .text),
    ("hex",
      hex <$> .required "value" .text <*>
        .withDefault "style" .quoted HexForm.read <*> .optional "prefix" .text),
    ("bit",
      bit <$> .required "value" .text <*>
        .withDefault "style" .quoted BitForm.read <*> .optional "prefix" .text),
    ("number", number <$> .required "value" .text),
    ("bool", bool <$> .required "value" .flag),
    ("null", pure null),
    ("typed", typed <$> .required "kind" .text <*> .required "value" .text)]

def read : Form.Reader Literal :=
  .tagged variants

def toJson : Literal → Json
  | string value charset =>
      .tagged "string" [("value", .string value),
        ("prefix", .optional .string charset)]
  | national value => .tagged "national" [("value", .string value)]
  | hex digits form charset =>
      .tagged "hex"
        [("value", .string digits), ("style", .string form.word),
          ("prefix", .optional .string charset)]
  | bit digits form charset =>
      .tagged "bit"
        [("value", .string digits), ("style", .string form.word),
          ("prefix", .optional .string charset)]
  | number digits => .tagged "number" [("value", .string digits)]
  | bool value => .tagged "bool" [("value", .bool value)]
  | null => .tagged "null" []
  | typed kind value =>
      .tagged "typed" [("kind", .string kind), ("value", .string value)]

end Literal

namespace Parameter

def variants : List (String × Form.Fields Parameter) :=
  [("question", pure question), ("dollar", dollar <$> .required "index" .count),
    ("named", named <$> .required "name" .text), ("bind", pure bind)]

def read : Form.Reader Parameter :=
  .tagged variants

def toJson : Parameter → Json
  | question => .tagged "question" []
  | dollar index => .tagged "dollar" [("index", .count index)]
  | named name => .tagged "named" [("name", .string name)]
  | bind => .tagged "bind" []

end Parameter

namespace BinaryOp

/-- Every text is an operator. -/
def read : Form.Reader BinaryOp := fun inVariant j =>
  (Form.Reader.text inVariant j).map ofText

def toJson (op : BinaryOp) : Json :=
  .string op.text

end BinaryOp

namespace UnaryOp

/-- A text that is an operator. -/
def read : Form.Reader UnaryOp := fun inVariant j => do
  let s ← Form.Reader.text inVariant j
  match ofText? s with
  | some op => .ok op
  | none => .error (.unknownUnary s)

def toJson (op : UnaryOp) : Json :=
  .string op.text

end UnaryOp

namespace CastForm

def word : CastForm → String
  | keyword => "as"
  | doubleColon => "::"

def read : Form.Reader CastForm :=
  .word [keyword, doubleColon] word

end CastForm

namespace ArrayDim

def word : ArrayDim → String
  | one => "one"
  | two => "two"

def read : Form.Reader ArrayDim :=
  .word [one, two] word

def toJson (dim : ArrayDim) : Json :=
  .string dim.word

end ArrayDim

namespace FrameUnits

def word : FrameUnits → String
  | rows => "rows"
  | range => "range"
  | groups => "groups"

def read : Form.Reader FrameUnits :=
  .word [rows, range, groups] word

end FrameUnits

namespace Direction

def word : Direction → String
  | ascending => "asc"
  | descending => "desc"

def read : Form.Reader Direction :=
  .word [ascending, descending] word

def toJson (d : Direction) : Json :=
  .string d.word

end Direction

namespace NullsOrder

def word : NullsOrder → String
  | first => "first"
  | last => "last"

def read : Form.Reader NullsOrder :=
  .word [first, last] word

def toJson (n : NullsOrder) : Json :=
  .string n.word

end NullsOrder

namespace Materialization

def word : Materialization → String
  | materialized => "materialized"
  | notMaterialized => "not_materialized"

def read : Form.Reader Materialization :=
  .word [materialized, notMaterialized] word

def toJson (m : Materialization) : Json :=
  .string m.word

end Materialization

namespace IntoPosition

def word : IntoPosition → String
  | afterColumns => "column"
  | beforeLock => "from"
  | atEnd => "end"

def read : Form.Reader IntoPosition :=
  .word [afterColumns, beforeLock, atEnd] word

end IntoPosition

namespace JoinKind

def word : JoinKind → String
  | inner => "inner"
  | left => "left"
  | right => "right"
  | full => "full"
  | cross => "cross"
  | naturalInner => "natural_inner"
  | naturalLeft => "natural_left"
  | naturalRight => "natural_right"
  | naturalFull => "natural_full"

def read : Form.Reader JoinKind :=
  .word [inner, left, right, full, cross, naturalInner, naturalLeft, naturalRight,
    naturalFull] word

end JoinKind

namespace SetOp

/-- The word for the operator. -/
def word : SetOp → String
  | union => "union"
  | unionAll => "union_all"
  | unionDistinct => "union_distinct"
  | intersect => "intersect"
  | intersectAll => "intersect_all"
  | except => "except"
  | exceptAll => "except_all"
  | minus => "minus"

def read : Form.Reader SetOp :=
  .word [union, unionAll, unionDistinct, intersect, intersectAll, except, exceptAll,
    minus] word

end SetOp

namespace LockMode

def word : LockMode → String
  | update => "update"
  | share => "share"
  | lockInShareMode => "lock_in_share_mode"

def read : Form.Reader LockMode :=
  .word [update, share, lockInShareMode] word

end LockMode

namespace LockWait

def word : LockWait → String
  | nowait => "nowait"
  | skipLocked => "skip_locked"

def read : Form.Reader LockWait :=
  .word [nowait, skipLocked] word

def toJson (w : LockWait) : Json :=
  .string w.word

end LockWait

namespace Locking

def fields : Form.Fields Locking :=
  mk <$> .required "mode" LockMode.read <*> .withDefault "of" [] (.list .text) <*>
    .optional "wait" LockWait.read

def read : Form.Reader Locking :=
  .record fields

def toJson (lock : Locking) : Json :=
  .object
    [("mode", .string lock.mode.word), ("of", .strings lock.tables),
      ("wait", .optional LockWait.toJson lock.wait)]

end Locking

end SqlPrinter
