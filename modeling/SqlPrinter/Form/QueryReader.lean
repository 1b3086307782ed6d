/-
Reading expressions and queries.  Four readers call one another; every call goes
to a value that lies deeper, so the depth of a value is enough for reading it.
-/
import SqlPrinter.Ast.Query
import SqlPrinter.Form.Leaf

namespace SqlPrinter.Form

/-- Readers for the nodes that lie deeper. -/
structure Readers where
  expr : Reader Expr
  table : Reader TableRef
  body : Reader QueryBody
  query : Reader Query

end SqlPrinter.Form

namespace SqlPrinter

open Form

variable (r : Readers)

def OrderItem.fields : Fields OrderItem :=
  mk <$> .required "expr" r.expr <*> .optional "dir" Direction.read <*>
    .optional "nulls" NullsOrder.read

def OrderItem.read : Reader OrderItem :=
  .record (fields r)

def FrameBound.variants : List (String × Fields FrameBound) :=
  [("unbounded_preceding", pure unboundedPreceding),
    ("preceding", preceding <$> .required "expr" r.expr),
    ("current_row", pure currentRow),
    ("following", following <$> .required "expr" r.expr),
    ("unbounded_following", pure unboundedFollowing)]

def WindowFrame.fields : Fields WindowFrame :=
  mk <$> .required "units" FrameUnits.read <*>
    .required "start" (.tagged (FrameBound.variants r)) <*>
    .optional "end" (.tagged (FrameBound.variants r))

def WindowSpec.fields : Fields WindowSpec :=
  mk <$> .optional "base" .text <*>
    .withDefault "partition_by" [] (.list r.expr) <*>
    .withDefault "order_by" [] (.list (OrderItem.read r)) <*>
    .optional "frame" (.record (WindowFrame.fields r))

def WindowSpec.read : Reader WindowSpec :=
  .record (fields r)

def Over.variants : List (String × Fields Over) :=
  [("named", named <$> .required "name" .text),
    ("spec", spec <$> WindowSpec.fields r)]

def Over.read : Reader Over :=
  .tagged (variants r)

def FunctionCall.fields : Fields FunctionCall :=
  mk <$> .required "name" .text <*> .optional "args" (.list r.expr) <*>
    .withDefault "args_parentheses" true .flag <*> .optional "separator" .text <*>
    .withDefault "parentheses" false .flag <*> .optional "over" (Over.read r) <*>
    .optional "collate" KeywordValue.read <*> .optional "suffix" r.expr

def FunctionCall.read : Reader FunctionCall :=
  .record (fields r)

def Aggregate.fields : Fields Aggregate :=
  mk <$> .required "name" .text <*> .withDefault "distinct" false .flag <*>
    .withDefault "args" [] (.list r.expr) <*>
    .withDefault "order_by" [] (.list (OrderItem.read r)) <*>
    .optional "separator" r.expr <*> .optional "filter" r.expr <*>
    .optional "over" (Over.read r)

def Aggregate.read : Reader Aggregate :=
  .record (fields r)

def DataType.fields : Fields DataType :=
  mk <$> .required "data_type" .text <*> .optional "length" .count <*>
    .optional "scale" .count <*> .withDefault "parentheses" false .flag <*>
    .optional "quoted" .text <*> .withDefault "suffix" [] (.list .text) <*>
    .optional "array" ArrayDim.read <*> .withDefault "values" [] (.list r.expr)

def DataType.read : Reader DataType :=
  .record (fields r)

def CastTail.fields : Fields CastTail :=
  mk <$> .required "operator" .text <*> .required "expr" r.expr

def Cast.fields : Fields Cast :=
  mk <$> .required "expr" r.expr <*> .required "target" (DataType.read r) <*>
    .required "symbol" CastForm.read <*> .optional "keyword" .text <*>
    .optional "tail" (.record (CastTail.fields r)) <*> .optional "alias" .text <*>
    .optional "collate" KeywordValue.read

def Cast.read : Reader Cast :=
  .record (fields r)

def Extract.fields : Fields Extract :=
  mk <$> .required "name" .text <*> .required "field" .text <*>
    .optional "cast_type" .text <*> .required "source" r.expr

def Extract.read : Reader Extract :=
  .record (fields r)

def AnyValueHaving.fields : Fields AnyValueHaving :=
  mk <$> .required "prefix" .text <*> .required "expr" r.expr

def AnyValue.fields : Fields AnyValue :=
  mk <$> .required "name" .text <*> .required "expr" r.expr <*>
    .optional "having" (.record (AnyValueHaving.fields r)) <*>
    .optional "over" (Over.read r)

def AnyValue.read : Reader AnyValue :=
  .record (fields r)

def Expr.variants : List (String × Fields Expr) :=
  [("column", column <$> ColumnRef.fields),
    ("star", star <$> .optional "table" .text),
    ("keyword", keyword <$> .required "value" .text),
    ("literal", literal <$> .required "value" Literal.read),
    ("param", parameter <$> .required "param" Parameter.read),
    ("var", var <$> .withDefault "prefix" "@" .text <*> .required "name" .text),
    ("binary",
      binary <$> .required "left" r.expr <*> .required "op" BinaryOp.read <*>
        .required "right" r.expr),
    ("unary", unary <$> .required "op" UnaryOp.read <*> .required "expr" r.expr),
    ("between",
      between <$> .required "expr" r.expr <*> .withDefault "not" false .flag <*>
        .required "low" r.expr <*> .required "high" r.expr),
    ("paren", paren <$> .required "expr" r.expr),
    ("list", list <$> .required "items" (.list r.expr)),
    ("function", function <$> FunctionCall.fields r),
    ("aggregate", aggregate <$> Aggregate.fields r),
    ("cast", cast <$> Cast.fields r),
    ("extract", extract <$> Extract.fields r),
    ("any_value", anyValue <$> AnyValue.fields r),
    ("case",
      case <$> .optional "operand" r.expr <*>
        .required "when_then" (.list (.pair r.expr r.expr)) <*>
        .optional "else_expr" r.expr),
    ("subquery", subquery <$> .required "query" r.query),
    ("collate", collate <$> .required "expr" r.expr <*>
      .required "collate" KeywordValue.read),
    ("full_text",
      fullText <$> .required "columns" (.list (.record ColumnRef.fields)) <*>
        .required "against" r.expr <*> .optional "mode" .text),
    ("interval", interval <$> .required "expr" r.expr <*> .required "unit" .text)]

def SelectItem.variants : List (String × Fields SelectItem) :=
  [("star", pure star),
    ("qualified_star", qualifiedStar <$> .required "table" .text),
    ("expr", expr <$> .required "expr" r.expr <*> .optional "alias" .text)]

def SelectItem.read : Reader SelectItem :=
  .tagged (variants r)

def GroupModifier.variants : List (String × Fields GroupModifier) :=
  [("rollup", pure rollup), ("cube", pure cube),
    ("grouping_sets", groupingSets <$> .required "sets" (.list (.list r.expr)))]

def IntoTarget.variants : List (String × Fields IntoTarget) :=
  [("vars", vars <$> .required "vars" (.list r.expr)),
    ("outfile", outfile <$> .required "file" .text <*> .optional "charset" .text),
    ("dumpfile", dumpfile <$> .required "file" .text),
    ("table", table <$> .required "name" .text)]

def SelectInto.fields : Fields SelectInto :=
  mk <$> .withDefault "position" .afterColumns IntoPosition.read <*>
    .required "target" (.tagged (IntoTarget.variants r))

def TableRef.variants : List (String × Fields TableRef) :=
  [("named",
      named <$> .optional "schema" .text <*> .required "name" .text <*>
        .optional "alias" .text),
    ("subquery", subquery <$> .required "query" r.query <*>
      .optional "alias" .text),
    ("function",
      function <$> .required "function" (FunctionCall.read r) <*>
        .optional "alias" .text),
    ("values",
      values <$> .required "rows" (.list (.list r.expr)) <*>
        .withDefault "row_keyword" false .flag <*> .optional "alias" .text),
    ("paren", paren <$> .required "table" r.table)]

def Join.fields : Fields Join :=
  mk <$> .required "kind" JoinKind.read <*> .required "table" r.table <*>
    .optional "on" r.expr <*> .optional "using" (.list .text)

def Join.read : Reader Join :=
  .record (fields r)

def NamedWindow.fields : Fields NamedWindow :=
  mk <$> .required "name" .text <*> .required "spec" (WindowSpec.read r)

/-- The fields of a SELECT, all of which may be missing. -/
def Select.fields : Fields Select :=
  mk <$> .withDefault "distinct" false .flag <*>
    .withDefault "distinct_on" [] (.list r.expr) <*>
    .withDefault "options" [] (.list .text) <*>
    .withDefault "items" [] (.list (SelectItem.read r)) <*>
    .optional "into" (.record (SelectInto.fields r)) <*>
    .withDefault "from" [] (.list r.table) <*>
    .withDefault "joins" [] (.list (Join.read r)) <*> .optional "where" r.expr <*>
    .withDefault "group_by" [] (.list r.expr) <*>
    .withDefault "group_by_modifiers" []
      (.list (.tagged (GroupModifier.variants r))) <*> .optional "having" r.expr <*>
        .withDefault "window" [] (.list (.record (NamedWindow.fields r))) <*>
    .withDefault "order_by" [] (.list (OrderItem.read r)) <*>
    .optional "limit" r.expr <*> .optional "offset" r.expr <*>
    .optional "locking" Locking.read

def Select.read : Reader Select :=
  .record (fields r)

def QueryBody.variants : List (String × Fields QueryBody) :=
  [("select", select <$> Select.fields r),
    ("set",
      combine <$> .required "left" r.body <*> .required "op" SetOp.read <*>
        .required "right" r.body)]

def Cte.fields : Fields Cte :=
  mk <$> .required "name" .text <*> .withDefault "columns" [] (.list .text) <*>
    .optional "materialized" Materialization.read <*> .required "query" r.query

def With.fields : Fields With :=
  mk <$> .withDefault "recursive" false .flag <*>
    .required "ctes" (.list (.record (Cte.fields r)))

def With.read : Reader With :=
  .record (fields r)

def Query.fields : Fields Query :=
  mk <$> .optional "with" (With.read r) <*> .required "body" r.body <*>
    .withDefault "order_by" [] (.list (OrderItem.read r)) <*>
    .optional "limit" r.expr <*> .optional "offset" r.expr

namespace Form.Readers

/-- No node lies deeper. -/
def none : Readers where
  expr _ _ := .error .shape
  table _ _ := .error .shape
  body _ _ := .error .shape
  query _ _ := .error .shape

/-- The readers one level up. -/
def above : Readers where
  expr := .tagged (Expr.variants r)
  table := .tagged (TableRef.variants r)
  body := .tagged (QueryBody.variants r)
  query := .record (Query.fields r)

/-- Readers for values up to some depth. -/
def upTo : Nat → Readers
  | 0 => none
  | depth + 1 => (upTo depth).above

/-- Read a value with readers that reach to the bottom of it. -/
def decode (reader : Readers → Reader α) (j : Json) : Except Fault α :=
  reader (upTo j.depth) false j

end Form.Readers

/-- The expression that a value is the written form of. -/
def Expr.ofJson (j : Json) : Except Fault Expr :=
  Readers.decode Readers.expr j

/-- The query that a value is the written form of. -/
def Query.ofJson (j : Json) : Except Fault Query :=
  Readers.decode Readers.query j

end SqlPrinter
