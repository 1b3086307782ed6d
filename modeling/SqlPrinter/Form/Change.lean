/-
The JSON form of INSERT, UPDATE and DELETE.
-/
import SqlPrinter.Ast.Change
import SqlPrinter.Form.QueryReader
import SqlPrinter.Form.QueryWriter

namespace SqlPrinter

open Form

variable (r : Readers)

namespace Assignment

def fields : Fields Assignment :=
  mk <$> .optional "table" .text <*> .required "col" .text <*>
    .required "value" r.expr <*> .withDefault "from_inserted" false .flag

def read : Reader Assignment :=
  .record (fields r)

def toJson (a : Assignment) : Json :=
  .object
    [("table", .optional .string a.table), ("col", .string a.column),
      ("value", a.value.toJson), ("from_inserted", .bool a.fromInserted)]

end Assignment

namespace RowSource

def variants : List (String × Fields RowSource) :=
  [("values", values <$> .required "rows" (.list (.list r.expr))),
    ("query", query <$> .required "query" r.query),
    ("set", assignments <$> .required "assignments" (.list (Assignment.read r)))]

def toJson : RowSource → Json
  | values rows => .tagged "values" [("rows", .array (Write.rows rows))]
  | query q => .tagged "query" [("query", q.toJson)]
  | assignments list =>
      .tagged "set" [("assignments", .array (list.map Assignment.toJson))]

end RowSource

namespace ConflictAction

def variants : List (String × Fields ConflictAction) :=
  [("do_nothing", pure doNothing),
    ("do_update",
      doUpdate <$> .required "set" (.list (Assignment.read r)) <*>
        .optional "where_predicate" r.expr)]

def toJson : ConflictAction → Json
  | doNothing => .tagged "do_nothing" []
  | doUpdate list condition =>
      .tagged "do_update"
        [("set", .array (list.map Assignment.toJson)),
          ("where_predicate", .optional Expr.toJson condition)]

end ConflictAction

namespace ConflictClause

def fields : Fields ConflictClause :=
  mk <$> .withDefault "target_columns" [] (.list .text) <*>
    .optional "on_constraint" .text <*>
    .optional "action" (.tagged (ConflictAction.variants r))

def toJson (clause : ConflictClause) : Json :=
  .object
    [("target_columns", .strings clause.columns),
      ("on_constraint", .optional .string clause.constraint),
      ("action", .optional ConflictAction.toJson clause.action)]

end ConflictClause

namespace Insert

def fields : Fields Insert :=
  mk <$> .withDefault "replace" false .flag <*>
    .withDefault "ignore" false .flag <*> .withDefault "into" true .flag <*>
    .required "table" r.table <*> .withDefault "columns" [] (.list .text) <*>
    .required "source" (.tagged (RowSource.variants r)) <*>
    .optional "on_conflict" (.record (ConflictClause.fields r)) <*>
    .withDefault "returning" [] (.list (SelectItem.read r))

def entries (i : Insert) : List (String × Json) :=
  [("replace", .bool i.replace), ("ignore", .bool i.ignore), ("into", .bool i.into),
    ("table", Write.tableRef i.table), ("columns", .strings i.columns),
    ("source", i.source.toJson),
    ("on_conflict", .optional ConflictClause.toJson i.conflict),
    ("returning", .array (Write.selectItems i.returning))]

end Insert

namespace UpdateFallback

def word : UpdateFallback → String
  | replace => "replace"
  | ignore => "ignore"

def read : Reader UpdateFallback :=
  .word [replace, ignore] word

def toJson (fallback : UpdateFallback) : Json :=
  .string fallback.word

end UpdateFallback

namespace Update

def fields : Fields Update :=
  mk <$> .optional "with" (With.read r) <*>
    .optional "sqlite_or" UpdateFallback.read <*> .required "table" r.table <*>
    .withDefault "joins" [] (.list (Join.read r)) <*>
    .required "set" (.list (Assignment.read r)) <*>
    .withDefault "from" [] (.list r.table) <*> .optional "where" r.expr <*>
    .withDefault "order_by" [] (.list (OrderItem.read r)) <*>
    .optional "limit" r.expr <*>
    .withDefault "returning" [] (.list (SelectItem.read r))

def entries (u : Update) : List (String × Json) :=
  [("with", Write.with? u.ctes),
    ("sqlite_or", .optional UpdateFallback.toJson u.fallback),
    ("table", Write.tableRef u.table), ("joins", .array (Write.joinList u.joins)),
    ("set", .array (u.assignments.map Assignment.toJson)),
    ("from", .array (Write.tableRefs u.tables)), ("where", Write.expr? u.condition),
    ("order_by", .array (Write.orderItems u.orderBy)),
    ("limit", Write.expr? u.limit),
    ("returning", .array (Write.selectItems u.returning))]

end Update

namespace Delete

def fields : Fields Delete :=
  mk <$> .optional "with" (With.read r) <*>
    .withDefault "targets" [] (.list .text) <*> .required "from" (.list r.table) <*>
    .withDefault "joins" [] (.list (Join.read r)) <*>
    .withDefault "using" [] (.list r.table) <*> .optional "where" r.expr <*>
    .withDefault "order_by" [] (.list (OrderItem.read r)) <*>
    .optional "limit" r.expr <*>
    .withDefault "returning" [] (.list (SelectItem.read r))

def entries (d : Delete) : List (String × Json) :=
  [("with", Write.with? d.ctes), ("targets", .strings d.targets),
    ("from", .array (Write.tableRefs d.tables)),
    ("joins", .array (Write.joinList d.joins)),
    ("using", .array (Write.tableRefs d.usingTables)),
    ("where", Write.expr? d.condition),
    ("order_by", .array (Write.orderItems d.orderBy)),
    ("limit", Write.expr? d.limit),
    ("returning", .array (Write.selectItems d.returning))]

end Delete

end SqlPrinter
