/-
Writing expressions and queries as JSON: one function for each type of the tree,
one for each kind of list in it.  Every field is written, a missing one as null.
-/
import SqlPrinter.Ast.Query
import SqlPrinter.Form.Leaf

namespace SqlPrinter.Form.Write

mutual

/-- An expression. -/
def expr : Expr → Json
  | .column ref => .tagged "column" ref.entries
  | .star table => .tagged "star" [("table", .optional .string table)]
  | .keyword word => .tagged "keyword" [("value", .string word)]
  | .literal value => .tagged "literal" [("value", value.toJson)]
  | .parameter param => .tagged "param" [("param", param.toJson)]
  | .var sigil name =>
      .tagged "var" [("prefix", .string sigil), ("name", .string name)]
  | .binary left op right =>
      .tagged "binary" [("left", expr left), ("op", op.toJson),
        ("right", expr right)]
  | .unary op operand => .tagged "unary" [("op", op.toJson), ("expr", expr operand)]
  | .between subject negated low high =>
      .tagged "between"
        [("expr", expr subject), ("not", .bool negated), ("low", expr low),
          ("high", expr high)]
  | .paren inner => .tagged "paren" [("expr", expr inner)]
  | .list items => .tagged "list" [("items", .array (exprs items))]
  | .function call => .tagged "function" (functionCall call)
  | .aggregate call => .tagged "aggregate" (aggregate call)
  | .cast conversion => .tagged "cast" (cast conversion)
  | .extract call => .tagged "extract" (extract call)
  | .anyValue call => .tagged "any_value" (anyValue call)
  | .case operand branches otherwise =>
      .tagged "case"
        [("operand", expr? operand), ("when_then", .array (caseBranches branches)),
          ("else_expr", expr? otherwise)]
  | .subquery q => .tagged "subquery" [("query", .object (query q))]
  | .collate subject collation =>
      .tagged "collate" [("expr", expr subject), ("collate", collation.toJson)]
  | .fullText columns against mode =>
      .tagged "full_text"
        [("columns", .array (columns.map ColumnRef.toJson)),
          ("against", expr against), ("mode", .optional .string mode)]
  | .interval amount unit =>
      .tagged "interval" [("expr", expr amount), ("unit", .string unit)]

def exprs : List Expr → List Json
  | [] => []
  | e :: es => expr e :: exprs es

def expr? : Option Expr → Json
  | none => .null
  | some e => expr e

def rows : List (List Expr) → List Json
  | [] => []
  | row :: rest => .array (exprs row) :: rows rest

def caseBranches : List (Expr × Expr) → List Json
  | [] => []
  | (condition, value) :: rest =>
      .array [expr condition, expr value] :: caseBranches rest

def functionCall : FunctionCall → List (String × Json)
  | { name, args, argsParentheses, separator, parentheses, window, collate,
      suffix } =>
      [("name", .string name), ("args", exprs? args),
        ("args_parentheses", .bool argsParentheses),
        ("separator", .optional .string separator),
        ("parentheses", .bool parentheses), ("over", over? window),
        ("collate", .optional KeywordValue.toJson collate),
        ("suffix", expr? suffix)]

def exprs? : Option (List Expr) → Json
  | none => .null
  | some es => .array (exprs es)

def aggregate : Aggregate → List (String × Json)
  | { name, distinct, args, orderBy, separator, filter, window } =>
      [("name", .string name), ("distinct", .bool distinct),
        ("args", .array (exprs args)), ("order_by", .array (orderItems orderBy)),
        ("separator", expr? separator), ("filter", expr? filter),
        ("over", over? window)]

def cast : Cast → List (String × Json)
  | { subject, target, form, keyword, tail, rename, collate } =>
      [("expr", expr subject), ("target", .object (dataType target)),
        ("symbol", .string form.word), ("keyword", .optional .string keyword),
        ("tail", castTail? tail), ("alias", .optional .string rename),
        ("collate", .optional KeywordValue.toJson collate)]

def castTail? : Option CastTail → Json
  | none => .null
  | some { operator, operand } =>
      .object [("operator", .string operator), ("expr", expr operand)]

def dataType : DataType → List (String × Json)
  | { name, length, scale, parentheses, quoted, suffix, array, values } =>
      [("data_type", .string name), ("length", .optional .count length),
        ("scale", .optional .count scale), ("parentheses", .bool parentheses),
        ("quoted", .optional .string quoted), ("suffix", .strings suffix),
        ("array", .optional ArrayDim.toJson array),
        ("values", .array (exprs values))]

def extract : Extract → List (String × Json)
  | { name, field, castType, source } =>
      [("name", .string name), ("field", .string field),
        ("cast_type", .optional .string castType), ("source", expr source)]

def anyValue : AnyValue → List (String × Json)
  | { name, subject, having, window } =>
      [("name", .string name), ("expr", expr subject),
        ("having", anyValueHaving? having), ("over", over? window)]

def anyValueHaving? : Option AnyValueHaving → Json
  | none => .null
  | some { bound, subject } =>
      .object [("prefix", .string bound), ("expr", expr subject)]

def over? : Option Over → Json
  | none => .null
  | some (.named name) => .tagged "named" [("name", .string name)]
  | some (.spec window) => .tagged "spec" (windowSpec window)

def windowSpec : WindowSpec → List (String × Json)
  | { base, partitionBy, orderBy, frame } =>
      [("base", .optional .string base),
        ("partition_by", .array (exprs partitionBy)),
        ("order_by", .array (orderItems orderBy)), ("frame", windowFrame? frame)]

def windowFrame? : Option WindowFrame → Json
  | none => .null
  | some { units, first, last } =>
      .object
        [("units", .string units.word), ("start", frameBound first),
          ("end",
            match last with
            | none => .null
            | some last => frameBound last)]

def frameBound : FrameBound → Json
  | .unboundedPreceding => .tagged "unbounded_preceding" []
  | .preceding distance => .tagged "preceding" [("expr", expr distance)]
  | .currentRow => .tagged "current_row" []
  | .following distance => .tagged "following" [("expr", expr distance)]
  | .unboundedFollowing => .tagged "unbounded_following" []

def orderItems : List OrderItem → List Json
  | [] => []
  | { key, direction, nulls } :: rest =>
      .object
        [("expr", expr key), ("dir", .optional Direction.toJson direction),
          ("nulls", .optional NullsOrder.toJson nulls)] :: orderItems rest

def query : Query → List (String × Json)
  | { ctes, body, orderBy, limit, offset } =>
      [("with", with? ctes), ("body", queryBody body),
        ("order_by", .array (orderItems orderBy)), ("limit", expr? limit),
        ("offset", expr? offset)]

def queryBody : QueryBody → Json
  | .select s => .tagged "select" (select s)
  | .combine left op right =>
      .tagged "set"
        [("left", queryBody left), ("op", .string op.word),
          ("right", queryBody right)]

def select : Select → List (String × Json)
  | { distinct, distinctOn, options, items, into, tables, joins, condition, groupBy,
      groupModifiers, having, windows, orderBy, limit, offset, locking } =>
      [("distinct", .bool distinct), ("distinct_on", .array (exprs distinctOn)),
        ("options", .strings options), ("items", .array (selectItems items)),
        ("into", into? into), ("from", .array (tableRefs tables)),
        ("joins", .array (joinList joins)), ("where", expr? condition),
        ("group_by", .array (exprs groupBy)),
        ("group_by_modifiers", .array (groupModifierList groupModifiers)),
        ("having", expr? having), ("window", .array (namedWindows windows)),
        ("order_by", .array (orderItems orderBy)), ("limit", expr? limit),
        ("offset", expr? offset), ("locking", .optional Locking.toJson locking)]

def selectItems : List SelectItem → List Json
  | [] => []
  | .star :: rest => .tagged "star" [] :: selectItems rest
  | .qualifiedStar table :: rest =>
      .tagged "qualified_star" [("table", .string table)] :: selectItems rest
  | .expr value rename :: rest =>
      .tagged "expr" [("expr", expr value), ("alias", .optional .string rename)] ::
        selectItems rest

def groupModifierList : List GroupModifier → List Json
  | [] => []
  | .rollup :: rest => .tagged "rollup" [] :: groupModifierList rest
  | .cube :: rest => .tagged "cube" [] :: groupModifierList rest
  | .groupingSets sets :: rest =>
      .tagged "grouping_sets" [("sets", .array (rows sets))] ::
        groupModifierList rest

def into? : Option SelectInto → Json
  | none => .null
  | some { position, target } =>
      .object [("position", .string position.word), ("target", intoTarget target)]

def intoTarget : IntoTarget → Json
  | .vars vars => .tagged "vars" [("vars", .array (exprs vars))]
  | .outfile file charset =>
      .tagged "outfile" [("file", .string file),
        ("charset", .optional .string charset)]
  | .dumpfile file => .tagged "dumpfile" [("file", .string file)]
  | .table name => .tagged "table" [("name", .string name)]

def tableRefs : List TableRef → List Json
  | [] => []
  | table :: rest => tableRef table :: tableRefs rest

def tableRef : TableRef → Json
  | .named schema name rename =>
      .tagged "named"
        [("schema", .optional .string schema), ("name", .string name),
          ("alias", .optional .string rename)]
  | .subquery q rename =>
      .tagged "subquery" [("query", .object (query q)),
        ("alias", .optional .string rename)]
  | .function call rename =>
      .tagged "function"
        [("function", .object (functionCall call)),
          ("alias", .optional .string rename)]
  | .values values rowKeyword rename =>
      .tagged "values"
        [("rows", .array (rows values)), ("row_keyword", .bool rowKeyword),
          ("alias", .optional .string rename)]
  | .paren table => .tagged "paren" [("table", tableRef table)]

def joinList : List Join → List Json
  | [] => []
  | { kind, table, condition, columns } :: rest =>
      .object
        [("kind", .string kind.word), ("table", tableRef table),
          ("on", expr? condition),
          ("using", .optional .strings columns)] :: joinList rest

def namedWindows : List NamedWindow → List Json
  | [] => []
  | { name, window } :: rest =>
      .object [("name", .string name), ("spec", .object (windowSpec window))] ::
        namedWindows rest

def with? : Option With → Json
  | none => .null
  | some { recursive, tables } =>
      .object [("recursive", .bool recursive), ("ctes", .array (cteList tables))]

def cteList : List Cte → List Json
  | [] => []
  | { name, columns, materialized, query := q } :: rest =>
      .object
        [("name", .string name), ("columns", .strings columns),
          ("materialized", .optional Materialization.toJson materialized),
          ("query", .object (query q))] :: cteList rest

end

end SqlPrinter.Form.Write

namespace SqlPrinter

def Expr.toJson (e : Expr) : Json :=
  Form.Write.expr e

def DataType.toJson (type : DataType) : Json :=
  .object (Form.Write.dataType type)

def FunctionCall.toJson (call : FunctionCall) : Json :=
  .object (Form.Write.functionCall call)

def Query.toJson (q : Query) : Json :=
  .object (Form.Write.query q)

end SqlPrinter
