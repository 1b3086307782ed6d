/-
The layout of expressions and queries: one function for each type of the tree,
one for each kind of list in it.  The lists of layouts are the maps of the
lists of nodes.
-/
import SqlPrinter.Layout.Clause

namespace SqlPrinter.Layout

variable (settings : Settings)

mutual

/-- An expression.  A call is printed as a whole or not at all. -/
def expr : Expr → Doc
  | .column ref => ref.doc
  | .star table =>
      (match Text.nonEmpty table with
      | none => .empty
      | some table => .name table ++ .text ".") ++ .text "*"
  | .keyword word => .requireText word "keyword" "value" ++ .word word
  | .literal value => value.doc settings
  | .parameter param => param.doc
  | .var sigil name =>
      .requireText name "var" "name" ++ .verbatim sigil ++ .verbatim name
  | .binary left op right =>
      .require op.isPrintable "binary" "op" ++ expr left ++ .text " " ++ op.doc ++
        .text " " ++ expr right
  | .unary op operand => .text op.text ++ .textIf op.isWord " " ++ expr operand
  | .between subject negated low high =>
      expr subject ++ .text (if negated then " NOT BETWEEN " else " BETWEEN ") ++
        expr low ++ .text " AND " ++ expr high
  | .paren inner => .parens (expr inner)
  | .list items => .parens (.commas (exprs items))
  | .function call => .isolated (functionCall call)
  | .aggregate call => .isolated (aggregate call)
  | .cast conversion => .isolated (castExpr conversion)
  | .extract call => .isolated (extractCall call)
  | .anyValue call => .isolated (anyValue call)
  | .case operand branches otherwise =>
      .require (!branches.isEmpty) "case" "when_then" ++ .text "CASE" ++
        .clause " " (expr? operand) ++ .concat (caseBranches branches) ++
        .clause " ELSE " (expr? otherwise) ++ .text " END"
  | .subquery query => .parens (queryDoc query)
  | .collate subject collation => expr subject ++ .text " " ++ collation.doc
  | .fullText columns against mode =>
      .require (!columns.isEmpty) "full_text" "columns" ++ .text "MATCH " ++
        .parens (.commas (columns.map ColumnRef.doc)) ++ .text " AGAINST " ++
        .parens (expr against ++ .clause " " ((Text.nonEmpty mode).map .word))
  | .interval amount unit =>
      .requireText unit "interval" "unit" ++ .text "INTERVAL " ++ expr amount ++
        .text " " ++ .word unit

/-- Expressions in order. -/
def exprs : List Expr → List Doc
  | [] => []
  | e :: es => expr e :: exprs es

/-- An expression that may be missing. -/
def expr? : Option Expr → Option Doc
  | none => none
  | some e => some (expr e)

/-- Rows of expressions. -/
def rows : List (List Expr) → List (List Doc)
  | [] => []
  | r :: rs => exprs r :: rows rs

/-- The branches of a CASE. -/
def caseBranches : List (Expr × Expr) → List Doc
  | [] => []
  | (condition, value) :: rest =>
      (.text " WHEN " ++ expr condition ++ .text " THEN " ++ expr value) ::
        caseBranches rest

/-- A call of a scalar function. -/
def functionCall : FunctionCall → Doc
  | { name, args, argsParentheses, separator, parentheses, window, collate,
      suffix } =>
      call name (exprs? args) argsParentheses separator parentheses
        (overDoc window) collate
        (.optional (expr? suffix))

/-- Arguments that may be missing. -/
def exprs? : Option (List Expr) → Option (List Doc)
  | none => none
  | some es => some (exprs es)

/-- A call of an aggregate function. -/
def aggregate : Aggregate → Doc
  | { name, distinct, args, orderBy, separator, filter, window } =>
      .requireText name "aggregate" "name" ++
        .fragments " "
          [.word name ++
              .parens
                (.textIf distinct "DISTINCT " ++ .commas (exprs args) ++
                  Layout.orderBy (orderItems orderBy) ++
                  .clause " SEPARATOR " (expr? separator)),
            (match expr? filter with
              | none => .empty
              | some condition =>
                  .text "FILTER " ++ .parens (.text "WHERE " ++ condition)),
            overDoc window]

/-- A cast. -/
def castExpr : Cast → Doc
  | { subject, target, form, keyword, tail, rename, collate } =>
      cast (expr subject) target form keyword (castTailDoc tail) rename collate

/-- What follows a cast. -/
def castTailDoc : Option CastTail → Doc
  | none => .empty
  | some { operator, operand } => castTail operator (expr operand)

/-- A type inside a column definition. -/
def typeDoc : DataType → Doc
  | type@{ values, .. } => dataType type (exprs values)

/-- The EXTRACT function. -/
def extractCall : Extract → Doc
  | { name, field, castType, source } => extract name field castType (expr source)

/-- The ANY_VALUE function. -/
def anyValue : AnyValue → Doc
  | { name, subject, having, window } =>
      .requireText name "any_value" "name" ++
        .fragments " " [.word name ++
          .parens (expr subject ++ anyValueHaving having), overDoc window]

/-- The HAVING inside a call of ANY_VALUE. -/
def anyValueHaving : Option AnyValueHaving → Doc
  | none => .empty
  | some { bound, subject } =>
      .requireText bound "any_value" "having.prefix" ++ .text " HAVING " ++
        .word bound ++ .text " " ++ expr subject

/-- The window of a call. -/
def overDoc : Option Over → Doc
  | none => .empty
  | some window => overClause window

/-- A named window, or a window in parentheses. -/
def overClause : Over → Doc
  | .named name =>
      .requireText name "over" "name" ++ .text "OVER " ++ .verbatim name
  | .spec window => .text "OVER " ++ .parens (windowSpec window)

/-- What stands between the parentheses of a window. -/
def windowSpec : WindowSpec → Doc
  | { base, partitionBy, orderBy, frame } =>
      .fragments " "
        [.optional (base.map .verbatim),
          (if partitionBy.isEmpty then .empty
            else .text "PARTITION BY " ++ .commas (exprs partitionBy)),
          (if orderBy.isEmpty then .empty
            else .text "ORDER BY " ++ .commas (orderItems orderBy)),
          windowFrame frame]

/-- The frame of a window; two bounds are written with BETWEEN. -/
def windowFrame : Option WindowFrame → Doc
  | none => .empty
  | some { units, first, last } =>
      .text units.text ++ .text " " ++
        match last with
        | none => frameBound first
        | some last =>
            .text "BETWEEN " ++ frameBound first ++ .text " AND " ++ frameBound last

/-- One end of a window frame. -/
def frameBound : FrameBound → Doc
  | .unboundedPreceding => .text "UNBOUNDED PRECEDING"
  | .preceding distance => expr distance ++ .text " PRECEDING"
  | .currentRow => .text "CURRENT ROW"
  | .following distance => expr distance ++ .text " FOLLOWING"
  | .unboundedFollowing => .text "UNBOUNDED FOLLOWING"

/-- Sort keys in order. -/
def orderItems : List OrderItem → List Doc
  | [] => []
  | { key, direction, nulls } :: rest =>
      orderItem settings (expr key) direction nulls :: orderItems rest

/-- A query: its common table expressions, its body, and what applies to the
whole of it. -/
def queryDoc : Query → Doc
  | { ctes, body, orderBy, limit, offset } =>
      withDoc ctes ++ bodyDoc body ++ Layout.orderBy (orderItems orderBy) ++
        Layout.limit settings (expr? limit) (expr? offset)

/-- A body; combined bodies stand side by side without parentheses. -/
def bodyDoc : QueryBody → Doc
  | .select select => selectDoc select
  | .combine left op right => bodyDoc left ++ .text op.text ++ bodyDoc right

/-- A SELECT. -/
def selectDoc : Select → Doc
  | { distinct, distinctOn, options, items, into, tables, joins, condition, groupBy,
      groupModifiers, having, windows, orderBy, limit, offset, locking } =>
      .text "SELECT " ++
        (if distinctOn.isEmpty then .textIf distinct "DISTINCT "
          else .text "DISTINCT ON " ++ .parens (.commas (exprs distinctOn)) ++
            .text " ") ++
        .concat ((options.filter (· ≠ "")).map (.word · ++ .text " ")) ++
        (if items.isEmpty then .text "*" else .commas (selectItems items)) ++
        intoAt .afterColumns into ++
        (if tables.isEmpty then .empty
          else .text " FROM " ++
            Layout.tables (tableRefs tables) (joinDocs joins)) ++
        .clause " WHERE " (expr? condition) ++
        Layout.groupBy settings (exprs groupBy) groupModifiers
          (groupingSets groupModifiers) ++
        .clause " HAVING " (expr? having) ++
        (if windows.isEmpty then .empty
          else .text " WINDOW " ++ .commas (namedWindows windows)) ++
        Layout.orderBy (orderItems orderBy) ++
        Layout.limit settings (expr? limit) (expr? offset) ++
        intoAt .beforeLock into ++ .optional (locking.map Locking.doc) ++
        intoAt .atEnd into

/-- Result columns in order. -/
def selectItems : List SelectItem → List Doc
  | [] => []
  | item :: rest => selectItem item :: selectItems rest

/-- A result column. -/
def selectItem : SelectItem → Doc
  | .star => .text "*"
  | .qualifiedStar table =>
      .requireText table "select item" "table" ++ .name table ++ .text ".*"
  | .expr value rename => expr value ++ .rename settings.asBeforeColumnName rename

/-- The sets of the first modifier that has any, each in parentheses. -/
def groupingSets : List GroupModifier → Option Doc
  | [] => none
  | .groupingSets sets :: _ =>
      some (.commas ((rows sets).map fun keys => .parens (.commas keys)))
  | .rollup :: rest | .cube :: rest => groupingSets rest

/-- The INTO clause, at the place that it asks for. -/
def intoAt (position : IntoPosition) : Option SelectInto → Doc
  | none => .empty
  | some { position := wanted, target } =>
      if wanted = position then .text " INTO " ++ intoTarget target else .empty

/-- Where the rows go. -/
def intoTarget : IntoTarget → Doc
  | .vars vars => .require (!vars.isEmpty) "into" "vars" ++ .commas (exprs vars)
  | .outfile file charset =>
      .text "OUTFILE " ++ .string file ++
        .clause " CHARACTER SET " ((Text.nonEmpty charset).map .verbatim)
  | .dumpfile file => .text "DUMPFILE " ++ .string file
  | .table name => .name name

/-- Sources of rows in order. -/
def tableRefs : List TableRef → List Doc
  | [] => []
  | table :: rest => tableRef table :: tableRefs rest

/-- A source of rows. -/
def tableRef : TableRef → Doc
  | .named schema name rename =>
      .requireText name "table" "name" ++
        .path ((Text.nonEmpty schema).toList ++ [name]) ++
        .rename settings.asBeforeTableName rename
  | .subquery query rename =>
      .parens (queryDoc query) ++ .rename settings.asBeforeTableName rename
  | .function call rename =>
      .isolated (functionCall call) ++ .rename settings.asBeforeTableName rename
  | .values values rowKeyword rename =>
      .require (!values.isEmpty) "values" "rows" ++
        .parens
          (.text "VALUES " ++
            .commas ((rows values).map fun row =>
              .textIf rowKeyword "ROW" ++ valueRow row)) ++
        .rename settings.asBeforeTableName rename
  | .paren table => .parens (tableRef table)

/-- Joins in order. -/
def joinDocs : List Join → List Doc
  | [] => []
  | { kind, table, condition, columns } :: rest =>
      (.text kind.text ++ tableRef table ++
        joinCondition kind (expr? condition) columns) ::
        joinDocs rest

/-- Named windows in order.  A window is printed with its name or not at all. -/
def namedWindows : List NamedWindow → List Doc
  | [] => []
  | { name, window } :: rest =>
      (.requireText name "window" "name" ++
        .isolated (.verbatim name ++ .text " AS " ++
          .parens (windowSpec window))) ::
        namedWindows rest

/-- The common table expressions before a statement, with a space after them. -/
def withDoc : Option With → Doc
  | none => .empty
  | some { recursive, tables } =>
      .require (!tables.isEmpty) "with" "ctes" ++ .text "WITH" ++
        .textIf recursive " RECURSIVE" ++ .text " " ++ .commas (cteDocs tables) ++
        .text " "

/-- Common table expressions in order. -/
def cteDocs : List Cte → List Doc
  | [] => []
  | { name, columns, materialized, query } :: rest =>
      (.requireText name "cte" "name" ++ .name name ++
        (if columns.isEmpty then .empty
          else .text " " ++ .parens (.names "cte" "columns" columns)) ++
        .text " AS" ++ Materialization.doc? materialized ++ .text " " ++
        .parens (queryDoc query)) :: cteDocs rest

end

end SqlPrinter.Layout
