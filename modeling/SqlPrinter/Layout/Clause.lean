/-
The layout of clauses whose shape depends on the settings.  Each takes the layouts
of its parts, so none of them looks into an expression.
-/
import SqlPrinter.Ast.Query
import SqlPrinter.Layout.Leaf

namespace SqlPrinter

/-- Null values are put in order by a second sort key: the settings ask for it and
the dialect has no words of its own. -/
def Settings.nullsByKey (settings : Settings) : Bool :=
  settings.emulateNulls && !settings.dialect.supports .nullsOrdering

namespace Layout

/-- A sort key. -/
def orderItem (settings : Settings) (key : Doc) (direction : Option Direction)
    (nulls : Option NullsOrder) : Doc :=
  let onQuestion : Error :=
    .unsupportedConstruct .positionalSortKey settings.dialect
  match settings.nullsByKey, nulls with
  | true, some .last =>
      .twice "(" " IS NULL) ASC, " key onQuestion ++ Direction.doc? direction
  | true, some .first =>
      .twice "(" " IS NULL) DESC, " key onQuestion ++ Direction.doc? direction
  | _, _ => key ++ Direction.doc? direction ++ NullsOrder.doc? nulls

/-- The sort keys of a query, if there are any. -/
def orderBy (keys : List Doc) : Doc :=
  if keys.isEmpty then .empty else .text " ORDER BY " ++ .commas keys

/-- The row limit of a query. -/
def limit (settings : Settings) (count offset : Option Doc) : Doc :=
  match settings.mysqlLimit, settings.dialect.isMysqlFamily, count, offset with
  | .offsetCommaLimit, true, some count, some offset =>
      .text " LIMIT " ++ offset ++ .text ", " ++ count
  | _, _, _, _ => .clause " LIMIT " count ++ .clause " OFFSET " offset

/-- The grouping of a query.  Grouping sets stand in place of the keys, and the
other modifiers are nothing without keys. -/
def groupBy (settings : Settings) (keys : List Doc) (modifiers : List GroupModifier)
    (groupingSets : Option Doc) : Doc :=
  match groupingSets with
  | some sets => .text " GROUP BY GROUPING SETS " ++ .parens sets
  | none =>
      if keys.isEmpty then .empty
      else if modifiers.any (· matches .cube) then
        .text " GROUP BY CUBE " ++ .parens (.commas keys)
      else if modifiers.any (· matches .rollup) then
        if settings.dialect.isMysqlFamily then
          .text " GROUP BY " ++ .commas keys ++ .text " WITH ROLLUP"
        else .text " GROUP BY ROLLUP " ++ .parens (.commas keys)
      else .text " GROUP BY " ++ .commas keys

/-- The tables of a query with the joins after them. -/
def tables (tables joins : List Doc) : Doc :=
  .commas tables ++ .concat (joins.map (.text " " ++ ·))

/-- What follows the table of a join; a condition goes before a list of columns. -/
def joinCondition (kind : JoinKind) (condition : Option Doc)
    (columns : Option (List String)) : Doc :=
  if kind.takesCondition then
    match condition, columns with
    | some condition, _ => .text " ON " ++ condition
    | none, some columns =>
        .text " USING " ++ .parens (.names "join" "using" columns)
    | none, none => .empty
  else .empty

/-- A row of values. -/
def valueRow (values : List Doc) : Doc :=
  .parens (.sepBy "," values)

/-- The columns that a statement hands back. -/
def returning (items : List Doc) : Doc :=
  if items.isEmpty then .empty else .text " RETURNING " ++ .commas items

/-- A call of a scalar function.  `TRIM` puts spaces between its arguments,
because they are words and not a list. -/
def call (name : String) (args : Option (List Doc)) (argsParentheses : Bool)
    (separator : Option String) (parentheses : Bool) (window : Doc)
    (collate : Option KeywordValue) (suffix : Doc) : Doc :=
  .requireText name "function" "name" ++
    match args with
    | none => .fragments " " [.verbatim name, window]
    | some args =>
        let separator :=
          if name.toUpper = "TRIM" then .text " "
          else match Text.nonEmpty separator with
            | none => .text ", "
            | some s => .verbatim s
        let args := Doc.joined separator args
        let call :=
          if argsParentheses then .verbatim name ++ .parens args
          else .fragments " " [.verbatim name, args]
        let call := .fragments " " [call, suffix]
        let call := if parentheses then .parens call else call
        .fragments " " [call, .optional (collate.map KeywordValue.doc), window]

/-- The size of a type in a cast, with the words that follow it. -/
def castSize (type : DataType) : Doc :=
  let digits : Doc :=
    match type.length, type.scale with
    | none, _ => .empty
    | some length, none => .number length
    | some length, some scale => .number length ++ .text ", " ++ .number scale
  (if type.parentheses then .parens digits else digits) ++
    (if type.suffix.isEmpty then .empty else .text " " ++ .words type.suffix)

/-- The name of a type; a quoted name keeps its letter case. -/
def typeName (type : DataType) : Doc :=
  match type.quoted with
  | none => .word type.name
  | some mark => .verbatim mark ++ .verbatim type.name ++ .verbatim mark

/-- The array dimensions of a type. -/
def typeArray (type : DataType) : Doc :=
  .optional (type.array.map ArrayDim.doc)

/-- A type inside a cast. -/
def castType (type : DataType) : Doc :=
  typeName type ++ typeArray type ++ castSize type

/-- The operator and the operand after a cast. -/
def castTail (operator : String) (operand : Doc) : Doc :=
  .require (!Text.isAllBlank operator) "cast" "tail.operator" ++
    .text " " ++ .verbatim operator ++ .text " " ++ operand

/-- A cast. -/
def cast (subject : Doc) (target : DataType) (form : CastForm)
    (keyword : Option String) (tail : Doc) (rename : Option String)
    (collate : Option KeywordValue) : Doc :=
  .requireText target.name "cast" "data_type" ++
    (match form with
    | .keyword =>
        let keyword := keyword.getD ""
        .word keyword ++
          .parens
            (subject ++ .requireText keyword "cast" "keyword" ++ .text " AS " ++
              castType target)
    | .doubleColon => subject ++ .text "::" ++ castType target) ++
    tail ++ .rename true rename ++ .clause " " (collate.map KeywordValue.doc)

/-- A type inside a column definition. -/
def dataType (type : DataType) (values : List Doc) : Doc :=
  let size : Doc :=
    if !values.isEmpty then .parens (.commas values)
    else
      match type.length, type.scale with
      | some length, none => .parens (.number length)
      | some length, some scale =>
          .parens (.number length ++ .text ", " ++ .number scale)
      | none, _ => if type.parentheses then .parens .empty else .empty
  .requireText type.name "data type" "data_type" ++
    .fragments " " [typeName type ++ size ++ typeArray type, .words type.suffix]

/-- The EXTRACT function. -/
def extract (name field : String) (castType : Option String) (source : Doc) : Doc :=
  .requireText name "extract" "name" ++ .requireText field "extract" "field" ++
    .word name ++
    .parens
      (.fragments " " [.word field, .text "FROM", .optional (castType.map .word),
        source])

end Layout

end SqlPrinter
