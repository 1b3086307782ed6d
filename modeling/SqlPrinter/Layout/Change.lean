/-
The layout of INSERT, UPDATE and DELETE.  The three dialect groups differ in how
an INSERT says what to do with a row that is there already: the MySQL family
has `IGNORE` and `ON DUPLICATE KEY UPDATE`, SQLite has `OR IGNORE`, and all but
the MySQL family have `ON CONFLICT`.
-/
import SqlPrinter.Ast.Change
import SqlPrinter.Layout.Query

namespace SqlPrinter

/-- How an update of a conflicting row refers to the value that was to be
inserted. -/
inductive InsertedRef where
  /-- `EXCLUDED.c` -/
  | excluded
  /-- `new.c`, where `new` is declared as the name of the row. -/
  | rowName
  /-- `VALUES(c)` -/
  | valuesCall
deriving DecidableEq

namespace InsertedRef

/-- The name of the inserted row, where it gets one. -/
def row : String :=
  "new"

/-- The reference for a column. -/
def doc (column : String) : InsertedRef → Doc
  | excluded => .text "EXCLUDED." ++ .name column
  | rowName => .path [row, column]
  | valuesCall => .text "VALUES" ++ .parens (.name column)

/-- The kind of reference that an INSERT uses.  A row that comes from a query
cannot be given a name. -/
def ofInsert (d : Dialect) (source : RowSource) : InsertedRef :=
  match d, source with
  | .mysql, .query _ => valuesCall
  | .mysql, _ => rowName
  | .mariadb, _ => valuesCall
  | _, _ => excluded

end InsertedRef

namespace Layout

variable (settings : Settings)

/-- An assignment. -/
def assignment (inserted : InsertedRef) (a : Assignment) : Doc :=
  .requireText a.column "assignment" "col" ++
    .path ((Text.nonEmpty a.table).toList ++ [a.column]) ++ .text " = " ++
    (if a.fromInserted then inserted.doc a.column else expr settings a.value)

/-- A list of assignments, which may not be empty. -/
def assignments (inserted : InsertedRef) (list : List Assignment) : Doc :=
  .require (!list.isEmpty) "assignment list" "set" ++
    .commas (list.map (assignment settings inserted))

/-- The rows of an INSERT. -/
def rowSource : RowSource → Doc
  | .values values =>
      .require (!values.isEmpty) "insert" "rows" ++ .text " VALUES " ++
        .commas ((rows settings values).map valueRow)
  | .query query => .text " " ++ queryDoc settings query
  | .assignments list => .text " SET " ++ assignments settings .excluded list

/-- The word after the verb that lets conflicting rows pass. -/
def ignoreWord (ignore : Bool) (action : Option ConflictAction) : Doc :=
  if settings.dialect = .sqlite then .textIf ignore " OR IGNORE"
  else if settings.dialect.isPostgresFamily then
    match ignore, action with
    | true, some (.doUpdate _ _) =>
        .fail (.unsupportedConstruct .ignoreWithUpdate settings.dialect)
    | _, _ => .empty
  else
    match action with
    | some .doNothing =>
        .textIf (ignore || settings.dialect.isMysqlFamily) " IGNORE"
    | _ => .textIf ignore " IGNORE"

/-- The declaration of a name for the inserted row, if an assignment refers to
it. -/
def rowName (inserted : InsertedRef) : Option ConflictAction → Doc
  | some (.doUpdate list _) =>
      if inserted = .rowName && list.any (·.fromInserted) then
        .text " AS " ++ .name InsertedRef.row
      else .empty
  | some .doNothing | none => .empty

/-- The upsert clause of the MySQL family.  It has no place for a condition. -/
def duplicateKey (inserted : InsertedRef) : Option ConflictAction → Doc
  | some (.doUpdate list condition) =>
      if condition.isSome then
        .fail (.unsupportedConstruct .duplicateKeyCondition settings.dialect)
      else .text " ON DUPLICATE KEY UPDATE " ++ assignments settings inserted list
  | some .doNothing | none => .empty

/-- What makes a row conflict: a constraint, or else columns. -/
def conflictTarget (clause : ConflictClause) : Doc :=
  match Text.nonEmpty clause.constraint with
  | some name => .text " ON CONSTRAINT " ++ .name name
  | none =>
      if clause.columns.isEmpty then .empty
      else .text " " ++ .parens (.names "on conflict" "target_columns"
        clause.columns)

/-- What is done with a conflicting row. -/
def conflictAction (inserted : InsertedRef) (ignore : Bool) :
    Option ConflictAction → Doc
  | none => .textIf ignore " DO NOTHING"
  | some .doNothing => .text " DO NOTHING"
  | some (.doUpdate list condition) =>
      .text " DO UPDATE SET " ++ assignments settings inserted list ++
        .clause " WHERE " (condition.map (expr settings))

/-- The conflict clause of an INSERT. -/
def onConflict (inserted : InsertedRef) (ignore : Bool)
    (conflict : Option ConflictClause) : Doc :=
  if settings.dialect.isMysqlFamily then
    duplicateKey settings inserted (conflict.bind (·.action))
  else
    match conflict with
    | some clause =>
        .text " ON CONFLICT" ++ conflictTarget clause ++
          conflictAction settings inserted ignore clause.action
    | none =>
        .textIf (ignore && settings.dialect.isPostgresFamily)
          " ON CONFLICT DO NOTHING"

/-- An INSERT or a REPLACE. -/
def insert (i : Insert) : Doc :=
  let action := i.conflict.bind (·.action)
  let inserted := InsertedRef.ofInsert settings.dialect i.source
  .require (i.table matches .named _ _ _) "insert" "table" ++
    .text (if i.replace then "REPLACE" else "INSERT") ++
    ignoreWord settings i.ignore action ++ .textIf i.into " INTO" ++ .text " " ++
    tableRef settings i.table ++ (if i.columns.isEmpty then .empty
      else .text " " ++ .parens (.names "insert" "columns" i.columns)) ++
    rowSource settings i.source ++ rowName inserted action ++
    onConflict settings inserted i.ignore i.conflict ++
    returning (selectItems settings i.returning)

/-- The words between UPDATE and the table. -/
def updateFallback : Option UpdateFallback → Doc
  | none => .empty
  | some .replace => .text " OR REPLACE"
  | some .ignore => .text " OR IGNORE"

/-- An UPDATE. -/
def update (u : Update) : Doc :=
  withDoc settings u.ctes ++ .text "UPDATE" ++ updateFallback u.fallback ++
    .text " " ++ tables [tableRef settings u.table] (joinDocs settings u.joins) ++
    .text " SET " ++ assignments settings .excluded u.assignments ++
    (if u.tables.isEmpty then .empty
      else .text " FROM " ++ .commas (tableRefs settings u.tables)) ++
    .clause " WHERE " (u.condition.map (expr settings)) ++
    orderBy (orderItems settings u.orderBy) ++
    limit settings (u.limit.map (expr settings)) none ++
    returning (selectItems settings u.returning)

/-- A DELETE. -/
def delete (d : Delete) : Doc :=
  .require (!d.tables.isEmpty) "delete" "from" ++ withDoc settings d.ctes ++
    .text "DELETE " ++ (if d.targets.isEmpty then .empty
      else .names "delete" "targets" d.targets ++ .text " ") ++
    .text "FROM " ++ tables (tableRefs settings d.tables)
      (joinDocs settings d.joins) ++
    (if d.usingTables.isEmpty then .empty
      else .text " USING " ++ .commas (tableRefs settings d.usingTables)) ++
    .clause " WHERE " (d.condition.map (expr settings)) ++
    orderBy (orderItems settings d.orderBy) ++
    limit settings (d.limit.map (expr settings)) none ++
    returning (selectItems settings d.returning)

end Layout

end SqlPrinter
