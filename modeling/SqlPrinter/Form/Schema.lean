/-
The JSON form of the statements about tables.
-/
import SqlPrinter.Ast.Schema
import SqlPrinter.Form.QueryReader
import SqlPrinter.Form.QueryWriter

namespace SqlPrinter

open Form

variable (r : Readers)

namespace RefAction

def word : RefAction → String
  | restrict => "restrict"
  | cascade => "cascade"
  | setNull => "set_null"
  | setDefault => "set_default"
  | noAction => "no_action"

def read : Reader RefAction :=
  .word [restrict, cascade, setNull, setDefault, noAction] word

def toJson (a : RefAction) : Json :=
  .string a.word

end RefAction

namespace Reference

def fields : Fields Reference :=
  mk <$> .required "table" ObjectName.read <*>
    .withDefault "columns" [] (.list .text) <*>
    .optional "on_delete" RefAction.read <*> .optional "on_update" RefAction.read

def read : Reader Reference :=
  .record fields

def toJson (reference : Reference) : Json :=
  .object
    [("table", reference.table.toJson), ("columns", .strings reference.columns),
      ("on_delete", .optional RefAction.toJson reference.onDelete),
      ("on_update", .optional RefAction.toJson reference.onUpdate)]

end Reference

namespace ColumnOptions

/-- The fields of the attributes of a column, all of which may be missing. -/
def fields : Fields ColumnOptions :=
  mk <$> .optional "nullable" .flag <*> .optional "default" r.expr <*>
    .optional "on_update" r.expr <*> .withDefault "auto_increment" false .flag <*>
    .withDefault "unique" false .flag <*> .withDefault "primary_key" false .flag <*>
    .optional "comment" .text <*> .optional "character_set" .text <*>
    .optional "collate" .text <*> .optional "check" r.expr <*>
    .optional "references" Reference.read

def toJson (o : ColumnOptions) : Json :=
  .object
    [("nullable", .optional .bool o.nullable),
      ("default", .optional Expr.toJson o.default),
      ("on_update", .optional Expr.toJson o.onUpdate),
      ("auto_increment", .bool o.autoIncrement), ("unique", .bool o.unique),
      ("primary_key", .bool o.primaryKey), ("comment", .optional .string o.comment),
      ("character_set", .optional .string o.characterSet),
      ("collate", .optional .string o.collate),
      ("check", .optional Expr.toJson o.check),
      ("references", .optional Reference.toJson o.references)]

end ColumnOptions

namespace ColumnDef

def fields : Fields ColumnDef :=
  mk <$> .required "name" .text <*> .optional "data_type" (DataType.read r) <*>
    .withDefault "options" .plain (.record (ColumnOptions.fields r))

def read : Reader ColumnDef :=
  .record (fields r)

def entries (c : ColumnDef) : List (String × Json) :=
  [("name", .string c.name), ("data_type", .optional DataType.toJson c.dataType),
    ("options", c.options.toJson)]

def toJson (c : ColumnDef) : Json :=
  .object c.entries

end ColumnDef

namespace IndexType

def word : IndexType → String
  | btree => "btree"
  | hash => "hash"

def read : Reader IndexType :=
  .word [btree, hash] word

def toJson (method : IndexType) : Json :=
  .string method.word

end IndexType

namespace IndexKeyword

def word : IndexKeyword → String
  | key => "key"
  | index => "index"

def read : Reader IndexKeyword :=
  .word [key, index] word

def toJson (keyword : IndexKeyword) : Json :=
  .string keyword.word

end IndexKeyword

namespace IndexKind

def word : IndexKind → String
  | key => "key"
  | index => "index"
  | fulltext => "fulltext"
  | spatial => "spatial"

def read : Reader IndexKind :=
  .word [key, index, fulltext, spatial] word

end IndexKind

namespace IndexColumn

def fields : Fields IndexColumn :=
  mk <$> .required "column" .text <*> .optional "length" .count <*>
    .optional "order" Direction.read

def read : Reader IndexColumn :=
  .record fields

def toJson (c : IndexColumn) : Json :=
  .object
    [("column", .string c.column), ("length", .optional .count c.length),
      ("order", .optional Direction.toJson c.order)]

end IndexColumn

namespace TableConstraint

def variants : List (String × Fields TableConstraint) :=
  [("primary_key",
      primaryKey <$> .optional "constraint" .text <*>
        .required "columns" (.list IndexColumn.read) <*>
        .optional "using" IndexType.read),
    ("unique",
      unique <$> .optional "constraint" .text <*>
        .optional "keyword" IndexKeyword.read <*> .optional "name" .text <*>
        .required "columns" (.list IndexColumn.read) <*>
        .optional "using" IndexType.read),
    ("foreign_key",
      foreignKey <$> .optional "constraint" .text <*>
        .required "columns" (.list .text) <*>
        .required "references" Reference.read),
    ("check", check <$> .optional "constraint" .text <*> .required "expr" r.expr)]

def read : Reader TableConstraint :=
  .tagged (variants r)

def toJson : TableConstraint → Json
  | primaryKey constraint columns method =>
      .tagged "primary_key"
        [("constraint", .optional .string constraint),
          ("columns", .array (columns.map IndexColumn.toJson)),
          ("using", .optional IndexType.toJson method)]
  | unique constraint keyword name columns method =>
      .tagged "unique"
        [("constraint", .optional .string constraint),
          ("keyword", .optional IndexKeyword.toJson keyword),
          ("name", .optional .string name),
          ("columns", .array (columns.map IndexColumn.toJson)),
          ("using", .optional IndexType.toJson method)]
  | foreignKey constraint columns references =>
      .tagged "foreign_key"
        [("constraint", .optional .string constraint),
          ("columns", .strings columns), ("references", references.toJson)]
  | check constraint condition =>
      .tagged "check"
        [("constraint", .optional .string constraint), ("expr", condition.toJson)]

end TableConstraint

namespace IndexDef

def fields : Fields IndexDef :=
  mk <$> .required "kind" IndexKind.read <*> .optional "name" .text <*>
    .required "columns" (.list IndexColumn.read) <*>
    .optional "using" IndexType.read

def entries (i : IndexDef) : List (String × Json) :=
  [("kind", .string i.kind.word), ("name", .optional .string i.name),
    ("columns", .array (i.columns.map IndexColumn.toJson)),
    ("using", .optional IndexType.toJson i.method)]

end IndexDef

namespace TableElement

def variants : List (String × Fields TableElement) :=
  [("column", column <$> ColumnDef.fields r),
    ("constraint", constraint <$> .required "constraint" (TableConstraint.read r)),
    ("index", index <$> IndexDef.fields)]

def read : Reader TableElement :=
  .tagged (variants r)

def toJson : TableElement → Json
  | column c => .tagged "column" c.entries
  | constraint c => .tagged "constraint" [("constraint", c.toJson)]
  | index i => .tagged "index" i.entries

end TableElement

namespace TableOption

def fields : Fields TableOption :=
  mk <$> .required "keyword" .text <*> .required "value" .text

def read : Reader TableOption :=
  .record fields

def toJson (o : TableOption) : Json :=
  .object [("keyword", .string o.keyword), ("value", .string o.value)]

end TableOption

namespace CreateTable

def fields : Fields CreateTable :=
  mk <$> .withDefault "temporary" false .flag <*>
    .withDefault "if_not_exists" false .flag <*>
    .required "name" ObjectName.read <*>
    .withDefault "definitions" [] (.list (TableElement.read r)) <*>
    .withDefault "options" [] (.list TableOption.read) <*>
    .optional "as_query" r.query <*> .optional "like" ObjectName.read

def entries (t : CreateTable) : List (String × Json) :=
  [("temporary", .bool t.temporary), ("if_not_exists", .bool t.ifNotExists),
    ("name", t.name.toJson),
    ("definitions", .array (t.elements.map TableElement.toJson)),
    ("options", .array (t.options.map TableOption.toJson)),
    ("as_query", .optional Query.toJson t.query),
    ("like", .optional ObjectName.toJson t.like)]

end CreateTable

namespace DatabaseKeyword

def word : DatabaseKeyword → String
  | database => "database"
  | schema => "schema"

def read : Reader DatabaseKeyword :=
  .word [database, schema] word

end DatabaseKeyword

namespace CreateDatabase

def fields : Fields CreateDatabase :=
  mk <$> .withDefault "keyword" .database DatabaseKeyword.read <*>
    .withDefault "if_not_exists" false .flag <*> .required "name" .text <*>
    .withDefault "options" [] (.list TableOption.read)

def entries (d : CreateDatabase) : List (String × Json) :=
  [("keyword", .string d.keyword.word), ("if_not_exists", .bool d.ifNotExists),
    ("name", .string d.name),
    ("options", .array (d.options.map TableOption.toJson))]

end CreateDatabase

namespace CreateView

def fields : Fields CreateView :=
  mk <$> .withDefault "or_replace" false .flag <*>
    .required "name" ObjectName.read <*> .withDefault "columns" [] (.list .text) <*>
    .required "query" r.query

def entries (v : CreateView) : List (String × Json) :=
  [("or_replace", .bool v.orReplace), ("name", v.name.toJson),
    ("columns", .strings v.columns), ("query", v.query.toJson)]

end CreateView

namespace CreateIndex

def fields : Fields CreateIndex :=
  mk <$> .withDefault "unique" false .flag <*>
    .withDefault "if_not_exists" false .flag <*> .required "name" .text <*>
    .required "table" ObjectName.read <*>
    .required "columns" (.list IndexColumn.read) <*>
    .optional "using" IndexType.read

def entries (i : CreateIndex) : List (String × Json) :=
  [("unique", .bool i.unique), ("if_not_exists", .bool i.ifNotExists),
    ("name", .string i.name), ("table", i.table.toJson),
    ("columns", .array (i.columns.map IndexColumn.toJson)),
    ("using", .optional IndexType.toJson i.method)]

end CreateIndex

namespace AlterAction

def variants : List (String × Fields AlterAction) :=
  let columnKeyword : Fields Bool := .withDefault "column_keyword" false .flag
  [("add_column", addColumn <$> columnKeyword <*>
    .required "column" (ColumnDef.read r)), ("drop_column",
    dropColumn <$> columnKeyword <*> .required "name" .text), ("modify_column",
    modifyColumn <$> columnKeyword <*> .required "column" (ColumnDef.read r)),
      ("change_column", changeColumn <$> columnKeyword <*>
        .required "old_name" .text <*> .required "column" (ColumnDef.read r)),
    ("rename_column",
      renameColumn <$> .required "old_name" .text <*> .required "new_name" .text),
    ("add_constraint",
      addConstraint <$> .required "constraint" (TableConstraint.read r)),
    ("add_index", addIndex <$> .required "index" (.record IndexDef.fields)),
    ("drop_index", dropIndex <$> .required "name" .text),
    ("drop_primary_key", pure dropPrimaryKey),
    ("rename_table", renameTable <$> .required "to" ObjectName.read),
    ("set_option", setOption <$> .required "option" TableOption.read)]

def toJson : AlterAction → Json
  | addColumn columnKeyword column =>
      .tagged "add_column" [("column_keyword", .bool columnKeyword),
        ("column", column.toJson)]
  | dropColumn columnKeyword name =>
      .tagged "drop_column" [("column_keyword", .bool columnKeyword),
        ("name", .string name)]
  | modifyColumn columnKeyword column =>
      .tagged "modify_column"
        [("column_keyword", .bool columnKeyword), ("column", column.toJson)]
  | changeColumn columnKeyword oldName column =>
      .tagged "change_column"
        [("column_keyword", .bool columnKeyword), ("old_name", .string oldName),
          ("column", column.toJson)]
  | renameColumn oldName newName =>
      .tagged "rename_column" [("old_name", .string oldName),
        ("new_name", .string newName)]
  | addConstraint constraint =>
      .tagged "add_constraint" [("constraint", constraint.toJson)]
  | addIndex index => .tagged "add_index" [("index", .object index.entries)]
  | dropIndex name => .tagged "drop_index" [("name", .string name)]
  | dropPrimaryKey => .tagged "drop_primary_key" []
  | renameTable newName => .tagged "rename_table" [("to", newName.toJson)]
  | setOption option => .tagged "set_option" [("option", option.toJson)]

end AlterAction

namespace AlterTable

def fields : Fields AlterTable :=
  mk <$> .required "name" ObjectName.read <*>
    .required "actions" (.list (.tagged (AlterAction.variants r)))

def entries (t : AlterTable) : List (String × Json) :=
  [("name", t.name.toJson), ("actions", .array (t.actions.map AlterAction.toJson))]

end AlterTable

namespace ObjectKind

def word : ObjectKind → String
  | table => "table"
  | database => "database"
  | schema => "schema"
  | view => "view"
  | index => "index"

def read : Reader ObjectKind :=
  .word [table, database, schema, view, index] word

end ObjectKind

namespace Drop

def fields : Fields Drop :=
  mk <$> .required "kind" ObjectKind.read <*>
    .withDefault "if_exists" false .flag <*>
    .required "names" (.list ObjectName.read) <*> .optional "on" ObjectName.read

def entries (d : Drop) : List (String × Json) :=
  [("kind", .string d.kind.word), ("if_exists", .bool d.ifExists),
    ("names", .array (d.names.map ObjectName.toJson)),
    ("on", .optional ObjectName.toJson d.table)]

end Drop

namespace ShowCreateKind

def word : ShowCreateKind → String
  | table => "table"
  | view => "view"
  | event => "event"
  | trigger => "trigger"
  | procedure => "procedure"

def read : Reader ShowCreateKind :=
  .word [table, view, event, trigger, procedure] word

end ShowCreateKind

namespace Show

def variants : List (String × Fields Show) :=
  [("tables", tables <$> .optional "from" .text), ("databases", pure databases),
    ("columns", columns <$> .required "table" ObjectName.read),
    ("index", index <$> .required "table" ObjectName.read),
    ("create",
      create <$> .required "kind" ShowCreateKind.read <*>
        .required "name" ObjectName.read)]

def fields : Fields Show :=
  .required "target" (.tagged variants)

def targetJson : Show → Json
  | tables database => .tagged "tables" [("from", .optional .string database)]
  | databases => .tagged "databases" []
  | columns table => .tagged "columns" [("table", table.toJson)]
  | index table => .tagged "index" [("table", table.toJson)]
  | create kind name =>
      .tagged "create" [("kind", .string kind.word), ("name", name.toJson)]

def entries (target : Show) : List (String × Json) :=
  [("target", target.targetJson)]

end Show

namespace Analyze

def fields : Fields Analyze :=
  mk <$> .withDefault "table_keyword" false .flag <*>
    .required "names" (.list ObjectName.read)

def entries (a : Analyze) : List (String × Json) :=
  [("table_keyword", .bool a.tableKeyword),
    ("names", .array (a.names.map ObjectName.toJson))]

end Analyze

namespace Attach

def fields : Fields Attach :=
  mk <$> .required "expr" r.expr <*> .required "schema" .text

def entries (a : Attach) : List (String × Json) :=
  [("expr", a.file.toJson), ("schema", .string a.schema)]

end Attach

end SqlPrinter
