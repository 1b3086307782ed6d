/-
The layout of the statements about tables.  The attributes of a column always
come in one order: type, NULL, DEFAULT, ON UPDATE, counting, UNIQUE, PRIMARY
KEY, COMMENT, CHARACTER SET, COLLATE, CHECK, REFERENCES.
-/
import SqlPrinter.Ast.Schema
import SqlPrinter.Layout.Query

namespace SqlPrinter

/-- The words for an action. -/
def RefAction.text : RefAction → String
  | restrict => "RESTRICT"
  | cascade => "CASCADE"
  | setNull => "SET NULL"
  | setDefault => "SET DEFAULT"
  | noAction => "NO ACTION"

namespace Layout

variable (settings : Settings)

/-- A reference to another table. -/
def reference (r : Reference) : Doc :=
  .text "REFERENCES " ++ r.table.doc ++
    (if r.columns.isEmpty then .empty
      else .text " " ++ .parens (.names "reference" "columns" r.columns)) ++
    .clause " ON DELETE " (r.onDelete.map (.text ·.text)) ++
    .clause " ON UPDATE " (r.onUpdate.map (.text ·.text))

/-- Whether a column takes null values, where that is said. -/
def nullable : Option Bool → Doc
  | none => .empty
  | some true => .text "NULL"
  | some false => .text "NOT NULL"

/-- The definition of a column. -/
def columnDef (c : ColumnDef) : Doc :=
  let o := c.options
  .requireText c.name "column definition" "name" ++
    .fragments " "
      [.name c.name,
        .optional (c.dataType.map (typeDoc settings)),
        nullable o.nullable,
        .clause "DEFAULT " (o.default.map (expr settings)),
        .clause "ON UPDATE " (o.onUpdate.map (expr settings)),
        .textIf o.autoIncrement settings.dialect.autoIncrement,
        .textIf o.unique "UNIQUE",
        .textIf o.primaryKey "PRIMARY KEY",
        .clause "COMMENT " (o.comment.map .string),
        .clause "CHARACTER SET " (o.characterSet.map .word),
        .clause "COLLATE " (o.collate.map .word),
        .clause "CHECK " (o.check.map (.parens <| expr settings ·)),
        .optional (o.references.map reference)]

/-- A column of an index. -/
def indexColumn (c : IndexColumn) : Doc :=
  .name c.column ++ .optional (c.length.map (.parens <| .number ·)) ++
    Direction.doc? c.order

/-- The columns of an index, of which there is at least one. -/
def indexColumns : List IndexColumn → Doc
  | [] => .fail (.missingField "index" "columns")
  | c :: rest =>
      .parens
        (.requireText c.column "index" "column" ++ indexColumn c ++
          .concat (rest.map fun c =>
            .requireText c.column "index" "column" ++ .text ", " ++ indexColumn c))

/-- The structure behind an index, where one is asked for. -/
def indexMethod : Option IndexType → Doc
  | none => .empty
  | some .btree => .text " USING BTREE"
  | some .hash => .text " USING HASH"

/-- The name of a constraint, where it has one. -/
def constraintName (name : Option String) : Doc :=
  match Text.nonEmpty name with
  | none => .empty
  | some name => .text "CONSTRAINT " ++ .name name ++ .text " "

/-- The name of an index with a space before it, where it has one. -/
def indexName (name : Option String) : Doc :=
  .clause " " ((Text.nonEmpty name).map .name)

/-- A constraint on a table. -/
def tableConstraint : TableConstraint → Doc
  | .primaryKey constraint columns method =>
      constraintName constraint ++ .text "PRIMARY KEY " ++ indexColumns columns ++
        indexMethod method
  | .unique constraint keyword name columns method =>
      constraintName constraint ++ .text "UNIQUE" ++
        (match keyword with
        | none => .empty
        | some .key => .text " KEY"
        | some .index => .text " INDEX") ++
        indexName name ++ .text " " ++ indexColumns columns ++ indexMethod method
  | .foreignKey constraint columns references =>
      .require (!columns.isEmpty) "foreign key" "columns" ++
        constraintName constraint ++ .text "FOREIGN KEY " ++
        .parens (.names "foreign key" "columns" columns) ++ .text " " ++
        reference references
  | .check constraint condition =>
      constraintName constraint ++ .text "CHECK " ++
        .parens (expr settings condition)

/-- An index inside a table definition. -/
def indexDef (i : IndexDef) : Doc :=
  .text
      (match i.kind with
      | .key => "KEY"
      | .index => "INDEX"
      | .fulltext => "FULLTEXT INDEX"
      | .spatial => "SPATIAL INDEX") ++
    indexName i.name ++ .text " " ++ indexColumns i.columns ++ indexMethod i.method

/-- An option of a table or a database.  The values of two options are words
and are printed in upper case. -/
def tableOption (o : TableOption) : Doc :=
  let keyword := o.keyword.toUpper
  .requireText o.keyword "table option" "keyword" ++ .word o.keyword ++
    .text " = " ++
      (if keyword = "ENGINE" || keyword = "ROW_FORMAT" then .word o.value
      else .verbatim o.value)

/-- Options with a space before each. -/
def tableOptions (options : List TableOption) : Doc :=
  .concat (options.map (.text " " ++ tableOption ·))

/-- An entry of a table definition. -/
def tableElement : TableElement → Doc
  | .column column => .isolated (columnDef settings column)
  | .constraint constraint => tableConstraint settings constraint
  | .index index => indexDef index

/-- `CREATE TABLE`.  A table that is like another one takes nothing else. -/
def createTable (t : CreateTable) : Doc :=
  .require (!t.elements.isEmpty || t.like.isSome || t.query.isSome) "create table"
      "definitions" ++
    .text "CREATE " ++ .textIf t.temporary "TEMPORARY " ++ .text "TABLE " ++
    .textIf t.ifNotExists "IF NOT EXISTS " ++ t.name.doc ++
    match t.like with
    | some source => .text " LIKE " ++ source.doc
    | none =>
        (if t.elements.isEmpty then .empty
          else .text " " ++ .parens (.commas
            (t.elements.map (tableElement settings)))) ++
          tableOptions t.options ++ .clause " AS " (t.query.map (queryDoc settings))

/-- `CREATE DATABASE`. -/
def createDatabase (d : CreateDatabase) : Doc :=
  .requireText d.name "create database" "name" ++
    .text
      (match d.keyword with
      | .database => "CREATE DATABASE "
      | .schema => "CREATE SCHEMA ") ++
    .textIf d.ifNotExists "IF NOT EXISTS " ++ .name d.name ++ tableOptions d.options

/-- `CREATE VIEW`. -/
def createView (v : CreateView) : Doc :=
  .text "CREATE " ++ .textIf v.orReplace "OR REPLACE " ++ .text "VIEW " ++
    v.name.doc ++ (if v.columns.isEmpty then .empty
      else .text " " ++ .parens (.names "create view" "columns" v.columns)) ++
    .text " AS " ++ queryDoc settings v.query

/-- `CREATE INDEX`. -/
def createIndex (i : CreateIndex) : Doc :=
  .requireText i.name "create index" "name" ++ .text "CREATE " ++
    .textIf i.unique "UNIQUE " ++ .text "INDEX " ++
    .textIf i.ifNotExists "IF NOT EXISTS " ++ .name i.name ++ .text " ON " ++
    i.table.doc ++ .text " " ++ indexColumns i.columns ++ indexMethod i.method

/-- A verb, with the word COLUMN after it if it is asked for. -/
def columnVerb (verb : String) (columnKeyword : Bool) : Doc :=
  .text verb ++ .textIf columnKeyword " COLUMN" ++ .text " "

/-- One action of `ALTER TABLE`. -/
def alterAction : AlterAction → Doc
  | .addColumn columnKeyword column =>
      columnVerb "ADD" columnKeyword ++ .isolated (columnDef settings column)
  | .dropColumn columnKeyword name =>
      .requireText name "drop column" "name" ++ columnVerb "DROP" columnKeyword ++
        .name name
  | .modifyColumn columnKeyword column =>
      columnVerb "MODIFY" columnKeyword ++ .isolated (columnDef settings column)
  | .changeColumn columnKeyword oldName column =>
      .requireText oldName "change column" "old_name" ++
        columnVerb "CHANGE" columnKeyword ++ .name oldName ++ .text " " ++
        .isolated (columnDef settings column)
  | .renameColumn oldName newName =>
      .requireText oldName "rename column" "old_name" ++
        .requireText newName "rename column" "new_name" ++ .text "RENAME COLUMN " ++
        .name oldName ++ .text " TO " ++ .name newName
  | .addConstraint constraint => .text "ADD " ++ tableConstraint settings constraint
  | .addIndex index => .text "ADD " ++ indexDef index
  | .dropIndex name =>
      .requireText name "drop index" "name" ++ .text "DROP INDEX " ++ .name name
  | .dropPrimaryKey => .text "DROP PRIMARY KEY"
  | .renameTable newName => .text "RENAME TO " ++ newName.doc
  | .setOption option => tableOption option

/-- `ALTER TABLE`. -/
def alterTable (t : AlterTable) : Doc :=
  .require (!t.actions.isEmpty) "alter table" "actions" ++ .text "ALTER TABLE " ++
    t.name.doc ++ .text " " ++ .commas (t.actions.map (alterAction settings))

/-- `DROP`. -/
def drop (d : Drop) : Doc :=
  .require (!d.names.isEmpty) "drop" "names" ++
    .text
      (match d.kind with
      | .table => "DROP TABLE "
      | .database => "DROP DATABASE "
      | .schema => "DROP SCHEMA "
      | .view => "DROP VIEW "
      | .index => "DROP INDEX ") ++
    .textIf d.ifExists "IF EXISTS " ++ .commas (d.names.map ObjectName.doc) ++
    .clause " ON " (d.table.map ObjectName.doc)

/-- `SHOW`. -/
def list : Show → Doc
  | .tables database => .text "SHOW TABLES" ++ .clause " FROM " (database.map .name)
  | .databases => .text "SHOW DATABASES"
  | .columns table => .text "SHOW COLUMNS FROM " ++ table.doc
  | .index table => .text "SHOW INDEX FROM " ++ table.doc
  | .create kind name =>
      .text
          (match kind with
          | .table => "SHOW CREATE TABLE "
          | .view => "SHOW CREATE VIEW "
          | .event => "SHOW CREATE EVENT "
          | .trigger => "SHOW CREATE TRIGGER "
          | .procedure => "SHOW CREATE PROCEDURE ") ++
        name.doc

/-- `ANALYZE`. -/
def analyze (a : Analyze) : Doc :=
  .require (!a.names.isEmpty) "analyze" "names" ++ .text "ANALYZE " ++
    .textIf a.tableKeyword "TABLE " ++ .commas (a.names.map ObjectName.doc)

/-- `ATTACH DATABASE`, which one dialect has; in the others it is an error under
every policy. -/
def attach (a : Attach) : Doc :=
  if settings.dialect.supports .attach then
    .requireText a.schema "attach" "schema" ++ .text "ATTACH DATABASE " ++
      expr settings a.file ++ .text " AS " ++ .name a.schema
  else .fail (.unsupportedConstruct .attachDatabase settings.dialect)

end Layout

end SqlPrinter
