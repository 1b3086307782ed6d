/-
The JSON form of statements and of the options of a caller.
-/
import SqlPrinter.Ast.Statement
import SqlPrinter.Form.Change
import SqlPrinter.Form.Schema
import SqlPrinter.Settings

namespace SqlPrinter

open Form

namespace Statement

def variants (r : Readers) : List (String × Fields Statement) :=
  [("query", query <$> Query.fields r),
    ("insert", insert <$> Insert.fields r),
    ("update", update <$> Update.fields r),
    ("delete", delete <$> Delete.fields r),
    ("create_table", createTable <$> CreateTable.fields r),
    ("create_database", createDatabase <$> CreateDatabase.fields),
    ("create_view", createView <$> CreateView.fields r),
    ("create_index", createIndex <$> CreateIndex.fields),
    ("alter_table", alterTable <$> AlterTable.fields r),
    ("drop", drop <$> Drop.fields),
    ("show", list <$> Show.fields),
    ("analyze", analyze <$> Analyze.fields),
    ("attach", attach <$> Attach.fields r)]

def read (r : Readers) : Reader Statement :=
  .tagged (variants r)

/-- The statement that a value is the written form of. -/
def ofJson (j : Json) : Except Fault Statement :=
  Readers.decode read j

def entries : Statement → List (String × Json)
  | query q => Write.query q
  | insert i => i.entries
  | update u => u.entries
  | delete d => d.entries
  | createTable t => t.entries
  | createDatabase d => d.entries
  | createView v => v.entries
  | createIndex i => i.entries
  | alterTable t => t.entries
  | drop d => d.entries
  | list target => target.entries
  | analyze a => a.entries
  | attach a => a.entries

/-- The written form: the fields, tagged with the name of the kind. -/
def toJson (s : Statement) : Json :=
  .tagged s.kind s.entries

end Statement

namespace Options

/-- The fields of the options, all of which may be missing. -/
def fields : Fields Options :=
  mk <$> .optional "database" .text <*> .withDefault "strict" false .flag

/-- The options that a value is the written form of. -/
def ofJson (j : Json) : Except Fault Options :=
  Reader.record fields false j

end Options

end SqlPrinter
