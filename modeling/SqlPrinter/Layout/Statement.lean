/-
The layout of a statement.
-/
import SqlPrinter.Ast.Statement
import SqlPrinter.Layout.Change
import SqlPrinter.Layout.Schema

namespace SqlPrinter

/-- The layout of a statement under some settings. -/
def Statement.doc (settings : Settings) : Statement → Doc
  | .query q => Layout.queryDoc settings q
  | .insert i => Layout.insert settings i
  | .update u => Layout.update settings u
  | .delete d => Layout.delete settings d
  | .createTable t => Layout.createTable settings t
  | .createDatabase d => Layout.createDatabase d
  | .createView v => Layout.createView settings v
  | .createIndex i => Layout.createIndex i
  | .alterTable t => Layout.alterTable settings t
  | .drop d => Layout.drop d
  | .list target => Layout.list target
  | .analyze a => Layout.analyze a
  | .attach a => Layout.attach settings a

end SqlPrinter
