/-
A statement: one of thirteen kinds, each with the name that its JSON form is
tagged with.
-/
import SqlPrinter.Ast.Change
import SqlPrinter.Ast.Schema

namespace SqlPrinter

/-- A statement. -/
inductive Statement where
  | query (query : Query)
  | insert (insert : Insert)
  | update (update : Update)
  | delete (delete : Delete)
  | createTable (table : CreateTable)
  | createDatabase (database : CreateDatabase)
  | createView (view : CreateView)
  | createIndex (index : CreateIndex)
  | alterTable (table : AlterTable)
  | drop (drop : Drop)
  | list (target : Show)
  | analyze (analyze : Analyze)
  | attach (attach : Attach)

/-- The name of the kind. -/
def Statement.kind : Statement → String
  | query _ => "query"
  | insert _ => "insert"
  | update _ => "update"
  | delete _ => "delete"
  | createTable _ => "create_table"
  | createDatabase _ => "create_database"
  | createView _ => "create_view"
  | createIndex _ => "create_index"
  | alterTable _ => "alter_table"
  | drop _ => "drop"
  | list _ => "show"
  | analyze _ => "analyze"
  | attach _ => "attach"

end SqlPrinter
