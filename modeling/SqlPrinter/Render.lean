/-
The whole way from a statement, or from its JSON form, to the text of it.
Statements of a list are printed one by one, each with parameters of its own.
-/
import SqlPrinter.Form.Statement
import SqlPrinter.Json.Parser
import SqlPrinter.Layout.Statement
import SqlPrinter.Usage
import SqlPrinter.Writer

namespace SqlPrinter

/-- The settings that the options of a caller ask for. -/
def Settings.ofOptions (options : Options) : Except Error Settings := do
  let dialect ←
    match options.database with
    | none => .ok .mysql
    | some name => Dialect.parse name
  let settings := ofDialect dialect
  return if options.strict then { settings with policy := .strict } else settings

/-- The text of an expression. -/
def Expr.render (settings : Settings) (e : Expr) : Except Error String :=
  (Layout.expr settings e).print settings

/-- The text of a query, whatever the policy. -/
def Query.render (settings : Settings) (q : Query) : Except Error String :=
  (Layout.queryDoc settings q).print settings

/-- The text of a statement, unless the policy refuses it. -/
def Statement.render (settings : Settings) (s : Statement) : Except Error String :=
  match s.rejection? settings with
  | some e => .error e
  | none => (s.doc settings).print settings

/-- The text of several statements with a semicolon between them.  The first
statement that has no text is the answer. -/
def renderAll (settings : Settings) (statements : List Statement) :
    Except Error String :=
  (statements.mapM (Statement.render settings)).map (" ; ".intercalate ·)

/-- The text of what a JSON value is the written form of: an array is a list of
statements, anything else is one statement. -/
def renderValue (settings : Settings) (j : Json) : Except Error String :=
  match j with
  | .array _ => do
      let statements ←
        (Form.Readers.decode (fun r => .list (Statement.read r)) j).mapError
          .notTree
      renderAll settings statements
  | j => do
      let statement ← (Statement.ofJson j).mapError .notTree
      statement.render settings

/-- The text of what a JSON text is the written form of.  An unknown database is
found first, then a text that is no JSON, then a value that is no statement. -/
def renderJson (options : Options) (text : String) : Except Error String := do
  let settings ← Settings.ofOptions options
  match Json.parse text with
  | some j => renderValue settings j
  | none => .error .notJson

end SqlPrinter
