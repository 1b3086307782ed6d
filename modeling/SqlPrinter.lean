import SqlPrinter.Fragments
import SqlPrinter.Json.Printer
import SqlPrinter.Render
import SqlPrinter.Writer
import SqlPrinter.Proofs.Node
import SqlPrinter.Proofs.Node.Induction
import SqlPrinter.Proofs.Filling
import SqlPrinter.Proofs.Filling.Same
import SqlPrinter.Proofs.Filling.Usage
import SqlPrinter.Proofs.Pattern
import SqlPrinter.Proofs.Pattern.Statement
import SqlPrinter.Proofs.Token
import SqlPrinter.Proofs.Template
import SqlPrinter.Proofs.Skeleton
import SqlPrinter.Proofs.Numbering
import SqlPrinter.Proofs.Strict
import SqlPrinter.Proofs.Node.Walk
import SqlPrinter.Proofs.Count
import SqlPrinter.Proofs.Count.Query
import SqlPrinter.Proofs.Count.Statement
import SqlPrinter.Proofs.Count.Printed
import SqlPrinter.Proofs.Language
import SqlPrinter.Proofs.Positional
import SqlPrinter.Proofs.Loss
import SqlPrinter.Proofs.Balance
import SqlPrinter.Proofs.Character
import SqlPrinter.Proofs.Form.Reading
import SqlPrinter.Proofs.Form.Yielding
import SqlPrinter.Proofs.Form.Leaf
import SqlPrinter.Proofs.Form.Written
import SqlPrinter.Proofs.Form.Canonical
import SqlPrinter.Proofs.Form.Node
import SqlPrinter.Proofs.Form.Statement
import SqlPrinter.Proofs.Form.Decoded
import SqlPrinter.Proofs.Form.RoundTrip
import SqlPrinter.Proofs.Session
import SqlPrinter.Proofs.Form.Depth
import SqlPrinter.Proofs.Spelling
import SqlPrinter.Proofs.Delimited
import SqlPrinter.Proofs.Fragment
import SqlPrinter.Proofs.Unambiguous
import SqlPrinter.Proofs.Batch
import SqlPrinter.Proofs.Policy
import SqlPrinter.Proofs.Enclosed
import SqlPrinter.Proofs.Entry
import SqlPrinter.Proofs.Nesting
import SqlPrinter.Proofs.Form.Default
import SqlPrinter.Proofs.Form.Edit
import SqlPrinter.Proofs.Effect
import SqlPrinter.Proofs.Form.Tolerance
import SqlPrinter.Proofs.Retouch
import SqlPrinter.Proofs.Absent
import SqlPrinter.Proofs.Hollow
import SqlPrinter.Proofs.Switch
import SqlPrinter.Proofs.NullsOrder
import SqlPrinter.Proofs.Elsewhere
import SqlPrinter.Proofs.Writes
import SqlPrinter.Proofs.Conflict
import SqlPrinter.Proofs.Upsert
import SqlPrinter.Proofs.Quoting
import SqlPrinter.Proofs.InsertedValue
import SqlPrinter.Proofs.Spacing
import SqlPrinter.Proofs.Spacing.Leaf
import SqlPrinter.Proofs.Spacing.Expr
import SqlPrinter.Proofs.Spacing.Query
import SqlPrinter.Proofs.Part
import SqlPrinter.Proofs.Spacing.Text
import SqlPrinter.Proofs.Comment
import SqlPrinter.Proofs.Tidy
import SqlPrinter.Proofs.Unquoting
import SqlPrinter.Proofs.Operator
import SqlPrinter.Proofs.LetterCase
import SqlPrinter.Proofs.DataType
