/-
How SQL is to be written.  Every part of the printer is handed the whole of the
settings, the policy among them.
-/
import SqlPrinter.Dialect

namespace SqlPrinter

/-- When an identifier is put in quotes. -/
inductive QuoteMode where
  /-- Every identifier. -/
  | always
  /-- Only where the bare name would not read back as an identifier; with
  `preserveCase` every name is quoted, so that no letter case is lost. -/
  | smart (preserveCase : Bool)
deriving DecidableEq

/-- How a bound parameter is written. -/
inductive PlaceholderStyle where
  /-- One number for each parameter, counted from one. -/
  | numbered
  /-- A question mark for each parameter. -/
  | question
deriving DecidableEq

/-- How the MySQL family writes a row limit that has an offset. -/
inductive LimitStyle where
  | limitOffset
  | offsetCommaLimit
deriving DecidableEq

/-- What happens to a feature that the dialect lacks. -/
inductive Policy where
  /-- It is printed all the same. -/
  | lenient
  /-- The statement is refused. -/
  | strict
deriving DecidableEq

/-- The letter case that identifiers are brought to before they are quoted. -/
inductive Folding where
  | lower
  | upper
deriving DecidableEq

/-- How SQL is to be written. -/
structure Settings where
  dialect : Dialect
  quote : QuoteMode
  /-- How a bound parameter is written. -/
  placeholders : PlaceholderStyle
  /-- Spell `NULLS FIRST` and `NULLS LAST` by a second sort key where the
  dialect has no such words. -/
  emulateNulls : Bool
  mysqlLimit : LimitStyle
  policy : Policy
  /-- Write `AS` before the second name of a table. -/
  asBeforeTableName : Bool
  /-- Write `AS` before the second name of a column. -/
  asBeforeColumnName : Bool
  fold : Option Folding
deriving DecidableEq

namespace Settings

/-- The usual settings of a dialect: everything quoted, nothing emulated,
nothing refused. -/
def ofDialect (d : Dialect) : Settings where
  dialect := d
  quote := .always
  placeholders := if d.isPostgresFamily then .numbered else .question
  emulateNulls := false
  mysqlLimit := .limitOffset
  policy := .lenient
  asBeforeTableName := true
  asBeforeColumnName := true
  fold := none

/-- Without any wish the dialect is MySQL. -/
def standard : Settings :=
  ofDialect .mysql

end Settings

/-- What a caller who only names a database may ask for. -/
structure Options where
  database : Option String
  strict : Bool
deriving DecidableEq

/-- No database named and nothing refused. -/
def Options.standard : Options :=
  ⟨none, false⟩

end SqlPrinter
