/-
The ten SQL dialects: their names, the quotes they put around an identifier,
and the few spellings that depend on the dialect alone.
-/
import SqlPrinter.Text.Blank

namespace SqlPrinter

/-- A database whose SQL can be printed. -/
inductive Dialect where
  | mysql
  | mariadb
  | sqlite
  | postgres
  | redshift
  | snowflake
  | bigquery
  | hive
  | transactSql
  | db2
deriving DecidableEq

namespace Dialect

/-- All dialects, in the order of their declaration. -/
def all : List Dialect :=
  [mysql, mariadb, sqlite, postgres, redshift, snowflake, bigquery, hive,
    transactSql, db2]

/-- The name a dialect is printed with; it reads back as the same dialect. -/
def name : Dialect → String
  | mysql => "mysql"
  | mariadb => "mariadb"
  | sqlite => "sqlite"
  | postgres => "postgres"
  | redshift => "redshift"
  | snowflake => "snowflake"
  | bigquery => "bigquery"
  | hive => "hive"
  | transactSql => "transactsql"
  | db2 => "db2"

/-- Every name a dialect answers to: its own, and four short or long forms. -/
def names : List (String × Dialect) :=
  all.map (fun d => (d.name, d)) ++
    [("postgresql", postgres), ("pg", postgres), ("tsql", transactSql),
      ("mssql", transactSql)]

/-- Read a name, whatever its letter case and the blanks around it. -/
def ofName? (s : String) : Option Dialect :=
  names.lookup (Text.trim s).toLower

/-- MySQL and its fork share the upsert clause and the row limit `LIMIT m, n`. -/
def isMysqlFamily (d : Dialect) : Bool :=
  d = mysql || d = mariadb

/-- Postgres and Redshift number their parameters. -/
def isPostgresFamily (d : Dialect) : Bool :=
  d = postgres || d = redshift

/-- The word that makes a column count up by itself. -/
def autoIncrement : Dialect → String
  | sqlite | snowflake => "AUTOINCREMENT"
  | transactSql => "IDENTITY"
  | redshift => "IDENTITY(1, 1)"
  | postgres | db2 => "GENERATED BY DEFAULT AS IDENTITY"
  | mysql | mariadb | bigquery | hive => "AUTO_INCREMENT"

/-- Transact-SQL has no hexadecimal string and writes the number instead. -/
def writesHexAsNumber (d : Dialect) : Bool :=
  d = transactSql

end Dialect

/-- The marks around a quoted identifier. -/
inductive QuoteMarks where
  | backtick
  | double
  | bracket
deriving DecidableEq

namespace QuoteMarks

/-- The mark before the identifier. -/
def opening : QuoteMarks → Char
  | backtick => '\x60'
  | double => '"'
  | bracket => '['

/-- The mark after the identifier, the one that is doubled inside it. -/
def closing : QuoteMarks → Char
  | backtick => '\x60'
  | double => '"'
  | bracket => ']'

end QuoteMarks

/-- The marks of a dialect. -/
def Dialect.quoteMarks : Dialect → QuoteMarks
  | mysql | mariadb | sqlite | bigquery | hive => .backtick
  | postgres | redshift | snowflake | db2 => .double
  | transactSql => .bracket

end SqlPrinter
