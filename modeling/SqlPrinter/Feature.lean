/-
The constructs of SQL that only some dialects have, and the table of who has
which.
-/
import SqlPrinter.Dialect

namespace SqlPrinter

/-- A construct that not every dialect knows.  The order of declaration is the
order in which a strict check names them. -/
inductive Feature where
  | doubleColonCast
  | distinctOn
  | ilike
  | returning
  | minus
  | fullTextMatch
  | cteMaterialized
  | nullsOrdering
  | groupByRollup
  | groupByCube
  | groupingSets
  | insertIgnore
  | onDuplicateKey
  | onConflict
  | attach
deriving DecidableEq

namespace Feature

/-- All features, in the order of their declaration. -/
def all : List Feature :=
  [doubleColonCast, distinctOn, ilike, returning, minus, fullTextMatch,
    cteMaterialized, nullsOrdering, groupByRollup, groupByCube, groupingSets,
    insertIgnore, onDuplicateKey, onConflict, attach]

/-- What a message calls the feature. -/
def label : Feature → String
  | doubleColonCast => "expr::type cast"
  | distinctOn => "DISTINCT ON"
  | ilike => "ILIKE"
  | returning => "RETURNING"
  | minus => "MINUS"
  | fullTextMatch => "MATCH ... AGAINST"
  | cteMaterialized => "WITH [NOT] MATERIALIZED"
  | nullsOrdering => "ORDER BY ... NULLS FIRST/LAST"
  | groupByRollup => "GROUP BY ROLLUP"
  | groupByCube => "GROUP BY CUBE"
  | groupingSets => "GROUP BY GROUPING SETS"
  | insertIgnore => "INSERT IGNORE"
  | onDuplicateKey => "ON DUPLICATE KEY UPDATE"
  | onConflict => "ON CONFLICT"
  | attach => "ATTACH DATABASE"

end Feature

/-- Whether a dialect has a feature. -/
def Dialect.supports (d : Dialect) : Feature → Bool
  | .doubleColonCast | .ilike => d ∈ [postgres, redshift, snowflake]
  | .distinctOn => d = postgres
  | .returning => d ∈ [postgres, sqlite, mariadb]
  | .minus => d ∈ [mariadb, snowflake, db2]
  | .fullTextMatch | .onDuplicateKey => d.isMysqlFamily
  | .cteMaterialized | .onConflict => d ∈ [postgres, sqlite]
  | .nullsOrdering => d ∈ [postgres, redshift, snowflake, sqlite, db2]
  | .groupByRollup => d ∉ [sqlite, hive]
  | .groupByCube | .groupingSets =>
      d ∈ [postgres, redshift, snowflake, bigquery, db2, transactSql]
  | .insertIgnore => d ∈ [mysql, mariadb, sqlite, postgres]
  | .attach => d = sqlite

end SqlPrinter
