/-
The features that a statement uses, and the check of a strict policy: the first
of them, in the order of `Feature`, that the dialect lacks is an error.
-/
import SqlPrinter.Ast.Statement
import SqlPrinter.Error
import SqlPrinter.Settings

namespace SqlPrinter.Usage

variable (settings : Settings)

mutual

/-- The features that an expression uses, at any depth. -/
def ofExpr : Expr → List Feature
  | .column _ | .star _ | .keyword _ | .literal _ | .parameter _ | .var _ _ => []
  | .binary left op right =>
      (if op = .standard .ilike ∨ op = .standard .notIlike then [.ilike] else []) ++
        ofExpr left ++ ofExpr right
  | .unary _ operand => ofExpr operand
  | .between subject _ low high => ofExpr subject ++ ofExpr low ++ ofExpr high
  | .paren inner => ofExpr inner
  | .list items => ofExprs items
  | .function call => ofCall call
  | .aggregate call => ofAggregate call
  | .cast conversion => ofCast conversion
  | .extract call => ofExtract call
  | .anyValue call => ofAnyValue call
  | .case operand branches otherwise =>
      ofOptional operand ++ ofBranches branches ++ ofOptional otherwise
  | .subquery query => ofQuery query
  | .collate subject _ => ofExpr subject
  | .fullText _ against _ => .fullTextMatch :: ofExpr against
  | .interval amount _ => ofExpr amount

def ofExprs : List Expr → List Feature
  | [] => []
  | e :: es => ofExpr e ++ ofExprs es

def ofOptional : Option Expr → List Feature
  | none => []
  | some e => ofExpr e

def ofBranches : List (Expr × Expr) → List Feature
  | [] => []
  | (condition, value) :: rest =>
      ofExpr condition ++ ofExpr value ++ ofBranches rest

def ofRows : List (List Expr) → List Feature
  | [] => []
  | row :: rows => ofExprs row ++ ofRows rows

/-- The features of a call; without arguments the suffix still counts. -/
def ofCall : FunctionCall → List Feature
  | { args, suffix, window, .. } =>
      (match args with
        | none => []
        | some args => ofExprs args) ++ ofOptional suffix ++ ofOver window

def ofAggregate : Aggregate → List Feature
  | { args, orderBy, separator, filter, window, .. } =>
      ofExprs args ++ ofOrder orderBy ++ ofOptional separator ++
        ofOptional filter ++ ofOver window

/-- The features of a cast.  The members of its type do not count. -/
def ofCast : Cast → List Feature
  | { subject, form, tail, .. } =>
      (if form = .doubleColon then [.doubleColonCast] else []) ++ ofExpr subject ++
        (match tail with
          | none => []
          | some { operand, .. } => ofExpr operand)

def ofExtract : Extract → List Feature
  | { source, .. } => ofExpr source

def ofAnyValue : AnyValue → List Feature
  | { subject, having, window, .. } =>
      ofExpr subject ++
        (match having with
          | none => []
          | some { subject, .. } => ofExpr subject) ++ ofOver window

def ofOver : Option Over → List Feature
  | none | some (.named _) => []
  | some (.spec window) => ofWindow window

def ofWindow : WindowSpec → List Feature
  | { partitionBy, orderBy, frame, .. } =>
      ofExprs partitionBy ++ ofOrder orderBy ++
        (match frame with
          | none => []
          | some { first, last, .. } =>
              ofBound first ++ (match last with
                | none => []
                | some last => ofBound last))

def ofBound : FrameBound → List Feature
  | .preceding distance | .following distance => ofExpr distance
  | .unboundedPreceding | .currentRow | .unboundedFollowing => []

/-- The features of sort keys.  Settings that emulate the order of null values do
not use the feature. -/
def ofOrder : List OrderItem → List Feature
  | [] => []
  | { key, nulls, .. } :: items =>
      (if nulls.isSome && !settings.emulateNulls then [.nullsOrdering] else []) ++
        ofExpr key ++ ofOrder items

def ofQuery : Query → List Feature
  | { ctes, body, orderBy, limit, offset } =>
      (match ctes with
        | none => []
        | some ctes =>
            ofWith ctes) ++ ofBody body ++ ofOrder orderBy ++ ofOptional limit ++
        ofOptional offset

def ofBody : QueryBody → List Feature
  | .select select => ofSelect select
  | .combine left op right =>
      (if op = .minus then [.minus] else []) ++ ofBody left ++ ofBody right

def ofSelect : Select → List Feature
  | { distinctOn, items, into, tables, joins, condition, groupBy,
      groupModifiers, having, windows, orderBy, limit, offset, .. } =>
      (if distinctOn.isEmpty then [] else [.distinctOn]) ++ ofExprs distinctOn ++
        ofItems items ++
        (match into with
          | some { target := .vars vars, .. } => ofExprs vars
          | _ => []) ++
        ofTables tables ++ ofJoins joins ++ ofOptional condition ++
        ofExprs groupBy ++ ofModifiers groupModifiers ++ ofOptional having ++
        ofWindows windows ++ ofOrder orderBy ++ ofOptional limit ++
        ofOptional offset

def ofItems : List SelectItem → List Feature
  | [] => []
  | .expr value _ :: items => ofExpr value ++ ofItems items
  | .star :: items | .qualifiedStar _ :: items => ofItems items

def ofModifiers : List GroupModifier → List Feature
  | [] => []
  | .rollup :: rest => .groupByRollup :: ofModifiers rest
  | .cube :: rest => .groupByCube :: ofModifiers rest
  | .groupingSets sets :: rest => .groupingSets :: (ofRows sets ++ ofModifiers rest)

def ofTables : List TableRef → List Feature
  | [] => []
  | table :: tables => ofTable table ++ ofTables tables

def ofTable : TableRef → List Feature
  | .named _ _ _ => []
  | .subquery query _ => ofQuery query
  | .function call _ => ofCall call
  | .values rows _ _ => ofRows rows
  | .paren table => ofTable table

def ofJoins : List Join → List Feature
  | [] => []
  | { table, condition, .. } :: joins =>
      ofTable table ++ ofOptional condition ++ ofJoins joins

def ofWindows : List NamedWindow → List Feature
  | [] => []
  | { window, .. } :: windows => ofWindow window ++ ofWindows windows

def ofWith : With → List Feature
  | { tables, .. } => ofCtes tables

def ofCtes : List Cte → List Feature
  | [] => []
  | { materialized, query, .. } :: ctes =>
      (if materialized.isSome then [.cteMaterialized] else []) ++ ofQuery query ++
        ofCtes ctes

end

def ofWith? : Option With → List Feature
  | none => []
  | some ctes => ofWith settings ctes

def ofAssignments (assignments : List Assignment) : List Feature :=
  assignments.flatMap fun a => ofExpr settings a.value

/-- The features of a RETURNING clause, and the clause itself. -/
def ofReturning (items : List SelectItem) : List Feature :=
  if items.isEmpty then [] else .returning :: ofItems settings items

def ofSource : RowSource → List Feature
  | .values rows => ofRows settings rows
  | .query query => ofQuery settings query
  | .assignments assignments => ofAssignments settings assignments

/-- The features of a conflict clause.  The clause itself is a different feature
in the MySQL family. -/
def ofConflict : Option ConflictClause → List Feature
  | none => []
  | some clause =>
      (if settings.dialect.isMysqlFamily then .onDuplicateKey else .onConflict) ::
        match clause.action with
        | some (.doUpdate assignments condition) =>
            ofAssignments settings assignments ++ ofOptional settings condition
        | some .doNothing | none => []

def ofInsert (i : Insert) : List Feature :=
  (if i.ignore then [.insertIgnore] else []) ++ ofConflict settings i.conflict ++
    ofSource settings i.source ++ ofReturning settings i.returning

def ofUpdate (u : Update) : List Feature :=
  ofWith? settings u.ctes ++ ofTable settings u.table ++ ofJoins settings u.joins ++
    ofAssignments settings u.assignments ++ ofTables settings u.tables ++
    ofOptional settings u.condition ++ ofOrder settings u.orderBy ++
    ofOptional settings u.limit ++ ofReturning settings u.returning

def ofDelete (d : Delete) : List Feature :=
  ofWith? settings d.ctes ++ ofTables settings d.tables ++
    ofJoins settings d.joins ++ ofTables settings d.usingTables ++
    ofOptional settings d.condition ++ ofOrder settings d.orderBy ++
    ofOptional settings d.limit ++ ofReturning settings d.returning

/-- The features of a statement.  In a statement about tables only the query
counts. -/
def ofStatement : Statement → List Feature
  | .query q => ofQuery settings q
  | .insert i => ofInsert settings i
  | .update u => ofUpdate settings u
  | .delete d => ofDelete settings d
  | .createTable t =>
      match t.query with
      | none => []
      | some q => ofQuery settings q
  | .createView v => ofQuery settings v.query
  | .createDatabase _ | .createIndex _ | .alterTable _ | .drop _ | .list _
  | .analyze _
  | .attach _ => []

/-- The first feature of a list, in the order of `Feature`, that a dialect
lacks. -/
def firstUnsupported (d : Dialect) (used : List Feature) : Option Feature :=
  Feature.all.find? fun f => f ∈ used && !d.supports f

end SqlPrinter.Usage

namespace SqlPrinter

/-- The error of a strict policy, if the features in use call for one. -/
def Settings.reject? (settings : Settings) (used : List Feature) : Option Error :=
  match settings.policy with
  | .lenient => none
  | .strict =>
      (Usage.firstUnsupported settings.dialect used).map fun f =>
        .unsupportedFeature f settings.dialect

/-- Why a statement is refused, if it is. -/
def Statement.rejection? (settings : Settings) (s : Statement) : Option Error :=
  settings.reject? (Usage.ofStatement settings s)

/-- Why a query is refused, if it is. -/
def Query.rejection? (settings : Settings) (q : Query) : Option Error :=
  settings.reject? (Usage.ofQuery settings q)

end SqlPrinter
