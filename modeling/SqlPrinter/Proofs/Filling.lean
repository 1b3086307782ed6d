/-
Statements with other contents.  A filling puts other texts in the place of the
names and strings of a statement and other parameters in the place of the bound
ones; the shape of the statement and every other text stay.  Each bound
parameter has a site, the way to it from the top of the statement, so that a
filling may treat two of them differently.
-/
import SqlPrinter.Ast.Statement

namespace SqlPrinter

/-- A step on the way to a parameter. -/
inductive Step where
  /-- Into one of several parts. -/
  | part (i : Nat)
  /-- Into a sort key that says where null values go. -/
  | nullsKey
deriving DecidableEq

/-- The way to a node, with the last step first.  A part that stands alone in its
node has the way of the node. -/
abbrev Site :=
  List Step

/-- The way to a part of a node. -/
def Site.part (p : Site) (i : Nat) : Site :=
  .part i :: p

/-- What to put in the place of names, strings and bound parameters.  An empty
name counts as a missing one, so that it has to stay empty. -/
structure Filling where
  name : String → String
  string : String → String
  bind : Site → Parameter
  name_eq_empty : ∀ s, name s = "" ↔ s = ""

/-- The number of the place of an INTO clause, among the parts of a SELECT. -/
def IntoPosition.part : IntoPosition → Nat
  | afterColumns => 13
  | beforeLock => 14
  | atEnd => 15

namespace Filling

variable (f : Filling)

/-! ## Parts without expressions -/

def column (ref : ColumnRef) : ColumnRef where
  schema := ref.schema.map f.name
  table := ref.table.map f.name
  column := f.name ref.column

def object (o : ObjectName) : ObjectName where
  schema := o.schema.map f.name
  name := f.name o.name

def literal : Literal → Literal
  | .string value charset => .string (f.string value) charset
  | .national value => .national (f.string value)
  | .typed kind value => .typed kind (f.string value)
  | .hex digits form charset => .hex digits form charset
  | .bit digits form charset => .bit digits form charset
  | .number digits => .number digits
  | .bool value => .bool value
  | .null => .null

def parameter (p : Site) : Parameter → Parameter
  | .bind => f.bind p
  | .question => .question
  | .dollar index => .dollar index
  | .named s => .named s

def locking (l : Locking) : Locking :=
  { l with tables := l.tables.map f.name }

def reference (r : Reference) : Reference :=
  { r with table := f.object r.table, columns := r.columns.map f.name }

def indexColumn (c : IndexColumn) : IndexColumn :=
  { c with column := f.name c.column }

def index (i : IndexDef) : IndexDef :=
  { i with name := i.name.map f.name, columns := i.columns.map f.indexColumn }

/-! ## Queries -/

mutual

/-- Fill an expression. -/
def expr (p : Site) : Expr → Expr
  | .column ref => .column (f.column ref)
  | .star table => .star (table.map f.name)
  | .keyword word => .keyword word
  | .literal value => .literal (f.literal value)
  | .parameter param => .parameter (f.parameter p param)
  | .var sigil name => .var sigil name
  | .binary left op right =>
      .binary (expr (p.part 0) left) op (expr (p.part 1) right)
  | .unary op operand => .unary op (expr p operand)
  | .between subject negated low high =>
      .between (expr (p.part 0) subject) negated (expr (p.part 1) low)
        (expr (p.part 2) high)
  | .paren inner => .paren (expr p inner)
  | .list items => .list (exprs p items)
  | .function c => .function (call p c)
  | .aggregate a => .aggregate (aggregate p a)
  | .cast c => .cast (cast p c)
  | .extract x => .extract (extract p x)
  | .anyValue a => .anyValue (anyValue p a)
  | .case operand bs otherwise =>
      .case (expr? (p.part 0) operand) (branches (p.part 1) bs)
        (expr? (p.part 2) otherwise)
  | .subquery q => .subquery (query p q)
  | .collate subject collation => .collate (expr p subject) collation
  | .fullText columns against mode =>
      .fullText (columns.map f.column) (expr p against) mode
  | .interval amount unit => .interval (expr p amount) unit

def exprs (p : Site) : List Expr → List Expr
  | [] => []
  | e :: es => expr (p.part 0) e :: exprs (p.part 1) es

def expr? (p : Site) : Option Expr → Option Expr
  | none => none
  | some e => some (expr p e)

def rows (p : Site) : List (List Expr) → List (List Expr)
  | [] => []
  | r :: rs => exprs (p.part 0) r :: rows (p.part 1) rs

def branches (p : Site) : List (Expr × Expr) → List (Expr × Expr)
  | [] => []
  | (condition, value) :: rest =>
      (expr (p.part 0) condition, expr (p.part 1) value) :: branches (p.part 2) rest

def call (p : Site) : FunctionCall → FunctionCall
  | { name, args, argsParentheses, separator, parentheses, window, collate,
      suffix } =>
      { name, args := exprs? (p.part 0) args, argsParentheses, separator,
        parentheses, window := over? (p.part 2) window, collate,
        suffix := expr? (p.part 1) suffix }

def exprs? (p : Site) : Option (List Expr) → Option (List Expr)
  | none => none
  | some es => some (exprs p es)

def aggregate (p : Site) : Aggregate → Aggregate
  | { name, distinct, args, orderBy, separator, filter, window } =>
      { name, distinct, args := exprs (p.part 0) args,
        orderBy := sortKeys (p.part 1) orderBy,
        separator := expr? (p.part 2) separator, filter := expr? (p.part 3) filter,
        window := over? (p.part 4) window }

def dataType (p : Site) : DataType → DataType
  | { name, length, scale, parentheses, quoted, suffix, array, values } =>
      { name, length, scale, parentheses, quoted, suffix, array,
        values := exprs p values }

def cast (p : Site) : Cast → Cast
  | { subject, target, form, keyword, tail, rename, collate } =>
      { subject := expr (p.part 0) subject, target := dataType (p.part 1) target,
        form, keyword, tail := castTail (p.part 2) tail,
        rename := rename.map f.name, collate }

def castTail (p : Site) : Option CastTail → Option CastTail
  | none => none
  | some { operator, operand } => some { operator, operand := expr p operand }

def extract (p : Site) : Extract → Extract
  | { name, field, castType, source } =>
      { name, field, castType, source := expr p source }

def anyValue (p : Site) : AnyValue → AnyValue
  | { name, subject, having, window } =>
      { name, subject := expr (p.part 0) subject,
        having := anyValueHaving (p.part 1) having,
        window := over? (p.part 2) window }

def anyValueHaving (p : Site) : Option AnyValueHaving → Option AnyValueHaving
  | none => none
  | some { bound, subject } => some { bound, subject := expr p subject }

def over? (p : Site) : Option Over → Option Over
  | none => none
  | some (.named name) => some (.named name)
  | some (.spec w) => some (.spec (window p w))

def window (p : Site) : WindowSpec → WindowSpec
  | { base, partitionBy, orderBy, frame } =>
      { base, partitionBy := exprs (p.part 0) partitionBy,
        orderBy := sortKeys (p.part 1) orderBy, frame := frame? (p.part 2) frame }

def frame? (p : Site) : Option WindowFrame → Option WindowFrame
  | none => none
  | some { units, first, last } =>
      some
        { units, first := bound (p.part 0) first, last := bound? (p.part 1) last }

def bound (p : Site) : FrameBound → FrameBound
  | .unboundedPreceding => .unboundedPreceding
  | .preceding distance => .preceding (expr p distance)
  | .currentRow => .currentRow
  | .following distance => .following (expr p distance)
  | .unboundedFollowing => .unboundedFollowing

def bound? (p : Site) : Option FrameBound → Option FrameBound
  | none => none
  | some b => some (bound p b)

def sortKeys (p : Site) : List OrderItem → List OrderItem
  | [] => []
  | k :: ks => sortKey (p.part 0) k :: sortKeys (p.part 1) ks

def sortKey (p : Site) : OrderItem → OrderItem
  | { key, direction, nulls } =>
      { key := expr (if nulls.isSome then .nullsKey :: p else p) key,
        direction, nulls }

def query (p : Site) : Query → Query
  | { ctes, body := b, orderBy, limit, offset } =>
      { ctes := with? (p.part 0) ctes, body := body (p.part 1) b,
        orderBy := sortKeys (p.part 2) orderBy, limit := expr? (p.part 3) limit,
        offset := expr? (p.part 4) offset }

def body (p : Site) : QueryBody → QueryBody
  | .select s => .select (select p s)
  | .combine left op right =>
      .combine (body (p.part 0) left) op (body (p.part 1) right)

def select (p : Site) : Select → Select
  | { distinct, distinctOn, options, items := columns, into, tables := sources,
      joins := others, condition, groupBy, groupModifiers, having, windows := named,
      orderBy, limit, offset, locking := lock } =>
      { distinct, distinctOn := exprs (p.part 0) distinctOn, options,
        items := items (p.part 1) columns, into := into? p into,
        tables := tables (p.part 2) sources, joins := joins (p.part 3) others,
        condition := expr? (p.part 4) condition,
        groupBy := exprs (p.part 5) groupBy,
        groupModifiers := modifiers (p.part 6) groupModifiers,
        having := expr? (p.part 7) having, windows := windows (p.part 8) named,
        orderBy := sortKeys (p.part 9) orderBy, limit := expr? (p.part 10) limit,
        offset := expr? (p.part 11) offset, locking := lock.map f.locking }

def items (p : Site) : List SelectItem → List SelectItem
  | [] => []
  | i :: is => item (p.part 0) i :: items (p.part 1) is

def item (p : Site) : SelectItem → SelectItem
  | .star => .star
  | .qualifiedStar table => .qualifiedStar (f.name table)
  | .expr value rename => .expr (expr p value) (rename.map f.name)

def modifiers (p : Site) : List GroupModifier → List GroupModifier
  | [] => []
  | .rollup :: rest => .rollup :: modifiers p rest
  | .cube :: rest => .cube :: modifiers p rest
  | .groupingSets sets :: rest =>
      .groupingSets (rows (p.part 0) sets) :: modifiers (p.part 1) rest

/-- Fill an INTO clause.  It is printed at one of three places, so that the place
is a part of the way. -/
def into? (p : Site) : Option SelectInto → Option SelectInto
  | none => none
  | some { position, target } =>
      some { position, target := into (p.part position.part) target }

def into (p : Site) : IntoTarget → IntoTarget
  | .vars vars => .vars (exprs p vars)
  | .outfile file charset => .outfile (f.string file) charset
  | .dumpfile file => .dumpfile (f.string file)
  | .table name => .table (f.name name)

def tables (p : Site) : List TableRef → List TableRef
  | [] => []
  | t :: ts => table (p.part 0) t :: tables (p.part 1) ts

def table (p : Site) : TableRef → TableRef
  | .named schema name rename =>
      .named (schema.map f.name) (f.name name) (rename.map f.name)
  | .subquery q rename => .subquery (query p q) (rename.map f.name)
  | .function c rename => .function (call p c) (rename.map f.name)
  | .values values rowKeyword rename =>
      .values (rows p values) rowKeyword (rename.map f.name)
  | .paren t => .paren (table p t)

def joins (p : Site) : List Join → List Join
  | [] => []
  | j :: js => join (p.part 0) j :: joins (p.part 1) js

def join (p : Site) : Join → Join
  | { kind, table := t, condition, columns } =>
      { kind, table := table (p.part 0) t, condition := expr? (p.part 1) condition,
        columns := columns.map (·.map f.name) }

def windows (p : Site) : List NamedWindow → List NamedWindow
  | [] => []
  | { name, window := w } :: ws =>
      { name, window := window (p.part 0) w } :: windows (p.part 1) ws

def with? (p : Site) : Option With → Option With
  | none => none
  | some { recursive, tables := cs } => some { recursive, tables := ctes p cs }

def ctes (p : Site) : List Cte → List Cte
  | [] => []
  | c :: cs => cte (p.part 0) c :: ctes (p.part 1) cs

def cte (p : Site) : Cte → Cte
  | { name, columns, materialized, query := q } =>
      { name := f.name name, columns := columns.map f.name, materialized,
        query := query p q }

end

section Lengths

variable (p : Site)

@[simp] theorem isEmpty_exprs (es : List Expr) :
    (f.exprs p es).isEmpty = es.isEmpty := by
  cases es <;> rfl

@[simp] theorem isEmpty_rows (rs : List (List Expr)) :
    (f.rows p rs).isEmpty = rs.isEmpty := by
  cases rs <;> rfl

@[simp] theorem isEmpty_branches (bs : List (Expr × Expr)) :
    (f.branches p bs).isEmpty = bs.isEmpty := by
  rcases bs with _ | ⟨⟨condition, value⟩, bs⟩ <;> rfl

@[simp] theorem isEmpty_sortKeys (ks : List OrderItem) :
    (f.sortKeys p ks).isEmpty = ks.isEmpty := by
  cases ks <;> rfl

@[simp] theorem isEmpty_items (is : List SelectItem) :
    (f.items p is).isEmpty = is.isEmpty := by
  cases is <;> rfl

@[simp] theorem isEmpty_tables (ts : List TableRef) :
    (f.tables p ts).isEmpty = ts.isEmpty := by
  cases ts <;> rfl

@[simp] theorem isEmpty_windows (ws : List NamedWindow) :
    (f.windows p ws).isEmpty = ws.isEmpty := by
  rcases ws with _ | ⟨⟨name, w⟩, ws⟩ <;> rfl

@[simp] theorem isEmpty_ctes (cs : List Cte) :
    (f.ctes p cs).isEmpty = cs.isEmpty := by
  cases cs <;> rfl

/-- The kinds of modifiers stay, whatever is in the grouping sets. -/
theorem any_modifiers {g : GroupModifier → Bool}
    (hg : ∀ a b, g (.groupingSets a) = g (.groupingSets b))
    (ms : List GroupModifier) : (f.modifiers p ms).any g = ms.any g := by
  induction ms generalizing p with
  | nil => rfl
  | cons m ms ih =>
      cases m with
      | groupingSets sets => simp [modifiers, ih, hg (f.rows (p.part 0) sets) sets]
      | _ => simp [modifiers, ih]

end Lengths

/-! ## Changes of rows -/

/-- Fill an assignment. -/
def assignment (p : Site) (a : Assignment) : Assignment :=
  { a with
    table := a.table.map f.name, column := f.name a.column,
    value := f.expr p a.value }

def assignments (p : Site) : List Assignment → List Assignment
  | [] => []
  | a :: as => f.assignment (p.part 0) a :: assignments (p.part 1) as

@[simp] theorem isEmpty_assignments (p : Site) (as : List Assignment) :
    (f.assignments p as).isEmpty = as.isEmpty := by
  cases as <;> rfl

/-- A filling changes no reference to the inserted row. -/
theorem any_fromInserted_assignments (p : Site) (as : List Assignment) :
    (f.assignments p as).any (·.fromInserted) = as.any (·.fromInserted) := by
  induction as generalizing p with
  | nil => rfl
  | cons a as ih => simp [assignments, assignment, ih]

def source (p : Site) : RowSource → RowSource
  | .values values => .values (f.rows p values)
  | .query q => .query (f.query p q)
  | .assignments as => .assignments (f.assignments p as)

def conflictAction (p : Site) : ConflictAction → ConflictAction
  | .doNothing => .doNothing
  | .doUpdate as condition =>
      .doUpdate (f.assignments (p.part 0) as) (f.expr? (p.part 1) condition)

def conflict (p : Site) (c : ConflictClause) : ConflictClause where
  columns := c.columns.map f.name
  constraint := c.constraint.map f.name
  action := c.action.map (f.conflictAction p)

def insert (p : Site) (i : Insert) : Insert :=
  { i with
    table := f.table (p.part 0) i.table
    columns := i.columns.map f.name
    source := f.source (p.part 1) i.source
    conflict := i.conflict.map (f.conflict (p.part 2))
    returning := f.items (p.part 3) i.returning }

def update (p : Site) (u : Update) : Update where
  ctes := f.with? (p.part 0) u.ctes
  fallback := u.fallback
  table := f.table (p.part 1) u.table
  joins := f.joins (p.part 2) u.joins
  assignments := f.assignments (p.part 3) u.assignments
  tables := f.tables (p.part 4) u.tables
  condition := f.expr? (p.part 5) u.condition
  orderBy := f.sortKeys (p.part 6) u.orderBy
  limit := f.expr? (p.part 7) u.limit
  returning := f.items (p.part 8) u.returning

def delete (p : Site) (d : Delete) : Delete where
  ctes := f.with? (p.part 0) d.ctes
  targets := d.targets.map f.name
  tables := f.tables (p.part 1) d.tables
  joins := f.joins (p.part 2) d.joins
  usingTables := f.tables (p.part 3) d.usingTables
  condition := f.expr? (p.part 4) d.condition
  orderBy := f.sortKeys (p.part 5) d.orderBy
  limit := f.expr? (p.part 6) d.limit
  returning := f.items (p.part 7) d.returning

/-! ## Statements about tables -/

def columnDef (p : Site) (c : ColumnDef) : ColumnDef where
  name := f.name c.name
  dataType := c.dataType.map (f.dataType (p.part 0))
  options :=
    { c.options with
      default := f.expr? (p.part 1) c.options.default
      onUpdate := f.expr? (p.part 2) c.options.onUpdate
      comment := c.options.comment.map f.string
      check := f.expr? (p.part 3) c.options.check
      references := c.options.references.map f.reference }

def constraint (p : Site) : TableConstraint → TableConstraint
  | .primaryKey s columns method =>
      .primaryKey (s.map f.name) (columns.map f.indexColumn) method
  | .unique s keyword name columns method =>
      .unique (s.map f.name) keyword (name.map f.name)
        (columns.map f.indexColumn) method
  | .foreignKey s columns references =>
      .foreignKey (s.map f.name) (columns.map f.name) (f.reference references)
  | .check s condition => .check (s.map f.name) (f.expr p condition)

def element (p : Site) : TableElement → TableElement
  | .column c => .column (f.columnDef p c)
  | .constraint c => .constraint (f.constraint p c)
  | .index i => .index (f.index i)

def elements (p : Site) : List TableElement → List TableElement
  | [] => []
  | e :: es => f.element (p.part 0) e :: elements (p.part 1) es

def action (p : Site) : AlterAction → AlterAction
  | .addColumn word c => .addColumn word (f.columnDef p c)
  | .dropColumn word name => .dropColumn word (f.name name)
  | .modifyColumn word c => .modifyColumn word (f.columnDef p c)
  | .changeColumn word old c => .changeColumn word (f.name old) (f.columnDef p c)
  | .renameColumn old new => .renameColumn (f.name old) (f.name new)
  | .addConstraint c => .addConstraint (f.constraint p c)
  | .addIndex i => .addIndex (f.index i)
  | .dropIndex name => .dropIndex (f.name name)
  | .dropPrimaryKey => .dropPrimaryKey
  | .renameTable o => .renameTable (f.object o)
  | .setOption o => .setOption o

def actions (p : Site) : List AlterAction → List AlterAction
  | [] => []
  | a :: as => f.action (p.part 0) a :: actions (p.part 1) as

def listed : Show → Show
  | .tables database => .tables (database.map f.name)
  | .databases => .databases
  | .columns o => .columns (f.object o)
  | .index o => .index (f.object o)
  | .create kind o => .create kind (f.object o)

/-- Fill a statement. -/
def statement (p : Site) : Statement → Statement
  | .query q => .query (f.query p q)
  | .insert i => .insert (f.insert p i)
  | .update u => .update (f.update p u)
  | .delete d => .delete (f.delete p d)
  | .createTable t =>
      .createTable
        { t with
          name := f.object t.name
          elements := f.elements (p.part 0) t.elements
          query := t.query.map (f.query (p.part 1))
          like := t.like.map f.object }
  | .createDatabase d => .createDatabase { d with name := f.name d.name }
  | .createView v =>
      .createView
        { v with
          name := f.object v.name
          columns := v.columns.map f.name
          query := f.query p v.query }
  | .createIndex i =>
      .createIndex
        { i with
          name := f.name i.name
          table := f.object i.table
          columns := i.columns.map f.indexColumn }
  | .alterTable t =>
      .alterTable { name := f.object t.name, actions := f.actions p t.actions }
  | .drop d =>
      .drop { d with names := d.names.map f.object, table := d.table.map f.object }
  | .list target => .list (f.listed target)
  | .analyze a => .analyze { a with names := a.names.map f.object }
  | .attach a => .attach { file := f.expr p a.file, schema := f.name a.schema }

end Filling

end SqlPrinter
