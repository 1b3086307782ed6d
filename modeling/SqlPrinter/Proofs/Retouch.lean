/-
Statements with small changes that are not meant to be seen: another letter case in
the words that are printed in upper case, another way to leave an optional text out,
and other sort keys in the place of one.  A retouch makes such a change everywhere
in a statement, at any depth.
-/
import SqlPrinter.Ast.Statement
import SqlPrinter.Proofs.Character
import SqlPrinter.Text.Blank

namespace SqlPrinter

/-- What to change. -/
structure Retouch where
  /-- A word that is printed in upper case. -/
  word : String → String
  /-- A text that may be missing. -/
  text : Option String → Option String
  /-- A sort key. -/
  keys : OrderItem → List OrderItem
  toUpper_word : ∀ s, (word s).toUpper = s.toUpper
  nonEmpty_text : ∀ o, Text.nonEmpty (text o) = Text.nonEmpty o
  keys_ne_nil : ∀ k, keys k ≠ []

/-- Is this a table option whose value is a word? -/
def TableOption.takesWord (o : TableOption) : Bool :=
  o.keyword.toUpper = "ENGINE" || o.keyword.toUpper = "ROW_FORMAT"

namespace Retouch

/-- Change nothing but the way to leave an optional text out. -/
def ofText (text : Option String → Option String)
    (h : ∀ o, Text.nonEmpty (text o) = Text.nonEmpty o) : Retouch where
  word := id
  text := text
  keys k := [k]
  toUpper_word _ := rfl
  nonEmpty_text := h
  keys_ne_nil _ := List.cons_ne_nil _ _

variable (ρ : Retouch)

theorem word_eq_empty_iff (s : String) : ρ.word s = "" ↔ s = "" := by
  rw [← Text.toUpper_eq_empty_iff, ρ.toUpper_word, Text.toUpper_eq_empty_iff]

/-! ## Parts without expressions -/

def word? (o : Option String) : Option String :=
  (ρ.text o).map ρ.word

def column (ref : ColumnRef) : ColumnRef :=
  { ref with schema := ρ.text ref.schema, table := ρ.text ref.table }

def keywordValue (kv : KeywordValue) : KeywordValue where
  keyword := ρ.word kv.keyword
  symbol := ρ.text kv.symbol
  value := ρ.word kv.value

def literal : Literal → Literal
  | .string value charset => .string value (ρ.word? charset)
  | .national value => .national value
  | .hex digits form charset => .hex digits form (ρ.word? charset)
  | .bit digits form charset => .bit digits form (ρ.word? charset)
  | .number digits => .number digits
  | .bool value => .bool value
  | .null => .null
  | .typed kind value => .typed (ρ.word kind) value

def option (o : TableOption) : TableOption where
  keyword := ρ.word o.keyword
  value := if o.takesWord then ρ.word o.value else o.value

/-! ## Queries -/

mutual

/-- Retouch an expression. -/
def expr : Expr → Expr
  | .column ref => .column (ρ.column ref)
  | .star table => .star (ρ.text table)
  | .keyword word => .keyword (ρ.word word)
  | .literal value => .literal (ρ.literal value)
  | .parameter param => .parameter param
  | .var sigil name => .var sigil name
  | .binary left op right => .binary (expr left) op (expr right)
  | .unary op operand => .unary op (expr operand)
  | .between subject negated low high =>
      .between (expr subject) negated (expr low) (expr high)
  | .paren inner => .paren (expr inner)
  | .list items => .list (exprs items)
  | .function c => .function (call c)
  | .aggregate a => .aggregate (aggregate a)
  | .cast c => .cast (cast c)
  | .extract x => .extract (extract x)
  | .anyValue a => .anyValue (anyValue a)
  | .case operand bs otherwise =>
      .case (expr? operand) (branches bs) (expr? otherwise)
  | .subquery q => .subquery (query q)
  | .collate subject collation => .collate (expr subject) (ρ.keywordValue collation)
  | .fullText columns against mode =>
      .fullText (columns.map ρ.column) (expr against) (ρ.word? mode)
  | .interval amount unit => .interval (expr amount) (ρ.word unit)

def exprs : List Expr → List Expr
  | [] => []
  | e :: es => expr e :: exprs es

def expr? : Option Expr → Option Expr
  | none => none
  | some e => some (expr e)

def rows : List (List Expr) → List (List Expr)
  | [] => []
  | r :: rs => exprs r :: rows rs

def branches : List (Expr × Expr) → List (Expr × Expr)
  | [] => []
  | (condition, value) :: rest => (expr condition, expr value) :: branches rest

def call : FunctionCall → FunctionCall
  | { name, args, argsParentheses, separator, parentheses, window, collate,
      suffix } =>
      { name, args := exprs? args, argsParentheses, separator := ρ.text separator,
        parentheses, window := over? window, collate := collate.map ρ.keywordValue,
        suffix := expr? suffix }

def exprs? : Option (List Expr) → Option (List Expr)
  | none => none
  | some es => some (exprs es)

def aggregate : Aggregate → Aggregate
  | { name, distinct, args, orderBy, separator, filter, window } =>
      { name := ρ.word name, distinct, args := exprs args,
        orderBy := sortKeys orderBy, separator := expr? separator,
        filter := expr? filter, window := over? window }

/-- Retouch a type.  A quoted name keeps its letter case. -/
def dataType : DataType → DataType
  | { name, length, scale, parentheses, quoted, suffix, array, values } =>
      { name := if quoted.isNone then ρ.word name else name, length, scale,
        parentheses, quoted, suffix := suffix.map ρ.word, array,
        values := exprs values }

def cast : Cast → Cast
  | { subject, target, form, keyword, tail, rename, collate } =>
      { subject := expr subject, target := dataType target, form,
        keyword := ρ.word? keyword, tail := castTail tail, rename := ρ.text rename,
        collate := collate.map ρ.keywordValue }

def castTail : Option CastTail → Option CastTail
  | none => none
  | some { operator, operand } => some { operator, operand := expr operand }

def extract : Extract → Extract
  | { name, field, castType, source } =>
      { name := ρ.word name, field := ρ.word field, castType := ρ.word? castType,
        source := expr source }

def anyValue : AnyValue → AnyValue
  | { name, subject, having, window } =>
      { name := ρ.word name, subject := expr subject,
        having := anyValueHaving having, window := over? window }

def anyValueHaving : Option AnyValueHaving → Option AnyValueHaving
  | none => none
  | some { bound, subject } =>
      some { bound := ρ.word bound, subject := expr subject }

def over? : Option Over → Option Over
  | none => none
  | some (.named name) => some (.named name)
  | some (.spec w) => some (.spec (window w))

def window : WindowSpec → WindowSpec
  | { base, partitionBy, orderBy, frame } =>
      { base := ρ.text base, partitionBy := exprs partitionBy,
        orderBy := sortKeys orderBy, frame := frame? frame }

def frame? : Option WindowFrame → Option WindowFrame
  | none => none
  | some { units, first, last } =>
      some { units, first := bound first, last := bound? last }

def bound : FrameBound → FrameBound
  | .unboundedPreceding => .unboundedPreceding
  | .preceding distance => .preceding (expr distance)
  | .currentRow => .currentRow
  | .following distance => .following (expr distance)
  | .unboundedFollowing => .unboundedFollowing

def bound? : Option FrameBound → Option FrameBound
  | none => none
  | some b => some (bound b)

/-- Retouch sort keys in order.  What is inside a key is retouched first. -/
def sortKeys : List OrderItem → List OrderItem
  | [] => []
  | { key, direction, nulls } :: ks =>
      ρ.keys { key := expr key, direction, nulls } ++ sortKeys ks

def query : Query → Query
  | { ctes, body := b, orderBy, limit, offset } =>
      { ctes := with? ctes, body := body b, orderBy := sortKeys orderBy,
        limit := expr? limit, offset := expr? offset }

def body : QueryBody → QueryBody
  | .select s => .select (select s)
  | .combine left op right => .combine (body left) op (body right)

def select : Select → Select
  | { distinct, distinctOn, options, items := columns, into, tables := sources,
      joins := others, condition, groupBy, groupModifiers, having, windows := named,
      orderBy, limit, offset, locking } =>
      { distinct, distinctOn := exprs distinctOn, options := options.map ρ.word,
        items := items columns, into := into? into, tables := tables sources,
        joins := joins others, condition := expr? condition,
        groupBy := exprs groupBy, groupModifiers := modifiers groupModifiers,
        having := expr? having, windows := windows named,
        orderBy := sortKeys orderBy, limit := expr? limit, offset := expr? offset,
        locking }

def items : List SelectItem → List SelectItem
  | [] => []
  | i :: is => item i :: items is

def item : SelectItem → SelectItem
  | .star => .star
  | .qualifiedStar table => .qualifiedStar table
  | .expr value rename => .expr (expr value) (ρ.text rename)

def modifiers : List GroupModifier → List GroupModifier
  | [] => []
  | .rollup :: rest => .rollup :: modifiers rest
  | .cube :: rest => .cube :: modifiers rest
  | .groupingSets sets :: rest => .groupingSets (rows sets) :: modifiers rest

def into? : Option SelectInto → Option SelectInto
  | none => none
  | some { position, target } => some { position, target := into target }

def into : IntoTarget → IntoTarget
  | .vars vars => .vars (exprs vars)
  | .outfile file charset => .outfile file (ρ.text charset)
  | .dumpfile file => .dumpfile file
  | .table name => .table name

def tables : List TableRef → List TableRef
  | [] => []
  | t :: ts => table t :: tables ts

def table : TableRef → TableRef
  | .named schema name rename => .named (ρ.text schema) name (ρ.text rename)
  | .subquery q rename => .subquery (query q) (ρ.text rename)
  | .function c rename => .function (call c) (ρ.text rename)
  | .values values rowKeyword rename =>
      .values (rows values) rowKeyword (ρ.text rename)
  | .paren t => .paren (table t)

def joins : List Join → List Join
  | [] => []
  | { kind, table := t, condition, columns } :: js =>
      { kind, table := table t, condition := expr? condition, columns } :: joins js

def windows : List NamedWindow → List NamedWindow
  | [] => []
  | { name, window := w } :: ws => { name, window := window w } :: windows ws

def with? : Option With → Option With
  | none => none
  | some { recursive, tables := cs } => some { recursive, tables := ctes cs }

def ctes : List Cte → List Cte
  | [] => []
  | { name, columns, materialized, query := q } :: cs =>
      { name, columns, materialized, query := query q } :: ctes cs

end

/-! ## Changes of rows -/

def assignment (a : Assignment) : Assignment :=
  { a with table := ρ.text a.table, value := ρ.expr a.value }

def source : RowSource → RowSource
  | .values values => .values (ρ.rows values)
  | .query q => .query (ρ.query q)
  | .assignments as => .assignments (as.map ρ.assignment)

def conflictAction : ConflictAction → ConflictAction
  | .doNothing => .doNothing
  | .doUpdate as condition => .doUpdate (as.map ρ.assignment) (condition.map ρ.expr)

def conflict (c : ConflictClause) : ConflictClause :=
  { c with
    constraint := ρ.text c.constraint, action := c.action.map ρ.conflictAction }

def insert (i : Insert) : Insert :=
  { i with
    table := ρ.table i.table
    source := ρ.source i.source
    conflict := i.conflict.map ρ.conflict
    returning := ρ.items i.returning }

def update (u : Update) : Update where
  ctes := ρ.with? u.ctes
  fallback := u.fallback
  table := ρ.table u.table
  joins := ρ.joins u.joins
  assignments := u.assignments.map ρ.assignment
  tables := ρ.tables u.tables
  condition := ρ.expr? u.condition
  orderBy := ρ.sortKeys u.orderBy
  limit := ρ.expr? u.limit
  returning := ρ.items u.returning

def delete (d : Delete) : Delete where
  ctes := ρ.with? d.ctes
  targets := d.targets
  tables := ρ.tables d.tables
  joins := ρ.joins d.joins
  usingTables := ρ.tables d.usingTables
  condition := ρ.expr? d.condition
  orderBy := ρ.sortKeys d.orderBy
  limit := ρ.expr? d.limit
  returning := ρ.items d.returning

/-! ## Statements about tables -/

def columnDef (c : ColumnDef) : ColumnDef where
  name := c.name
  dataType := c.dataType.map ρ.dataType
  options :=
    { c.options with
      default := ρ.expr? c.options.default
      onUpdate := ρ.expr? c.options.onUpdate
      characterSet := c.options.characterSet.map ρ.word
      collate := c.options.collate.map ρ.word
      check := ρ.expr? c.options.check }

def constraint : TableConstraint → TableConstraint
  | .check name condition => .check name (ρ.expr condition)
  | c => c

def element : TableElement → TableElement
  | .column c => .column (ρ.columnDef c)
  | .constraint c => .constraint (ρ.constraint c)
  | .index i => .index i

def action : AlterAction → AlterAction
  | .addColumn word c => .addColumn word (ρ.columnDef c)
  | .modifyColumn word c => .modifyColumn word (ρ.columnDef c)
  | .changeColumn word old c => .changeColumn word old (ρ.columnDef c)
  | .addConstraint c => .addConstraint (ρ.constraint c)
  | .setOption o => .setOption (ρ.option o)
  | a => a

/-- Retouch a statement. -/
def statement : Statement → Statement
  | .query q => .query (ρ.query q)
  | .insert i => .insert (ρ.insert i)
  | .update u => .update (ρ.update u)
  | .delete d => .delete (ρ.delete d)
  | .createTable t =>
      .createTable
        { t with
          elements := t.elements.map ρ.element
          options := t.options.map ρ.option
          query := t.query.map ρ.query }
  | .createDatabase d =>
      .createDatabase { d with options := d.options.map ρ.option }
  | .createView v => .createView { v with query := ρ.query v.query }
  | .createIndex i => .createIndex i
  | .alterTable t => .alterTable { t with actions := t.actions.map ρ.action }
  | .drop d => .drop d
  | .list target => .list target
  | .analyze a => .analyze a
  | .attach a => .attach { a with file := ρ.expr a.file }

/-! ## Lists -/

@[simp] theorem exprs_eq_map (es : List Expr) : ρ.exprs es = es.map ρ.expr := by
  induction es with
  | nil => rfl
  | cons e es ih => simp [exprs, ih]

@[simp] theorem expr?_eq_map (o : Option Expr) : ρ.expr? o = o.map ρ.expr := by
  cases o <;> rfl

@[simp] theorem exprs?_eq_map (o : Option (List Expr)) :
    ρ.exprs? o = o.map (·.map ρ.expr) := by
  cases o <;> simp [exprs?]

@[simp] theorem rows_eq_map (rs : List (List Expr)) :
    ρ.rows rs = rs.map (·.map ρ.expr) := by
  induction rs with
  | nil => rfl
  | cons r rs ih => simp [rows, ih]

@[simp] theorem branches_eq_map (bs : List (Expr × Expr)) :
    ρ.branches bs = bs.map fun b => (ρ.expr b.1, ρ.expr b.2) := by
  induction bs with
  | nil => rfl
  | cons b bs ih => simp [branches, ih]

@[simp] theorem bound?_eq_map (o : Option FrameBound) :
    ρ.bound? o = o.map ρ.bound := by
  cases o <;> rfl

def sortKey (k : OrderItem) : List OrderItem :=
  ρ.keys { k with key := ρ.expr k.key }

@[simp] theorem sortKeys_eq_flatMap (ks : List OrderItem) :
    ρ.sortKeys ks = ks.flatMap ρ.sortKey := by
  induction ks with
  | nil => rfl
  | cons k ks ih => cases k; simp [sortKeys, sortKey, ih]

@[simp] theorem isEmpty_flatMap_sortKey (ks : List OrderItem) :
    (ks.flatMap ρ.sortKey).isEmpty = ks.isEmpty := by
  cases ks with
  | nil => rfl
  | cons k ks =>
      have hk := ρ.keys_ne_nil { k with key := ρ.expr k.key }
      simpa [sortKey, Bool.eq_false_iff] using fun h => absurd h hk

@[simp] theorem items_eq_map (is : List SelectItem) :
    ρ.items is = is.map ρ.item := by
  induction is with
  | nil => rfl
  | cons i is ih => simp [items, ih]

def modifier : GroupModifier → GroupModifier
  | .groupingSets sets => .groupingSets (ρ.rows sets)
  | m => m

@[simp] theorem modifiers_eq_map (ms : List GroupModifier) :
    ρ.modifiers ms = ms.map ρ.modifier := by
  induction ms with
  | nil => rfl
  | cons m ms ih => cases m <;> simp [modifiers, modifier, ih]

@[simp] theorem tables_eq_map (ts : List TableRef) :
    ρ.tables ts = ts.map ρ.table := by
  induction ts with
  | nil => rfl
  | cons t ts ih => simp [tables, ih]

def join (j : Join) : Join :=
  { j with table := ρ.table j.table, condition := ρ.expr? j.condition }

@[simp] theorem joins_eq_map (js : List Join) : ρ.joins js = js.map ρ.join := by
  induction js with
  | nil => rfl
  | cons j js ih => cases j; simp [joins, join, ih]

def namedWindow (w : NamedWindow) : NamedWindow :=
  { w with window := ρ.window w.window }

@[simp] theorem windows_eq_map (ws : List NamedWindow) :
    ρ.windows ws = ws.map ρ.namedWindow := by
  induction ws with
  | nil => rfl
  | cons w ws ih => cases w; simp [windows, namedWindow, ih]

def cte (c : Cte) : Cte :=
  { c with query := ρ.query c.query }

@[simp] theorem ctes_eq_map (cs : List Cte) : ρ.ctes cs = cs.map ρ.cte := by
  induction cs with
  | nil => rfl
  | cons c cs ih => cases c; simp [ctes, cte, ih]

end Retouch

end SqlPrinter
