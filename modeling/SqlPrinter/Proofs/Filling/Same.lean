/-
The filling that changes nothing.
-/
import SqlPrinter.Proofs.Filling

namespace SqlPrinter.Filling

/-- Put parameters in the place of the bound ones and leave all texts. -/
def binds (bind : Site → Parameter) : Filling where
  name s := s
  string s := s
  bind := bind
  name_eq_empty _ := Iff.rfl

/-- Leave everything as it is. -/
def same : Filling :=
  binds fun _ => .bind

section Names

@[simp] theorem same_name (s : String) : same.name s = s := rfl

@[simp] theorem same_string (s : String) : same.string s = s := rfl

@[simp] theorem map_same_name (o : Option String) : o.map same.name = o := by
  cases o <;> rfl

@[simp] theorem map_same_string (o : Option String) : o.map same.string = o := by
  cases o <;> rfl

@[simp] theorem map_same_names (ss : List String) : ss.map same.name = ss :=
  List.map_id' ss

@[simp] theorem same_column (ref : ColumnRef) : same.column ref = ref := by
  simp [column]

@[simp] theorem map_same_column (refs : List ColumnRef) :
    refs.map same.column = refs := by
  induction refs with
  | nil => rfl
  | cons ref refs ih => simp [ih]

@[simp] theorem same_object (o : ObjectName) : same.object o = o := by
  simp [object]

@[simp] theorem same_literal (v : Literal) : same.literal v = v := by
  cases v <;> rfl

@[simp] theorem same_parameter (p : Site) (param : Parameter) :
    same.parameter p param = param := by
  cases param <;> rfl

@[simp] theorem map_same_locking (l : Option Locking) : l.map same.locking = l := by
  cases l <;> simp [locking]

end Names

mutual

/-- The filling that changes nothing leaves an expression as it is, by induction on
the syntax. -/
theorem same_expr (p : Site) : ∀ e : Expr, same.expr p e = e
  | .column _ | .star _ | .keyword _ | .literal _ | .parameter _ | .var _ _ => by
      simp [expr]
  | .binary left op right => by simp [expr, same_expr _ left, same_expr _ right]
  | .unary _ operand => by simp [expr, same_expr p operand]
  | .between subject _ low high => by
      simp [expr, same_expr _ subject, same_expr _ low, same_expr _ high]
  | .paren inner => by simp [expr, same_expr p inner]
  | .list items => by simp [expr, same_exprs p items]
  | .function c => by simp [expr, same_call p c]
  | .aggregate a => by simp [expr, same_aggregate p a]
  | .cast c => by simp [expr, same_cast p c]
  | .extract x => by simp [expr, same_extract p x]
  | .anyValue a => by simp [expr, same_anyValue p a]
  | .case operand bs otherwise => by
      simp [expr, same_expr? _ operand, same_branches _ bs, same_expr? _ otherwise]
  | .subquery q => by simp [expr, same_query p q]
  | .collate subject _ => by simp [expr, same_expr p subject]
  | .fullText _ against _ => by simp [expr, same_expr p against]
  | .interval amount _ => by simp [expr, same_expr p amount]

theorem same_exprs (p : Site) : ∀ es : List Expr, same.exprs p es = es
  | [] => rfl
  | e :: es => by simp [exprs, same_expr _ e, same_exprs _ es]

theorem same_expr? (p : Site) : ∀ o : Option Expr, same.expr? p o = o
  | none => rfl
  | some e => by simp [expr?, same_expr p e]

theorem same_rows (p : Site) : ∀ rs : List (List Expr), same.rows p rs = rs
  | [] => rfl
  | r :: rs => by simp [rows, same_exprs _ r, same_rows _ rs]

theorem same_branches (p : Site) :
    ∀ bs : List (Expr × Expr), same.branches p bs = bs
  | [] => rfl
  | (c, v) :: rest => by
      simp [branches, same_expr _ c, same_expr _ v, same_branches _ rest]

/-- The filling that changes nothing leaves a call as it is. -/
theorem same_call (p : Site) : ∀ c : FunctionCall, same.call p c = c
  | ⟨_, args, _, _, _, window, _, suffix⟩ => by
      simp [call, same_exprs? _ args, same_over? _ window, same_expr? _ suffix]

theorem same_exprs? (p : Site) : ∀ o : Option (List Expr), same.exprs? p o = o
  | none => rfl
  | some es => by simp [exprs?, same_exprs p es]

theorem same_aggregate (p : Site) : ∀ a : Aggregate, same.aggregate p a = a
  | ⟨_, _, args, orderBy, separator, filter, window⟩ => by
      simp [aggregate, same_exprs _ args, same_sortKeys _ orderBy,
        same_expr? _ separator, same_expr? _ filter, same_over? _ window]

theorem same_dataType (p : Site) : ∀ t : DataType, same.dataType p t = t
  | ⟨_, _, _, _, _, _, _, values⟩ => by simp [dataType, same_exprs p values]

theorem same_cast (p : Site) : ∀ c : Cast, same.cast p c = c
  | ⟨subject, target, _, _, tail, _, _⟩ => by
      simp [cast, same_expr _ subject, same_dataType _ target, same_castTail _ tail]

theorem same_castTail (p : Site) : ∀ o : Option CastTail, same.castTail p o = o
  | none => rfl
  | some ⟨_, operand⟩ => by simp [castTail, same_expr p operand]

theorem same_extract (p : Site) : ∀ x : Extract, same.extract p x = x
  | ⟨_, _, _, source⟩ => by simp [extract, same_expr p source]

theorem same_anyValue (p : Site) : ∀ a : AnyValue, same.anyValue p a = a
  | ⟨_, subject, having, window⟩ => by
      simp [anyValue, same_expr _ subject, same_anyValueHaving _ having,
        same_over? _ window]

theorem same_anyValueHaving (p : Site) :
    ∀ o : Option AnyValueHaving, same.anyValueHaving p o = o
  | none => rfl
  | some ⟨_, subject⟩ => by simp [anyValueHaving, same_expr p subject]

theorem same_over? (p : Site) : ∀ o : Option Over, same.over? p o = o
  | none => rfl
  | some (.named _) => rfl
  | some (.spec w) => by simp [over?, same_window p w]

theorem same_window (p : Site) : ∀ w : WindowSpec, same.window p w = w
  | ⟨_, partitionBy, orderBy, frame⟩ => by
      simp [window, same_exprs _ partitionBy, same_sortKeys _ orderBy,
        same_frame? _ frame]

theorem same_frame? (p : Site) : ∀ o : Option WindowFrame, same.frame? p o = o
  | none => rfl
  | some ⟨_, first, last⟩ => by
      simp [frame?, same_bound _ first, same_bound? _ last]

theorem same_bound (p : Site) : ∀ b : FrameBound, same.bound p b = b
  | .unboundedPreceding | .currentRow | .unboundedFollowing => rfl
  | .preceding distance => by simp [bound, same_expr p distance]
  | .following distance => by simp [bound, same_expr p distance]

theorem same_bound? (p : Site) : ∀ o : Option FrameBound, same.bound? p o = o
  | none => rfl
  | some b => by simp [bound?, same_bound p b]

theorem same_sortKeys (p : Site) : ∀ ks : List OrderItem, same.sortKeys p ks = ks
  | [] => rfl
  | k :: ks => by simp [sortKeys, same_sortKey _ k, same_sortKeys _ ks]

theorem same_sortKey (p : Site) : ∀ k : OrderItem, same.sortKey p k = k
  | ⟨key, _, _⟩ => by simp [sortKey, same_expr _ key]

/-- The filling that changes nothing leaves a query as it is. -/
theorem same_query (p : Site) : ∀ q : Query, same.query p q = q
  | ⟨ctes, b, orderBy, limit, offset⟩ => by
      simp [query, same_with? _ ctes, same_body _ b, same_sortKeys _ orderBy,
        same_expr? _ limit, same_expr? _ offset]

theorem same_body (p : Site) : ∀ b : QueryBody, same.body p b = b
  | .select s => by simp [body, same_select p s]
  | .combine left _ right => by simp [body, same_body _ left, same_body _ right]

/-- The filling that changes nothing leaves a SELECT as it is. -/
theorem same_select (p : Site) : ∀ s : Select, same.select p s = s
  | ⟨_, distinctOn, _, columns, into, sources, others, condition, groupBy,
      groupModifiers, having, named, orderBy, limit, offset, _⟩ => by
      simp [select, same_exprs _ distinctOn, same_items _ columns,
        same_into? _ into, same_tables _ sources, same_joins _ others,
        same_expr? _ condition, same_exprs _ groupBy,
        same_modifiers _ groupModifiers, same_expr? _ having, same_windows _ named,
        same_sortKeys _ orderBy, same_expr? _ limit, same_expr? _ offset]

theorem same_items (p : Site) : ∀ is : List SelectItem, same.items p is = is
  | [] => rfl
  | i :: is => by simp [items, same_item _ i, same_items _ is]

theorem same_item (p : Site) : ∀ i : SelectItem, same.item p i = i
  | .star => rfl
  | .qualifiedStar _ => rfl
  | .expr value _ => by simp [item, same_expr p value]

theorem same_modifiers (p : Site) :
    ∀ ms : List GroupModifier, same.modifiers p ms = ms
  | [] => rfl
  | .rollup :: rest => by simp [modifiers, same_modifiers p rest]
  | .cube :: rest => by simp [modifiers, same_modifiers p rest]
  | .groupingSets sets :: rest => by
      simp [modifiers, same_rows _ sets, same_modifiers _ rest]

theorem same_into? (p : Site) : ∀ o : Option SelectInto, same.into? p o = o
  | none => rfl
  | some ⟨_, target⟩ => by simp [into?, same_into _ target]

theorem same_into (p : Site) : ∀ t : IntoTarget, same.into p t = t
  | .vars vars => by simp [into, same_exprs p vars]
  | .outfile _ _ => rfl
  | .dumpfile _ => rfl
  | .table _ => rfl

theorem same_tables (p : Site) : ∀ ts : List TableRef, same.tables p ts = ts
  | [] => rfl
  | t :: ts => by simp [tables, same_table _ t, same_tables _ ts]

/-- The filling that changes nothing leaves a table as it is. -/
theorem same_table (p : Site) : ∀ t : TableRef, same.table p t = t
  | .named _ _ _ => by simp [table]
  | .subquery q _ => by simp [table, same_query p q]
  | .function c _ => by simp [table, same_call p c]
  | .values values _ _ => by simp [table, same_rows p values]
  | .paren t => by simp [table, same_table p t]

theorem same_joins (p : Site) : ∀ js : List Join, same.joins p js = js
  | [] => rfl
  | j :: js => by simp [joins, same_join _ j, same_joins _ js]

theorem same_join (p : Site) : ∀ j : Join, same.join p j = j
  | ⟨_, t, condition, _⟩ => by simp [join, same_table _ t, same_expr? _ condition]

theorem same_windows (p : Site) : ∀ ws : List NamedWindow, same.windows p ws = ws
  | [] => rfl
  | ⟨_, w⟩ :: ws => by simp [windows, same_window _ w, same_windows _ ws]

theorem same_with? (p : Site) : ∀ o : Option With, same.with? p o = o
  | none => rfl
  | some ⟨_, cs⟩ => by simp [with?, same_ctes p cs]

theorem same_ctes (p : Site) : ∀ cs : List Cte, same.ctes p cs = cs
  | [] => rfl
  | c :: cs => by simp [ctes, same_cte _ c, same_ctes _ cs]

theorem same_cte (p : Site) : ∀ c : Cte, same.cte p c = c
  | ⟨_, _, _, q⟩ => by simp [cte, same_query p q]

end

section Statements

@[simp] theorem same_reference (r : Reference) : same.reference r = r := by
  simp [reference]

@[simp] theorem map_same_reference (o : Option Reference) :
    o.map same.reference = o := by
  cases o <;> simp

@[simp] theorem map_same_indexColumn (cs : List IndexColumn) :
    cs.map same.indexColumn = cs := by
  induction cs with
  | nil => rfl
  | cons c cs ih => simp [indexColumn, ih]

@[simp] theorem map_same_object (os : List ObjectName) :
    os.map same.object = os := by
  induction os with
  | nil => rfl
  | cons o os ih => simp [ih]

@[simp] theorem map_same_object? (o : Option ObjectName) :
    o.map same.object = o := by
  cases o <;> simp

@[simp] theorem same_index (i : IndexDef) : same.index i = i := by
  simp [index]

theorem same_assignment (p : Site) (a : Assignment) : same.assignment p a = a := by
  simp [assignment, same_expr]

theorem same_assignments (p : Site) (as : List Assignment) :
    same.assignments p as = as := by
  induction as generalizing p with
  | nil => rfl
  | cons a as ih => simp [assignments, same_assignment, ih]

/-- The filling that changes nothing leaves the source of an INSERT as it is. -/
theorem same_source (p : Site) (s : RowSource) : same.source p s = s := by
  cases s <;> simp [source, same_rows, same_query, same_assignments]

theorem same_conflict (p : Site) (c : ConflictClause) : same.conflict p c = c := by
  rcases c with ⟨columns, constraint, _ | _ | _⟩ <;>
    simp [conflict, conflictAction, same_assignments, same_expr?]

theorem same_columnDef (p : Site) (c : ColumnDef) : same.columnDef p c = c := by
  rcases c with ⟨name, _ | type, options⟩ <;>
    simp [columnDef, same_dataType, same_expr?]

theorem same_constraint (p : Site) (c : TableConstraint) :
    same.constraint p c = c := by
  cases c <;> simp [constraint, same_expr]

theorem same_elements (p : Site) (es : List TableElement) :
    same.elements p es = es := by
  induction es generalizing p with
  | nil => rfl
  | cons e es ih =>
      cases e <;> simp [elements, element, same_columnDef, same_constraint, ih]

/-- The filling that changes nothing leaves the actions of an ALTER TABLE as they
are. -/
theorem same_actions (p : Site) (as : List AlterAction) :
    same.actions p as = as := by
  induction as generalizing p with
  | nil => rfl
  | cons a as ih =>
      cases a <;> simp [actions, action, same_columnDef, same_constraint, ih]

/-- Nothing changes in any statement. -/
theorem same_statement (p : Site) (s : Statement) : same.statement p s = s := by
  cases s with
  | query q => simp [statement, same_query]
  | insert i =>
      rcases i with ⟨replace, ignore, into, table, columns, source, _ | conflict,
        returning⟩ <;>
        simp [statement, insert, same_table, same_source, same_conflict, same_items]
  | update u =>
      simp [statement, update, same_with?, same_table, same_tables, same_joins,
        same_assignments, same_expr?, same_sortKeys, same_items]
  | delete d =>
      simp [statement, delete, same_with?, same_tables, same_joins, same_expr?,
        same_sortKeys, same_items]
  | createTable t =>
      rcases t with ⟨temporary, ifNotExists, name, elements, options, _ | q,
        like⟩ <;>
        simp [statement, same_elements, same_query]
  | createView v => simp [statement, same_query]
  | alterTable t => simp [statement, same_actions]
  | attach a => simp [statement, same_expr]
  | list target => cases target <;> simp [statement, listed]
  | createDatabase _ | createIndex _ | drop _ | analyze _ => simp [statement]

end Statements

end SqlPrinter.Filling
