/-
A filling leaves the features of a statement alone, and with them what a strict
policy refuses.
-/
import SqlPrinter.Proofs.Filling
import SqlPrinter.Proofs.Usage

namespace SqlPrinter.Filling

open Usage

variable (settings : Settings) (f : Filling)

mutual

/-- Names, strings and parameters are no features, so a filled expression uses what
the expression does. -/
theorem usage_expr (p : Site) :
    ∀ e : Expr, ofExpr settings (f.expr p e) = ofExpr settings e
  | .column _ | .star _ | .keyword _ | .literal _ | .parameter _ | .var _ _ => rfl
  | .binary left op right => by
      simp [expr, ofExpr, usage_expr _ left, usage_expr _ right]
  | .unary _ operand => by simp [expr, ofExpr, usage_expr p operand]
  | .between subject _ low high => by
      simp [expr, ofExpr, usage_expr _ subject, usage_expr _ low, usage_expr _ high]
  | .paren inner => by simp [expr, ofExpr, usage_expr p inner]
  | .list items => by simp [expr, ofExpr, usage_exprs p items]
  | .function c => by simp [expr, ofExpr, usage_call p c]
  | .aggregate a => by simp [expr, ofExpr, usage_aggregate p a]
  | .cast c => by simp [expr, ofExpr, usage_cast p c]
  | .extract x => by simp [expr, ofExpr, usage_extract p x]
  | .anyValue a => by simp [expr, ofExpr, usage_anyValue p a]
  | .case operand bs otherwise => by
      simp [expr, ofExpr, usage_expr? _ operand, usage_branches _ bs,
        usage_expr? _ otherwise]
  | .subquery q => by simp [expr, ofExpr, usage_query p q]
  | .collate subject _ => by simp [expr, ofExpr, usage_expr p subject]
  | .fullText _ against _ => by simp [expr, ofExpr, usage_expr p against]
  | .interval amount _ => by simp [expr, ofExpr, usage_expr p amount]

theorem usage_exprs (p : Site) :
    ∀ es : List Expr, ofExprs settings (f.exprs p es) = ofExprs settings es
  | [] => rfl
  | e :: es => by simp [exprs, ofExprs, usage_expr _ e, usage_exprs _ es]

theorem usage_expr? (p : Site) :
    ∀ o : Option Expr, ofOptional settings (f.expr? p o) = ofOptional settings o
  | none => rfl
  | some e => by simp [expr?, ofOptional, usage_expr p e]

theorem usage_rows (p : Site) :
    ∀ rs : List (List Expr), ofRows settings (f.rows p rs) = ofRows settings rs
  | [] => rfl
  | r :: rs => by simp [rows, ofRows, usage_exprs _ r, usage_rows _ rs]

theorem usage_branches (p : Site) :
    ∀ bs : List (Expr × Expr),
      ofBranches settings (f.branches p bs) = ofBranches settings bs
  | [] => rfl
  | (c, v) :: rest => by
      simp [branches, ofBranches, usage_expr _ c, usage_expr _ v,
        usage_branches _ rest]

theorem usage_call (p : Site) :
    ∀ c : FunctionCall, ofCall settings (f.call p c) = ofCall settings c
  | ⟨_, none, _, _, _, window, _, suffix⟩ => by
      simp [call, ofCall, exprs?, usage_over? _ window, usage_expr? _ suffix]
  | ⟨_, some args, _, _, _, window, _, suffix⟩ => by
      simp [call, ofCall, exprs?, usage_exprs _ args, usage_over? _ window,
        usage_expr? _ suffix]

theorem usage_aggregate (p : Site) :
    ∀ a : Aggregate, ofAggregate settings (f.aggregate p a) = ofAggregate settings a
  | ⟨_, _, args, orderBy, separator, filter, window⟩ => by
      simp [aggregate, ofAggregate, usage_exprs _ args, usage_sortKeys _ orderBy,
        usage_expr? _ separator, usage_expr? _ filter, usage_over? _ window]

theorem usage_cast (p : Site) :
    ∀ c : Cast, ofCast settings (f.cast p c) = ofCast settings c
  | ⟨subject, _, _, _, none, _, _⟩ => by
      simp [cast, castTail, ofCast, usage_expr _ subject]
  | ⟨subject, _, _, _, some ⟨_, operand⟩, _, _⟩ => by
      simp [cast, castTail, ofCast, usage_expr _ subject, usage_expr _ operand]

theorem usage_extract (p : Site) :
    ∀ x : Extract, ofExtract settings (f.extract p x) = ofExtract settings x
  | ⟨_, _, _, source⟩ => by simp [extract, ofExtract, usage_expr p source]

theorem usage_anyValue (p : Site) :
    ∀ a : AnyValue, ofAnyValue settings (f.anyValue p a) = ofAnyValue settings a
  | ⟨_, subject, none, window⟩ => by
      simp [anyValue, anyValueHaving, ofAnyValue, usage_expr _ subject,
        usage_over? _ window]
  | ⟨_, subject, some ⟨_, other⟩, window⟩ => by
      simp [anyValue, anyValueHaving, ofAnyValue, usage_expr _ subject,
        usage_expr _ other, usage_over? _ window]

theorem usage_over? (p : Site) :
    ∀ o : Option Over, ofOver settings (f.over? p o) = ofOver settings o
  | none => rfl
  | some (.named _) => rfl
  | some (.spec w) => by simp [over?, ofOver, usage_window p w]

theorem usage_window (p : Site) :
    ∀ w : WindowSpec, ofWindow settings (f.window p w) = ofWindow settings w
  | ⟨_, partitionBy, orderBy, none⟩ => by
      simp [window, frame?, ofWindow, usage_exprs _ partitionBy,
        usage_sortKeys _ orderBy]
  | ⟨_, partitionBy, orderBy, some ⟨_, first, none⟩⟩ => by
      simp [window, frame?, bound?, ofWindow, usage_exprs _ partitionBy,
        usage_sortKeys _ orderBy, usage_bound _ first]
  | ⟨_, partitionBy, orderBy, some ⟨_, first, some last⟩⟩ => by
      simp [window, frame?, bound?, ofWindow, usage_exprs _ partitionBy,
        usage_sortKeys _ orderBy, usage_bound _ first, usage_bound _ last]

theorem usage_bound (p : Site) :
    ∀ b : FrameBound, ofBound settings (f.bound p b) = ofBound settings b
  | .unboundedPreceding | .currentRow | .unboundedFollowing => rfl
  | .preceding distance => by simp [bound, ofBound, usage_expr p distance]
  | .following distance => by simp [bound, ofBound, usage_expr p distance]

theorem usage_sortKeys (p : Site) :
    ∀ ks : List OrderItem, ofOrder settings (f.sortKeys p ks) = ofOrder settings ks
  | [] => rfl
  | ⟨key, _, _⟩ :: ks => by
      simp [sortKeys, sortKey, ofOrder, usage_expr _ key, usage_sortKeys _ ks]

/-- A filled query uses the features of the query. -/
theorem usage_query (p : Site) :
    ∀ q : Query, ofQuery settings (f.query p q) = ofQuery settings q
  | ⟨none, b, orderBy, limit, offset⟩ => by
      simp [query, with?, ofQuery, usage_body _ b, usage_sortKeys _ orderBy,
        usage_expr? _ limit, usage_expr? _ offset]
  | ⟨some ⟨_, cs⟩, b, orderBy, limit, offset⟩ => by
      simp [query, with?, ofQuery, ofWith, usage_ctes _ cs, usage_body _ b,
        usage_sortKeys _ orderBy, usage_expr? _ limit, usage_expr? _ offset]

theorem usage_body (p : Site) :
    ∀ b : QueryBody, ofBody settings (f.body p b) = ofBody settings b
  | .select s => by simp [body, ofBody, usage_select p s]
  | .combine left _ right => by
      simp [body, ofBody, usage_body _ left, usage_body _ right]

/-- A filled SELECT uses the features of the SELECT. -/
theorem usage_select (p : Site) :
    ∀ s : Select, ofSelect settings (f.select p s) = ofSelect settings s
  | ⟨_, distinctOn, _, columns, into, sources, others, condition, groupBy,
      groupModifiers, having, named, orderBy, limit, offset, _⟩ => by
      simp [select, Node.ofSelect_eq, usage_exprs _ distinctOn,
        usage_items _ columns, usage_into? _ into, usage_tables _ sources,
        usage_joins _ others, usage_expr? _ condition, usage_exprs _ groupBy,
        usage_modifiers _ groupModifiers, usage_expr? _ having,
        usage_windows _ named, usage_sortKeys _ orderBy, usage_expr? _ limit,
        usage_expr? _ offset]

theorem usage_items (p : Site) :
    ∀ is : List SelectItem, ofItems settings (f.items p is) = ofItems settings is
  | [] => rfl
  | .star :: is => by simp [items, item, ofItems, usage_items _ is]
  | .qualifiedStar _ :: is => by simp [items, item, ofItems, usage_items _ is]
  | .expr value _ :: is => by
      simp [items, item, ofItems, usage_expr _ value, usage_items _ is]

theorem usage_modifiers (p : Site) :
    ∀ ms : List GroupModifier,
      ofModifiers settings (f.modifiers p ms) = ofModifiers settings ms
  | [] => rfl
  | .rollup :: rest => by simp [modifiers, ofModifiers, usage_modifiers p rest]
  | .cube :: rest => by simp [modifiers, ofModifiers, usage_modifiers p rest]
  | .groupingSets sets :: rest => by
      simp [modifiers, ofModifiers, usage_rows _ sets, usage_modifiers _ rest]

theorem usage_into? (p : Site) :
    ∀ o : Option SelectInto,
      Node.intoUsage settings (f.into? p o) = Node.intoUsage settings o
  | none => rfl
  | some ⟨_, .vars vars⟩ => by
      simp [into?, into, Node.intoUsage, usage_exprs _ vars]
  | some ⟨_, .outfile _ _⟩ => rfl
  | some ⟨_, .dumpfile _⟩ => rfl
  | some ⟨_, .table _⟩ => rfl

theorem usage_tables (p : Site) :
    ∀ ts : List TableRef, ofTables settings (f.tables p ts) = ofTables settings ts
  | [] => rfl
  | t :: ts => by simp [tables, ofTables, usage_table _ t, usage_tables _ ts]

/-- A filled table uses the features of the table. -/
theorem usage_table (p : Site) :
    ∀ t : TableRef, ofTable settings (f.table p t) = ofTable settings t
  | .named _ _ _ => rfl
  | .subquery q _ => by simp [table, ofTable, usage_query p q]
  | .function c _ => by simp [table, ofTable, usage_call p c]
  | .values values _ _ => by simp [table, ofTable, usage_rows p values]
  | .paren t => by simp [table, ofTable, usage_table p t]

theorem usage_joins (p : Site) :
    ∀ js : List Join, ofJoins settings (f.joins p js) = ofJoins settings js
  | [] => rfl
  | ⟨_, t, condition, _⟩ :: js => by
      simp [joins, join, ofJoins, usage_table _ t, usage_expr? _ condition,
        usage_joins _ js]

theorem usage_windows (p : Site) :
    ∀ ws : List NamedWindow,
      ofWindows settings (f.windows p ws) = ofWindows settings ws
  | [] => rfl
  | ⟨_, w⟩ :: ws => by
      simp [windows, ofWindows, usage_window _ w, usage_windows _ ws]

theorem usage_ctes (p : Site) :
    ∀ cs : List Cte, ofCtes settings (f.ctes p cs) = ofCtes settings cs
  | [] => rfl
  | ⟨_, _, _, q⟩ :: cs => by
      simp [ctes, cte, ofCtes, usage_query _ q, usage_ctes _ cs]

end

theorem usage_with? (p : Site) (o : Option With) :
    ofWith? settings (f.with? p o) = ofWith? settings o := by
  rcases o with _ | ⟨recursive, cs⟩
  · rfl
  · simp [with?, ofWith?, ofWith, usage_ctes]

theorem usage_assignments (p : Site) (as : List Assignment) :
    ofAssignments settings (f.assignments p as) = ofAssignments settings as := by
  induction as generalizing p with
  | nil => rfl
  | cons a as ih =>
      have htail := ih (p.part 1)
      simp only [ofAssignments] at htail ⊢
      simp [assignments, assignment, usage_expr, htail]

theorem usage_source (p : Site) (s : RowSource) :
    ofSource settings (f.source p s) = ofSource settings s := by
  cases s <;> simp [source, ofSource, usage_rows, usage_query, usage_assignments]

theorem usage_conflict (p : Site) (o : Option ConflictClause) :
    ofConflict settings (o.map (f.conflict p)) = ofConflict settings o := by
  rcases o with _ | ⟨columns, constraint, _ | _ | _⟩ <;>
    simp [ofConflict, conflict, conflictAction, usage_assignments, usage_expr?]

theorem usage_returning (p : Site) (is : List SelectItem) :
    ofReturning settings (f.items p is) = ofReturning settings is := by
  simp [ofReturning, usage_items]

/-- A filled statement uses the features of the statement, and so is refused where
the statement is. -/
theorem usage_statement (p : Site) (s : Statement) :
    ofStatement settings (f.statement p s) = ofStatement settings s := by
  cases s with
  | query q => simp [statement, ofStatement, usage_query]
  | insert i =>
      simp [statement, insert, ofStatement, ofInsert, usage_conflict, usage_source,
        usage_returning]
  | update u =>
      simp [statement, update, ofStatement, ofUpdate, usage_with?, usage_table,
        usage_joins, usage_assignments, usage_tables, usage_expr?, usage_sortKeys,
        usage_returning]
  | delete d =>
      simp [statement, delete, ofStatement, ofDelete, usage_with?, usage_tables,
        usage_joins, usage_expr?, usage_sortKeys, usage_returning]
  | createTable t =>
      rcases t with ⟨temporary, ifNotExists, name, elements, options, _ | q,
        like⟩ <;>
        simp [statement, ofStatement, usage_query]
  | createView v => simp [statement, ofStatement, usage_query]
  | _ => rfl

/-- Other contents do not change whether a statement is refused, and why. -/
theorem rejection?_statement (settings : Settings) (p : Site) (s : Statement) :
    (f.statement p s).rejection? settings = s.rejection? settings := by
  rw [Statement.rejection?, usage_statement, Statement.rejection?]

end SqlPrinter.Filling
