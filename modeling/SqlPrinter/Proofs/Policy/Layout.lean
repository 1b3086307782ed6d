/-
What the layout of a statement depends on.  Every part of the printer is handed the
whole of the settings, but a layout is the same under any two settings that agree on
the dialect, the emulation of nulls, the way to write a row limit and the use of
`AS`.  The policy is none of these, nor are the marks around names, their letter
case and the spelling of parameters.
-/
import SqlPrinter.Layout.Statement

namespace SqlPrinter

/-- Two settings agree on everything that a layout depends on. -/
structure Settings.SameLayout (σ τ : Settings) : Prop where
  dialect : σ.dialect = τ.dialect
  emulateNulls : σ.emulateNulls = τ.emulateNulls
  mysqlLimit : σ.mysqlLimit = τ.mysqlLimit
  asBeforeTableName : σ.asBeforeTableName = τ.asBeforeTableName
  asBeforeColumnName : σ.asBeforeColumnName = τ.asBeforeColumnName

variable {σ τ : Settings}

namespace Settings.SameLayout

/-! ## Clauses -/

section Clauses

variable (h : σ.SameLayout τ)

include h

/-- A literal asks for the dialect only. -/
theorem literal (l : Literal) : l.doc σ = l.doc τ := by
  cases l <;> simp only [Literal.doc, h.dialect]

/-- A sort key asks the settings whether the place of nulls is emulated. -/
theorem orderItem (key : Doc) (direction : Option Direction)
    (nulls : Option NullsOrder) :
    Layout.orderItem σ key direction nulls =
      Layout.orderItem τ key direction nulls := by
  simp only [Layout.orderItem, Settings.nullsByKey, h.emulateNulls, h.dialect]

/-- A limit asks for the dialect only. -/
theorem limit (count offset : Option Doc) :
    Layout.limit σ count offset = Layout.limit τ count offset := by
  simp only [Layout.limit, h.mysqlLimit, h.dialect]

/-- The keys of a grouping ask for the dialect, because of ROLLUP. -/
theorem groupBy (keys : List Doc) (modifiers : List GroupModifier)
    (sets : Option Doc) :
    Layout.groupBy σ keys modifiers sets =
      Layout.groupBy τ keys modifiers sets := by
  simp only [Layout.groupBy, h.dialect]

end Clauses

/-! ## Expressions and queries -/

mutual

/-- Expressions are laid out alike, by induction on the syntax. -/
theorem expr (h : σ.SameLayout τ) : ∀ e : Expr, Layout.expr σ e = Layout.expr τ e
  | .column _ | .star _ | .keyword _ | .parameter _ | .var _ _ => by
      simp only [Layout.expr]
  | .literal value => by simp only [Layout.expr, h.literal value]
  | .binary left _ right => by simp only [Layout.expr, h.expr left, h.expr right]
  | .unary _ operand => by simp only [Layout.expr, h.expr operand]
  | .between subject _ low high => by
      simp only [Layout.expr, h.expr subject, h.expr low, h.expr high]
  | .paren inner => by simp only [Layout.expr, h.expr inner]
  | .list items => by simp only [Layout.expr, h.exprs items]
  | .function call => by simp only [Layout.expr, h.functionCall call]
  | .aggregate call => by simp only [Layout.expr, h.aggregate call]
  | .cast conversion => by simp only [Layout.expr, h.castExpr conversion]
  | .extract call => by simp only [Layout.expr, h.extractCall call]
  | .anyValue call => by simp only [Layout.expr, h.anyValue call]
  | .case operand branches otherwise => by
      simp only [Layout.expr, h.expr? operand, h.caseBranches branches,
        h.expr? otherwise]
  | .subquery query => by simp only [Layout.expr, h.queryDoc query]
  | .collate subject _ => by simp only [Layout.expr, h.expr subject]
  | .fullText _ against _ => by simp only [Layout.expr, h.expr against]
  | .interval amount _ => by simp only [Layout.expr, h.expr amount]

theorem exprs (h : σ.SameLayout τ) :
    ∀ es : List Expr, Layout.exprs σ es = Layout.exprs τ es
  | [] => rfl
  | e :: es => by simp only [Layout.exprs, h.expr e, h.exprs es]

theorem expr? (h : σ.SameLayout τ) :
    ∀ o : Option Expr, Layout.expr? σ o = Layout.expr? τ o
  | none => rfl
  | some e => by simp only [Layout.expr?, h.expr e]

theorem exprs? (h : σ.SameLayout τ) :
    ∀ o : Option (List Expr), Layout.exprs? σ o = Layout.exprs? τ o
  | none => rfl
  | some es => by simp only [Layout.exprs?, h.exprs es]

theorem rows (h : σ.SameLayout τ) :
    ∀ rs : List (List Expr), Layout.rows σ rs = Layout.rows τ rs
  | [] => rfl
  | r :: rs => by simp only [Layout.rows, h.exprs r, h.rows rs]

theorem caseBranches (h : σ.SameLayout τ) :
    ∀ bs : List (Expr × Expr), Layout.caseBranches σ bs = Layout.caseBranches τ bs
  | [] => rfl
  | (condition, value) :: rest => by
      simp only [Layout.caseBranches, h.expr condition, h.expr value,
        h.caseBranches rest]

/-- Calls are laid out alike. -/
theorem functionCall (h : σ.SameLayout τ) :
    ∀ c : FunctionCall, Layout.functionCall σ c = Layout.functionCall τ c
  | ⟨_, args, _, _, _, window, _, suffix⟩ => by
      simp only [Layout.functionCall, h.exprs? args, h.overDoc window,
        h.expr? suffix]

theorem aggregate (h : σ.SameLayout τ) :
    ∀ a : Aggregate, Layout.aggregate σ a = Layout.aggregate τ a
  | ⟨_, _, args, orderBy, separator, filter, window⟩ => by
      simp only [Layout.aggregate, h.exprs args, h.orderItems orderBy,
        h.expr? separator, h.expr? filter, h.overDoc window]

/-- Casts are laid out alike. -/
theorem castExpr (h : σ.SameLayout τ) :
    ∀ c : Cast, Layout.castExpr σ c = Layout.castExpr τ c
  | ⟨subject, _, _, _, tail, _, _⟩ => by
      simp only [Layout.castExpr, h.expr subject, h.castTailDoc tail]

theorem castTailDoc (h : σ.SameLayout τ) :
    ∀ t : Option CastTail, Layout.castTailDoc σ t = Layout.castTailDoc τ t
  | none => rfl
  | some ⟨_, operand⟩ => by simp only [Layout.castTailDoc, h.expr operand]

/-- Data types are laid out alike. -/
theorem typeDoc (h : σ.SameLayout τ) :
    ∀ t : DataType, Layout.typeDoc σ t = Layout.typeDoc τ t
  | ⟨_, _, _, _, _, _, _, values⟩ => by simp only [Layout.typeDoc, h.exprs values]

theorem extractCall (h : σ.SameLayout τ) :
    ∀ x : Extract, Layout.extractCall σ x = Layout.extractCall τ x
  | ⟨_, _, _, source⟩ => by simp only [Layout.extractCall, h.expr source]

theorem anyValue (h : σ.SameLayout τ) :
    ∀ a : AnyValue, Layout.anyValue σ a = Layout.anyValue τ a
  | ⟨_, subject, having, window⟩ => by
      simp only [Layout.anyValue, h.expr subject, h.anyValueHaving having,
        h.overDoc window]

theorem anyValueHaving (h : σ.SameLayout τ) :
    ∀ o : Option AnyValueHaving,
      Layout.anyValueHaving σ o = Layout.anyValueHaving τ o
  | none => rfl
  | some ⟨_, subject⟩ => by simp only [Layout.anyValueHaving, h.expr subject]

theorem overDoc (h : σ.SameLayout τ) :
    ∀ o : Option Over, Layout.overDoc σ o = Layout.overDoc τ o
  | none => rfl
  | some window => by simp only [Layout.overDoc, h.overClause window]

theorem overClause (h : σ.SameLayout τ) :
    ∀ o : Over, Layout.overClause σ o = Layout.overClause τ o
  | .named _ => by simp only [Layout.overClause]
  | .spec window => by simp only [Layout.overClause, h.windowSpec window]

/-- Windows are laid out alike. -/
theorem windowSpec (h : σ.SameLayout τ) :
    ∀ w : WindowSpec, Layout.windowSpec σ w = Layout.windowSpec τ w
  | ⟨_, partitionBy, orderBy, frame⟩ => by
      simp only [Layout.windowSpec, h.exprs partitionBy, h.orderItems orderBy,
        h.windowFrame frame]

theorem windowFrame (h : σ.SameLayout τ) :
    ∀ o : Option WindowFrame, Layout.windowFrame σ o = Layout.windowFrame τ o
  | none => rfl
  | some ⟨_, first, none⟩ => by simp only [Layout.windowFrame, h.frameBound first]
  | some ⟨_, first, some last⟩ => by
      simp only [Layout.windowFrame, h.frameBound first, h.frameBound last]

theorem frameBound (h : σ.SameLayout τ) :
    ∀ b : FrameBound, Layout.frameBound σ b = Layout.frameBound τ b
  | .preceding distance | .following distance => by
      simp only [Layout.frameBound, h.expr distance]
  | .unboundedPreceding | .currentRow | .unboundedFollowing => by
      simp only [Layout.frameBound]

theorem orderItems (h : σ.SameLayout τ) :
    ∀ ks : List OrderItem, Layout.orderItems σ ks = Layout.orderItems τ ks
  | [] => rfl
  | ⟨key, direction, nulls⟩ :: rest => by
      simp only [Layout.orderItems, h.expr key, h.orderItem, h.orderItems rest]

/-- Queries are laid out alike. -/
theorem queryDoc (h : σ.SameLayout τ) :
    ∀ q : Query, Layout.queryDoc σ q = Layout.queryDoc τ q
  | ⟨ctes, body, orderBy, count, offset⟩ => by
      simp only [Layout.queryDoc, h.withDoc ctes, h.bodyDoc body,
        h.orderItems orderBy, h.expr? count, h.expr? offset, h.limit]

theorem bodyDoc (h : σ.SameLayout τ) :
    ∀ b : QueryBody, Layout.bodyDoc σ b = Layout.bodyDoc τ b
  | .select select => by simp only [Layout.bodyDoc, h.selectDoc select]
  | .combine left _ right => by
      simp only [Layout.bodyDoc, h.bodyDoc left, h.bodyDoc right]

/-- A SELECT is laid out alike, clause by clause. -/
theorem selectDoc (h : σ.SameLayout τ) :
    ∀ s : Select, Layout.selectDoc σ s = Layout.selectDoc τ s
  | ⟨_, distinctOn, _, items, into, tables, joins, condition, groupBy,
      modifiers, having, windows, orderBy, count, offset, _⟩ => by
      simp only [Layout.selectDoc, h.exprs distinctOn, h.selectItems items,
        h.intoAt _ into, h.tableRefs tables, h.joinDocs joins, h.expr? condition,
        h.exprs groupBy, h.groupingSets modifiers, h.groupBy, h.expr? having,
        h.namedWindows windows, h.orderItems orderBy, h.expr? count,
        h.expr? offset, h.limit]

theorem selectItems (h : σ.SameLayout τ) :
    ∀ is : List SelectItem, Layout.selectItems σ is = Layout.selectItems τ is
  | [] => rfl
  | item :: rest => by
      simp only [Layout.selectItems, h.selectItem item, h.selectItems rest]

theorem selectItem (h : σ.SameLayout τ) :
    ∀ i : SelectItem, Layout.selectItem σ i = Layout.selectItem τ i
  | .star | .qualifiedStar _ => by simp only [Layout.selectItem]
  | .expr value _ => by
      simp only [Layout.selectItem, h.expr value, h.asBeforeColumnName]

theorem groupingSets (h : σ.SameLayout τ) :
    ∀ ms : List GroupModifier, Layout.groupingSets σ ms = Layout.groupingSets τ ms
  | [] => rfl
  | .groupingSets sets :: _ => by simp only [Layout.groupingSets, h.rows sets]
  | .rollup :: rest | .cube :: rest => by
      simp only [Layout.groupingSets, h.groupingSets rest]

theorem intoAt (h : σ.SameLayout τ) (position : IntoPosition) :
    ∀ o : Option SelectInto, Layout.intoAt σ position o = Layout.intoAt τ position o
  | none => rfl
  | some ⟨_, target⟩ => by simp only [Layout.intoAt, h.intoTarget target]

theorem intoTarget (h : σ.SameLayout τ) :
    ∀ t : IntoTarget, Layout.intoTarget σ t = Layout.intoTarget τ t
  | .vars vars => by simp only [Layout.intoTarget, h.exprs vars]
  | .outfile _ _ | .dumpfile _ | .table _ => by simp only [Layout.intoTarget]

theorem tableRefs (h : σ.SameLayout τ) :
    ∀ ts : List TableRef, Layout.tableRefs σ ts = Layout.tableRefs τ ts
  | [] => rfl
  | table :: rest => by
      simp only [Layout.tableRefs, h.tableRef table, h.tableRefs rest]

/-- Tables are laid out alike. -/
theorem tableRef (h : σ.SameLayout τ) :
    ∀ t : TableRef, Layout.tableRef σ t = Layout.tableRef τ t
  | .named _ _ _ => by simp only [Layout.tableRef, h.asBeforeTableName]
  | .subquery query _ => by
      simp only [Layout.tableRef, h.queryDoc query, h.asBeforeTableName]
  | .function call _ => by
      simp only [Layout.tableRef, h.functionCall call, h.asBeforeTableName]
  | .values values _ _ => by
      simp only [Layout.tableRef, h.rows values, h.asBeforeTableName]
  | .paren table => by simp only [Layout.tableRef, h.tableRef table]

/-- Joins are laid out alike. -/
theorem joinDocs (h : σ.SameLayout τ) :
    ∀ js : List Join, Layout.joinDocs σ js = Layout.joinDocs τ js
  | [] => rfl
  | ⟨_, table, condition, _⟩ :: rest => by
      simp only [Layout.joinDocs, h.tableRef table, h.expr? condition,
        h.joinDocs rest]

theorem namedWindows (h : σ.SameLayout τ) :
    ∀ ws : List NamedWindow, Layout.namedWindows σ ws = Layout.namedWindows τ ws
  | [] => rfl
  | ⟨_, window⟩ :: rest => by
      simp only [Layout.namedWindows, h.windowSpec window, h.namedWindows rest]

theorem withDoc (h : σ.SameLayout τ) :
    ∀ w : Option With, Layout.withDoc σ w = Layout.withDoc τ w
  | none => rfl
  | some ⟨_, tables⟩ => by simp only [Layout.withDoc, h.cteDocs tables]

theorem cteDocs (h : σ.SameLayout τ) :
    ∀ cs : List Cte, Layout.cteDocs σ cs = Layout.cteDocs τ cs
  | [] => rfl
  | ⟨_, _, _, query⟩ :: rest => by
      simp only [Layout.cteDocs, h.queryDoc query, h.cteDocs rest]

end

/-! ## Statements -/

section Statements

variable (h : σ.SameLayout τ)

include h

/-- The layout of an expression, as a function. -/
theorem expr_eq : Layout.expr σ = Layout.expr τ :=
  funext (h.expr)

/-- Assignments are laid out alike, whatever the inserted row is called. -/
theorem assignment (inserted : InsertedRef) (a : Assignment) :
    Layout.assignment σ inserted a = Layout.assignment τ inserted a := by
  simp only [Layout.assignment, h.expr]

theorem assignments (inserted : InsertedRef) (list : List Assignment) :
    Layout.assignments σ inserted list = Layout.assignments τ inserted list := by
  simp only [Layout.assignments, funext (h.assignment inserted)]

theorem rowSource (source : RowSource) :
    Layout.rowSource σ source = Layout.rowSource τ source := by
  cases source <;>
    simp only [Layout.rowSource, h.rows, h.queryDoc, h.assignments]

theorem conflictAction (inserted : InsertedRef) (ignore : Bool)
    (action : Option ConflictAction) :
    Layout.conflictAction σ inserted ignore action =
      Layout.conflictAction τ inserted ignore action := by
  rcases action with _ | _ | ⟨list, condition⟩ <;>
    simp only [Layout.conflictAction, h.assignments, h.expr_eq]

theorem duplicateKey (inserted : InsertedRef) (action : Option ConflictAction) :
    Layout.duplicateKey σ inserted action =
      Layout.duplicateKey τ inserted action := by
  rcases action with _ | _ | ⟨list, condition⟩ <;>
    simp only [Layout.duplicateKey, h.assignments, h.dialect]

/-- The conflict clause is laid out alike in either of its spellings. -/
theorem onConflict (inserted : InsertedRef) (ignore : Bool)
    (conflict : Option ConflictClause) :
    Layout.onConflict σ inserted ignore conflict =
      Layout.onConflict τ inserted ignore conflict := by
  simp only [Layout.onConflict, h.duplicateKey, h.conflictAction, h.dialect]

/-- An INSERT is laid out alike. -/
theorem insert (i : Insert) : Layout.insert σ i = Layout.insert τ i := by
  simp only [Layout.insert, Layout.ignoreWord, h.tableRef, h.rowSource,
    h.onConflict, h.selectItems, h.dialect]

/-- An UPDATE is laid out alike. -/
theorem update (u : Update) : Layout.update σ u = Layout.update τ u := by
  simp only [Layout.update, h.withDoc, h.tableRef, h.joinDocs, h.assignments,
    h.tableRefs, h.expr_eq, h.orderItems, h.limit, h.selectItems]

/-- A DELETE is laid out alike. -/
theorem delete (d : Delete) : Layout.delete σ d = Layout.delete τ d := by
  simp only [Layout.delete, h.withDoc, h.tableRefs, h.joinDocs, h.expr_eq,
    h.orderItems, h.limit, h.selectItems]

theorem columnDef (c : ColumnDef) :
    Layout.columnDef σ c = Layout.columnDef τ c := by
  simp only [Layout.columnDef, funext h.typeDoc, h.expr_eq, h.dialect]

theorem tableConstraint (c : TableConstraint) :
    Layout.tableConstraint σ c = Layout.tableConstraint τ c := by
  cases c <;> simp only [Layout.tableConstraint, h.expr]

theorem tableElement (t : TableElement) :
    Layout.tableElement σ t = Layout.tableElement τ t := by
  cases t <;> simp only [Layout.tableElement, h.columnDef, h.tableConstraint]

/-- CREATE TABLE is laid out alike. -/
theorem createTable (t : CreateTable) :
    Layout.createTable σ t = Layout.createTable τ t := by
  simp only [Layout.createTable, funext (h.tableElement), funext (h.queryDoc)]

/-- The actions of ALTER TABLE are laid out alike. -/
theorem alterAction (a : AlterAction) :
    Layout.alterAction σ a = Layout.alterAction τ a := by
  cases a <;> simp only [Layout.alterAction, h.columnDef, h.tableConstraint]

theorem attach (a : Attach) : Layout.attach σ a = Layout.attach τ a := by
  simp only [Layout.attach, h.expr, h.dialect]

end Statements

end Settings.SameLayout

/-- Statements have one layout under settings that agree. -/
theorem Statement.doc_congr (h : σ.SameLayout τ) (s : Statement) :
    s.doc σ = s.doc τ := by
  cases s with
  | query q => exact h.queryDoc q
  | insert i => exact h.insert i
  | update u => exact h.update u
  | delete d => exact h.delete d
  | createTable t => exact h.createTable t
  | createView v => simp only [doc, Layout.createView, h.queryDoc]
  | alterTable t => simp only [doc, Layout.alterTable, funext (h.alterAction)]
  | attach a => exact h.attach a
  | createDatabase _ | createIndex _ | drop _ | list _ | analyze _ => rfl

end SqlPrinter
