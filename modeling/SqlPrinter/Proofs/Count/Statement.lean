/-
The parameters in the layout of a statement are those of the parts that it
shows, unless there is a fault in the layout.
-/
import SqlPrinter.Proofs.Count.Query

namespace SqlPrinter

variable (t : Tally) (settings : Settings)

@[simp] theorem Doc.hasFault_append (d e : Doc) :
    (d ++ e).hasFault = (d.hasFault || e.hasFault) := rfl

namespace Layout

/-! ## Clauses without expressions -/

@[simp] theorem count_reference (r : Reference) : (reference r).count t = 0 := by
  have hdelete : Doc.total t (r.onDelete.map (.text ·.text)).toList = 0 := by
    cases r.onDelete <;> simp
  have hupdate : Doc.total t (r.onUpdate.map (.text ·.text)).toList = 0 := by
    cases r.onUpdate <;> simp
  cases hcolumns :
    r.columns.isEmpty <;> simp [reference, hcolumns, hdelete, hupdate]

@[simp] theorem count_nullable (o : Option Bool) : (nullable o).count t = 0 := by
  rcases o with _ | _ | _ <;> rfl

@[simp] theorem count_indexColumn (c : IndexColumn) :
    (indexColumn c).count t = 0 := by
  have hlength : Doc.total t (c.length.map (.parens <| .number ·)).toList = 0 := by
    cases c.length <;> simp
  simp [indexColumn, hlength]

@[simp] theorem count_indexColumns (cs : List IndexColumn) :
    (indexColumns cs).count t = 0 := by
  cases cs with
  | nil => rfl
  | cons c cs =>
      simp only [indexColumns, Doc.count_parens, Doc.count_append,
        Doc.count_requireText, count_indexColumn, Doc.count_concat, Nat.zero_add]
      exact Doc.total_eq_zero t cs (by simp)

@[simp] theorem count_indexMethod (method : Option IndexType) :
    (indexMethod method).count t = 0 := by
  rcases method with _ | _ | _ <;> rfl

@[simp] theorem count_constraintName (name : Option String) :
    (constraintName name).count t = 0 := by
  unfold constraintName
  split <;> rfl

@[simp] theorem count_indexName (name : Option String) :
    (indexName name).count t = 0 := by
  unfold indexName
  cases Text.nonEmpty name <;> simp

@[simp] theorem count_tableOption (o : TableOption) :
    (tableOption o).count t = 0 := by
  simp only [tableOption]
  split <;> simp

@[simp] theorem count_tableOptions (options : List TableOption) :
    (tableOptions options).count t = 0 := by
  rw [tableOptions, Doc.count_concat]
  exact Doc.total_eq_zero t options (by simp)

@[simp] theorem total_objects (os : List ObjectName) :
    Doc.total t (os.map ObjectName.doc) = 0 :=
  Doc.total_eq_zero t os (by simp)

end Layout

namespace Node

/-! ## Parts of statements -/

/-- Layouts of a list, given what each of them counts for. -/
theorem total_map_eq_laid {α : Type} {f : α → Doc} {g : α → List Node}
    (h : ∀ a, (f a).count t = laid t settings (g a)) (as : List α) :
    Doc.total t (as.map f) = laid t settings (as.flatMap g) := by
  induction as with
  | nil => rfl
  | cons a as ih => simp [h, ih]

theorem columnDef_isCounted (c : ColumnDef) :
    (columnDef c).IsCounted t settings := by
  have htype : Doc.total t (c.dataType.map (Layout.typeDoc settings)).toList =
      laid t settings (c.dataType.toList.map dataType) := by
    cases c.dataType <;> simp [doc]
  have hcomment : Doc.total t (c.options.comment.map Doc.string).toList = 0 := by
    cases c.options.comment <;> simp
  have hword (o : Option String) : Doc.total t (o.map Doc.word).toList = 0 := by
    cases o <;> simp
  have hcheck :
      Doc.total t (c.options.check.map (.parens <| Layout.expr settings ·)).toList =
      laid t settings (expr? c.options.check) := by
    cases c.options.check <;> simp [expr?, exprs, doc]
  have hreference :
      Doc.total t (c.options.references.map Layout.reference).toList = 0 := by
    cases c.options.references <;> simp
  simp only [IsCounted, doc, own, copies, shown, children, Layout.columnDef,
    Layout.map_expr, Doc.count_append, Doc.count_requireText, Doc.count_fragments,
    Doc.total_cons, Doc.total_nil, Doc.count_name, Doc.count_optional,
    Doc.count_clause, Doc.count_textIf, Layout.count_nullable, laid_append,
    total_expr?, htype, hcomment, hword, hcheck, hreference]
  omega

theorem constraint_isCounted (c : TableConstraint) :
    (constraint c).IsCounted t settings := by
  cases c with
  | unique constraint keyword name columns method =>
      rcases keyword with _ | _ | _ <;>
        simp [IsCounted, doc, own, copies, shown, Layout.tableConstraint]
  | _ => simp [IsCounted, doc, own, copies, shown, Layout.tableConstraint]

theorem index_isCounted (i : IndexDef) : (index i).IsCounted t settings := by
  simp [IsCounted, doc, own, copies, shown, Layout.indexDef]

/-- Where the inserted value is used, the other one is not laid out. -/
theorem count_assignment (inserted : InsertedRef) (a : Assignment) :
    (Layout.assignment settings inserted a).count t =
      laid t settings (assignment a).shown := by
  have hinserted : (inserted.doc a.column).count t = 0 := by
    cases inserted <;> simp [InsertedRef.doc]
  cases hfrom :
    a.fromInserted <;> simp [Layout.assignment, shown, hfrom, hinserted, doc]

theorem assignment_isCounted (a : Assignment) :
    (assignment a).IsCounted t settings := by
  simp [IsCounted, doc, own, copies, count_assignment]

@[simp] theorem count_assignments (inserted : InsertedRef) (as : List Assignment) :
    (Layout.assignments settings inserted as).count t =
      laid t settings (as.map assignment) := by
  have hassignment (a : Assignment) :
      (Layout.assignment settings inserted a).count t =
      laid t settings [assignment a] := by
    simp [count_assignment, doc]
  rw [List.map_eq_flatMap]
  simp [Layout.assignments, total_map_eq_laid t settings hassignment]

@[simp] theorem count_rowSource (s : RowSource) :
    (Layout.rowSource settings s).count t = laid t settings (ofSource s) := by
  cases s with
  | values rows =>
      have hrows := total_rows t settings (g := Layout.valueRow) (by simp) rows
      simp [Layout.rowSource, ofSource, hrows]
  | query q => simp [Layout.rowSource, ofSource, doc]
  | assignments as => simp [Layout.rowSource, ofSource]

@[simp] theorem count_ignoreWord (ignore : Bool) (action : Option ConflictAction) :
    (Layout.ignoreWord settings ignore action).count t = 0 := by
  unfold Layout.ignoreWord
  repeat' split
  all_goals simp

@[simp] theorem count_rowName (inserted : InsertedRef)
    (action : Option ConflictAction) :
    (Layout.rowName inserted action).count t = 0 := by
  unfold Layout.rowName
  repeat' split
  all_goals simp

@[simp] theorem count_conflictTarget (clause : ConflictClause) :
    (Layout.conflictTarget clause).count t = 0 := by
  unfold Layout.conflictTarget
  repeat' split
  all_goals simp

/-- A conflict clause shows its assignments and its condition.  Where there is no
place for a condition, there is a fault. -/
theorem count_onConflict (inserted : InsertedRef) (ignore : Bool)
    (conflict : Option ConflictClause)
    (h : (Layout.onConflict settings inserted ignore conflict).hasFault = false) :
    (Layout.onConflict settings inserted ignore conflict).count t =
      laid t settings (conflict? conflict) := by
  unfold Layout.onConflict at *
  rcases conflict with _ | ⟨columns, constraint, _ | _ | ⟨as, condition⟩⟩
  case some.some.doUpdate =>
    split
    · cases condition with
      | none => simp [Layout.duplicateKey, conflict?, expr?, exprs]
      | some condition => simp_all [Layout.duplicateKey, Doc.hasFault]
    · cases condition <;> simp [Layout.conflictAction, conflict?, expr?, exprs, doc]
  all_goals
    split <;> simp [Layout.duplicateKey, Layout.conflictAction, conflict?]

/-! ## Statements -/

theorem insert_isCounted {i : Insert}
    (h : (Layout.insert settings i).hasFault = false) :
    (statement (.insert i)).IsCounted t settings := by
  have hconflict :
      (Layout.onConflict settings (InsertedRef.ofInsert settings.dialect i.source)
      i.ignore i.conflict).hasFault = false := by
    simp only [Layout.insert, Doc.hasFault_append, Bool.or_eq_false_iff] at h
    exact h.1.2
  have hcolumns :
      (if i.columns.isEmpty then Doc.empty
        else .text " " ++ .parens (.names "insert" "columns" i.columns)).count
          t = 0 := by
    split <;> simp
  simp only [IsCounted, doc, Statement.doc, own, copies, shown, children,
    ofStatement, Layout.insert, Doc.count_append, Doc.count_require, Doc.count_text,
    Doc.count_textIf, Layout.count_returning, total_selectItems, count_ignoreWord,
    count_rowSource, count_rowName, count_onConflict t settings _ _ _ hconflict,
    hcolumns, laid_cons, laid_append]
  omega

/-- Sources of rows after a word, if there are any. -/
theorem count_tableList (word : String) (ts : List TableRef) :
    (if ts.isEmpty then Doc.empty
      else .text word ++ .commas (Layout.tableRefs settings ts)).count t =
      laid t settings (ts.map table) := by
  cases ts <;> simp

theorem update_isCounted (u : Update) :
    (statement (.update u)).IsCounted t settings := by
  have hfallback : (Layout.updateFallback u.fallback).count t = 0 := by
    rcases u.fallback with _ | _ | _ <;> rfl
  simp only [IsCounted, doc, Statement.doc, own, copies, shown, children,
    ofStatement, Layout.update, Layout.map_expr, Doc.count_append, Doc.count_text,
    Doc.count_clause, Layout.count_tables, Layout.count_orderBy, Layout.count_limit,
    Layout.count_returning, count_withDoc, count_assignments, total_joinDocs,
    total_expr?, total_orderItems, total_selectItems, count_tableList, hfallback,
    Doc.total_cons, Doc.total_nil, Option.toList_none, laid_cons, laid_append]
  omega

theorem delete_isCounted (d : Delete) :
    (statement (.delete d)).IsCounted t settings := by
  have htargets : (if d.targets.isEmpty then Doc.empty
      else .names "delete" "targets" d.targets ++ .text " ").count t = 0 := by
    split <;> simp
  simp only [IsCounted, doc, Statement.doc, own, copies, shown, children,
    ofStatement, Layout.delete, Layout.map_expr, Doc.count_append,
    Doc.count_require, Doc.count_text, Doc.count_clause, Layout.count_tables,
    Layout.count_orderBy, Layout.count_limit, Layout.count_returning, count_withDoc,
    total_tableRefs, total_joinDocs, total_expr?, total_orderItems,
    total_selectItems, count_tableList, htargets, Doc.total_nil, Option.toList_none,
    laid_append]
  omega

theorem createTable_isCounted (c : CreateTable) :
    (statement (.createTable c)).IsCounted t settings := by
  have helement (e : TableElement) : (Layout.tableElement settings e).count t =
      laid t settings [ofElement e] := by
    cases e <;> simp [Layout.tableElement, ofElement, doc]
  have helements : Doc.total t (c.elements.map (Layout.tableElement settings)) =
      laid t settings (c.elements.map ofElement) := by
    rw [List.map_eq_flatMap (f := ofElement)]
    exact total_map_eq_laid t settings helement c.elements
  have hquery : Doc.total t (c.query.map (Layout.queryDoc settings)).toList =
      laid t settings (c.query.toList.map query) := by
    cases c.query <;> simp [doc]
  simp only [IsCounted, doc, Statement.doc, own, copies, shown, Layout.createTable]
  cases c.like with
  | some source => simp
  | none =>
      have hlist : (if c.elements.isEmpty then Doc.empty
          else .text " " ++ .parens
            (.commas (c.elements.map (Layout.tableElement settings)))).count t =
              laid t settings (c.elements.map ofElement) := by
        rw [← helements]
        cases c.elements <;> simp
      simp only [Doc.count_append, Doc.count_require, Doc.count_text,
        Doc.count_textIf, ObjectName.count_doc, Doc.count_clause,
        Layout.count_tableOptions, hlist, hquery]
      simp

theorem createView_isCounted (v : CreateView) :
    (statement (.createView v)).IsCounted t settings := by
  cases hcolumns : v.columns.isEmpty <;>
    simp [IsCounted, doc, own, copies, shown, Statement.doc, Layout.createView,
      ofStatement, hcolumns]

theorem alterTable_isCounted (a : AlterTable) :
    (statement (.alterTable a)).IsCounted t settings := by
  have haction (action : AlterAction) :
      (Layout.alterAction settings action).count t =
        laid t settings (ofAction action) := by
    cases action <;> simp [Layout.alterAction, Layout.columnVerb, ofAction, doc]
  simp [IsCounted, doc, own, copies, shown, Statement.doc, Layout.alterTable,
    ofStatement, total_map_eq_laid t settings haction]

theorem attach_isCounted {a : Attach}
    (h : (Layout.attach settings a).hasFault = false) :
    (statement (.attach a)).IsCounted t settings := by
  unfold Layout.attach at h
  split at h
  · next hsupports =>
      simp [IsCounted, doc, own, copies, shown, Statement.doc, Layout.attach,
        ofStatement, hsupports]
  · contradiction

theorem statement_isCounted {s : Statement}
    (h : (s.doc settings).hasFault = false) :
    (statement s).IsCounted t settings := by
  cases s with
  | query q => simp [IsCounted, doc, own, copies, shown, Statement.doc, ofStatement]
  | insert i => exact insert_isCounted t settings h
  | update u => exact update_isCounted t settings u
  | delete d => exact delete_isCounted t settings d
  | createTable c => exact createTable_isCounted t settings c
  | createDatabase d =>
      simp [IsCounted, doc, own, copies, shown, Statement.doc, ofStatement,
        Layout.createDatabase]
  | createView v => exact createView_isCounted t settings v
  | createIndex i =>
      simp [IsCounted, doc, own, copies, shown, Statement.doc, ofStatement,
        Layout.createIndex]
  | alterTable a => exact alterTable_isCounted t settings a
  | drop d =>
      have htable : Doc.total t (d.table.map ObjectName.doc).toList = 0 := by
        cases d.table <;> simp
      simp [IsCounted, doc, own, copies, shown, Statement.doc, ofStatement,
        Layout.drop, htable]
  | list target =>
      have hlist : (Layout.list target).count t = 0 := by
        rcases target with (_ | _) | _ | _ | _ | _ <;> simp [Layout.list]
      simpa [IsCounted, doc, own, copies, shown, Statement.doc, ofStatement]
        using hlist
  | analyze a =>
      simp [IsCounted, doc, own, copies, shown, Statement.doc, ofStatement,
        Layout.analyze]
  | attach a => exact attach_isCounted t settings h

/-- The parameters of a node are the node itself and those of the parts that are
shown; of a statement, if there is no fault in its layout. -/
theorem isCounted {n : Node}
    (h : n.isPart = true ∨ (n.doc settings).hasFault = false) :
    n.IsCounted t settings := by
  cases n with
  | expr e => exact expr_isCounted t settings e
  | call c => exact call_isCounted t settings c
  | aggregate a => exact aggregate_isCounted t settings a
  | dataType d => exact dataType_isCounted t settings d
  | cast c => exact cast_isCounted t settings c
  | extract x => exact extract_isCounted t settings x
  | anyValue a => exact anyValue_isCounted t settings a
  | window w => exact window_isCounted t settings w
  | bound b => exact bound_isCounted t settings b
  | sortKey k => exact sortKey_isCounted t settings k
  | query q => exact query_isCounted t settings q
  | body b => exact body_isCounted t settings b
  | select s => exact select_isCounted t settings s
  | item i => exact item_isCounted t settings i
  | modifier m => exact modifier_isCounted t settings m
  | table r => exact table_isCounted t settings r
  | join j => exact join_isCounted t settings j
  | cte c => exact cte_isCounted t settings c
  | assignment a => exact assignment_isCounted t settings a
  | columnDef c => exact columnDef_isCounted t settings c
  | constraint c => exact constraint_isCounted t settings c
  | index i => exact index_isCounted t settings i
  | statement s =>
      exact statement_isCounted t settings (h.resolve_left Bool.false_ne_true)

end Node

end SqlPrinter
