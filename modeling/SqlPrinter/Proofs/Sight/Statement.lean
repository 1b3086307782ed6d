/-
The names and the points at which printing has to stop in the layout of a
statement.  The database whose tables are listed is the only name of a statement for
which it does not ask.
-/
import SqlPrinter.Proofs.Count.Statement
import SqlPrinter.Proofs.Sight.Query

namespace SqlPrinter

variable (v : Sight) (settings : Settings)

namespace Layout

/-! ## Clauses without expressions -/

@[simp] theorem shows_nullable (o : Option Bool) : ¬ (nullable o).Shows v := by
  rcases o with _ | _ | _ <;> simp [nullable]

@[simp] theorem shows_indexColumn (c : IndexColumn) :
    (indexColumn c).Shows v ↔ v.name c.column := by
  have hlength :
      ¬ Doc.ShowsSome v (c.length.map (.parens <| .number ·)).toList := by
    cases c.length <;> simp
  simp [indexColumn, hlength]

/-- An index asks for the names of its columns. -/
@[simp] theorem shows_indexColumns (cs : List IndexColumn) :
    (indexColumns cs).Shows v ↔
      (cs = [] ∨ ∃ c ∈ cs, c.column = "") ∧ v.fault ∨
        ∃ c ∈ cs, v.name c.column := by
  cases cs with
  | nil => simp [indexColumns]
  | cons c cs =>
      have hrest : Doc.ShowsSome v (cs.map fun c =>
          .requireText c.column "index" "column" ++ .text ", " ++ indexColumn c) ↔
          (∃ c ∈ cs, c.column = "") ∧ v.fault ∨ ∃ c ∈ cs, v.name c.column := by
        simp only [Doc.ShowsSome, List.mem_map, exists_exists_and_eq_and,
          Doc.shows_append, Doc.shows_requireText, Doc.shows_text, or_false,
          shows_indexColumn, and_or_left, exists_or]
        by_cases hfault : v.fault <;> simp [hfault]
      by_cases hfault : v.fault <;>
        simp [indexColumns, hrest, hfault, or_assoc, or_left_comm]

@[simp] theorem shows_indexMethod (method : Option IndexType) :
    ¬ (indexMethod method).Shows v := by
  rcases method with _ | _ | _ <;> simp [indexMethod]

@[simp] theorem shows_constraintName (name : Option String) :
    (constraintName name).Shows v ↔ ∃ s, Text.nonEmpty name = some s ∧
      v.name s := by
  unfold constraintName
  cases Text.nonEmpty name <;> simp

@[simp] theorem shows_indexName (name : Option String) :
    (indexName name).Shows v ↔ ∃ s, Text.nonEmpty name = some s ∧ v.name s := by
  unfold indexName
  cases Text.nonEmpty name <;> simp

@[simp] theorem shows_tableOption (o : TableOption) :
    (tableOption o).Shows v ↔ o.keyword = "" ∧ v.fault := by
  simp only [tableOption]
  split <;> simp

theorem shows_blank_tableOptions (options : List TableOption) :
    ¬ (tableOptions options).Shows .blank := by
  simp [tableOptions, Doc.ShowsSome]

theorem shows_blank_reference (r : Reference) :
    (reference r).Shows .blank ↔ (reference r).Shows .stop := by
  have hdelete (v : Sight) :
      ¬ Doc.ShowsSome v (r.onDelete.map (.text ·.text)).toList := by
    cases r.onDelete <;> simp
  have hupdate (v : Sight) :
      ¬ Doc.ShowsSome v (r.onUpdate.map (.text ·.text)).toList := by
    cases r.onUpdate <;> simp
  cases hcolumns :
    r.columns.isEmpty <;> simp [reference, hcolumns, hdelete, hupdate]

theorem shows_blank_objects (os : List ObjectName) :
    Doc.ShowsSome .blank (os.map ObjectName.doc) ↔
      Doc.ShowsSome .stop (os.map ObjectName.doc) := by
  simp [Doc.ShowsSome]

end Layout

namespace Node

theorem columnDef_isRead (c : ColumnDef) : (columnDef c).IsRead settings := by
  intro h
  have htype (v : Sight) :
      Doc.ShowsSome v (c.dataType.map (Layout.typeDoc settings)).toList ↔
      ShowsSome v settings (c.dataType.toList.map dataType) := by
    cases c.dataType <;> simp [doc]
  have hcomment (v : Sight) :
      ¬ Doc.ShowsSome v (c.options.comment.map Doc.string).toList := by
    cases c.options.comment <;> simp
  have hword (v : Sight) (o : Option String) :
      ¬ Doc.ShowsSome v (o.map Doc.word).toList := by
    cases o <;> simp
  have hcheck (v : Sight) :
      Doc.ShowsSome v (c.options.check.map
        (.parens <| Layout.expr settings ·)).toList ↔
        ShowsSome v settings (expr? c.options.check) := by
    cases c.options.check <;> simp [expr?, exprs, doc]
  have hreference :
      Doc.ShowsSome .blank (c.options.references.map Layout.reference).toList ↔
      Doc.ShowsSome .stop (c.options.references.map Layout.reference).toList := by
    cases c.options.references <;> simp [Layout.shows_blank_reference]
  simp_all [doc, shown, IsNameless, Layout.columnDef, Layout.map_expr]

theorem constraint_isRead (c : TableConstraint) :
    (constraint c).IsRead settings := by
  intro h
  cases c with
  | unique constraint keyword name columns method =>
      rcases keyword with _ | _ | _ <;>
        simp_all [doc, shown, IsNameless, Layout.tableConstraint]
  | foreignKey constraint columns references =>
      simp_all [doc, shown, IsNameless, Layout.tableConstraint,
        Layout.shows_blank_reference]
  | _ => simp_all [doc, shown, IsNameless, Layout.tableConstraint]

theorem index_isRead (i : IndexDef) : (index i).IsRead settings := by
  intro h
  simp_all [doc, shown, IsNameless, Layout.indexDef]

/-! ### Assignments -/

/-- A reference to an inserted value has the name of its column. -/
theorem shows_insertedRef (inserted : InsertedRef) (column : String) :
    ((inserted.doc column).Shows .blank ↔ column = "") ∧
      ¬ (inserted.doc column).Shows .stop := by
  cases inserted <;> simp [InsertedRef.doc, InsertedRef.row]

theorem shows_stop_assignment (inserted : InsertedRef) (a : Assignment) :
    (Layout.assignment settings inserted a).Shows .stop ↔
      a.column = "" ∨ ShowsSome .stop settings (assignment a).shown := by
  have hinserted := shows_insertedRef inserted a.column
  cases hfrom :
    a.fromInserted <;> simp [Layout.assignment, shown, hfrom, hinserted, doc]

/-- An assignment asks for the name of its column. -/
theorem shows_blank_assignment (inserted : InsertedRef) (a : Assignment) :
    (Layout.assignment settings inserted a).Shows .blank ↔
      a.column = "" ∨ ShowsSome .blank settings (assignment a).shown := by
  have hinserted := shows_insertedRef inserted a.column
  cases hfrom :
    a.fromInserted <;> simp [Layout.assignment, shown, hfrom, hinserted, doc]

theorem assignment_isRead (a : Assignment) : (assignment a).IsRead settings := by
  intro h
  simp_all [doc, IsNameless, shows_stop_assignment, shows_blank_assignment]

/-- The kind of reference to inserted values makes no difference. -/
theorem shows_assignments (inserted : InsertedRef) (as : List Assignment) :
    ((Layout.assignments settings inserted as).Shows .stop ↔
        as = [] ∨ ShowsSome .stop settings (as.map assignment)) ∧
      ((Layout.assignments settings inserted as).Shows .blank ↔
        ShowsSome .blank settings (as.map assignment)) := by
  simp [Layout.assignments, ShowsSome, Doc.ShowsSome, doc, shows_stop_assignment,
    shows_blank_assignment]

@[simp] theorem shows_rowSource (s : RowSource) :
    (Layout.rowSource settings s).Shows .blank ↔
      ShowsSome .blank settings (ofSource s) := by
  cases s with
  | values rows =>
      have hrows :=
        showsSome_rows .blank settings (g := Layout.valueRow) (by simp) rows
      simp [Layout.rowSource, ofSource, hrows]
  | query q => simp [Layout.rowSource, ofSource, doc]
  | assignments as => simp [Layout.rowSource, ofSource, shows_assignments]

theorem not_shows_stop_rowSource {s : RowSource}
    (h : ¬ (Layout.rowSource settings s).Shows .stop) :
    ¬ ShowsSome .stop settings (ofSource s) := by
  cases s with
  | values rows =>
      have hrows :=
        showsSome_rows .stop settings (g := Layout.valueRow) (by simp) rows
      simp_all [Layout.rowSource, ofSource]
  | query q => simpa [Layout.rowSource, ofSource, doc] using h
  | assignments as =>
      simp only [Layout.rowSource, Doc.shows_append, Doc.shows_text, false_or,
        (shows_assignments settings .excluded as).1, not_or] at h
      exact h.2

@[simp] theorem shows_ignoreWord (ignore : Bool) (action : Option ConflictAction) :
    ¬ (Layout.ignoreWord settings ignore action).Shows .blank := by
  unfold Layout.ignoreWord
  repeat' split
  all_goals simp

@[simp] theorem shows_rowName (inserted : InsertedRef)
    (action : Option ConflictAction) :
    ¬ (Layout.rowName inserted action).Shows .blank := by
  unfold Layout.rowName
  repeat' split
  all_goals simp [InsertedRef.row]

/-- A conflict target asks for its names. -/
theorem shows_blank_conflictTarget (clause : ConflictClause) :
    (Layout.conflictTarget clause).Shows .blank ↔
      (Layout.conflictTarget clause).Shows .stop := by
  unfold Layout.conflictTarget
  cases hname : Text.nonEmpty clause.constraint with
  | some name => simp [Text.ne_empty_of_nonEmpty hname]
  | none =>
      dsimp only
      split <;> simp

/-- If printing does not have to stop in a conflict clause, it does not in its
parts, and the empty names in it are those of its parts.  An update has at least
one assignment. -/
theorem onConflict_isRead (inserted : InsertedRef) (ignore : Bool)
    (conflict : Option ConflictClause)
    (h : ¬ (Layout.onConflict settings inserted ignore conflict).Shows .stop) :
    ¬ ShowsSome .stop settings (conflict? conflict) ∧
      ((Layout.onConflict settings inserted ignore conflict).Shows .blank ↔
        ShowsSome .blank settings (conflict? conflict)) := by
  unfold Layout.onConflict at *
  rcases conflict with _ | ⟨columns, constraint, _ | _ | ⟨as, condition⟩⟩
  case some.some.doUpdate =>
    split
    · cases condition with
      | none =>
          simp_all [Layout.duplicateKey, conflict?, expr?, exprs, shows_assignments]
      | some condition => simp_all [Layout.duplicateKey]
    · cases condition <;>
        simp_all [Layout.conflictAction, conflict?, expr?, exprs, doc,
          shows_assignments, shows_blank_conflictTarget]
  all_goals
    split <;>
      simp_all [Layout.duplicateKey, Layout.conflictAction, conflict?,
        shows_blank_conflictTarget]

/-! ### Statements -/

theorem insert_isRead (i : Insert) : (statement (.insert i)).IsRead settings := by
  intro h
  have hcolumns :
      (if i.columns.isEmpty then Doc.empty
        else .text " " ++ .parens (.names "insert" "columns" i.columns)).Shows
          .blank ↔
      (if i.columns.isEmpty then Doc.empty
        else .text " " ++ .parens (.names "insert" "columns" i.columns)).Shows
          .stop := by
    split <;> simp
  simp only [doc, Statement.doc, Layout.insert, Doc.shows_append, not_or] at h
  obtain ⟨⟨⟨⟨⟨⟨-, htable⟩, hcolumnsStop⟩, hsource⟩, -⟩, hconflict⟩, hreturning⟩ := h
  obtain ⟨hconflictStop, hconflictBlank⟩ :=
    onConflict_isRead settings _ _ _ hconflict
  have hsourceStop := not_shows_stop_rowSource settings hsource
  simp_all [doc, Statement.doc, shown, ofStatement, IsNameless, Layout.insert,
    or_assoc]

/-- Sources of rows after a word, if there are any. -/
theorem shows_tableList (word : String) (ts : List TableRef) :
    (if ts.isEmpty then Doc.empty
      else .text word ++ .commas (Layout.tableRefs settings ts)).Shows v ↔
      ShowsSome v settings (ts.map table) := by
  cases ts <;> simp

theorem update_isRead (u : Update) : (statement (.update u)).IsRead settings := by
  intro h
  have hfallback (v : Sight) : ¬ (Layout.updateFallback u.fallback).Shows v := by
    rcases u.fallback with _ | _ | _ <;> simp [Layout.updateFallback]
  simp only [doc, Statement.doc, shown, children, ofStatement, Layout.update,
    Layout.map_expr, Doc.shows_append, Doc.shows_text, Doc.shows_clause,
    Layout.shows_tables, Layout.shows_orderBy, Layout.shows_limit,
    Layout.shows_returning, shows_withDoc, shows_assignments, showsSome_joinDocs,
    showsSome_expr?, showsSome_orderItems, showsSome_selectItems, shows_tableList,
    hfallback, Doc.showsSome_cons, Doc.showsSome_nil, Option.toList_none,
    showsSome_cons, showsSome_append] at h ⊢
  simp_all [IsNameless, or_assoc]

theorem delete_isRead (d : Delete) : (statement (.delete d)).IsRead settings := by
  intro h
  have htargets : (if d.targets.isEmpty then Doc.empty
      else .names "delete" "targets" d.targets ++ .text " ").Shows .blank ↔
      (if d.targets.isEmpty then Doc.empty
      else .names "delete" "targets" d.targets ++ .text " ").Shows .stop := by
    split <;> simp
  simp only [doc, Statement.doc, shown, children, ofStatement, Layout.delete,
    Layout.map_expr, Doc.shows_append, Doc.shows_require, Doc.shows_text,
    Doc.shows_clause, Layout.shows_tables, Layout.shows_orderBy, Layout.shows_limit,
    Layout.shows_returning, shows_withDoc, showsSome_tableRefs, showsSome_joinDocs,
    showsSome_expr?, showsSome_orderItems, showsSome_selectItems, shows_tableList,
    htargets, Doc.showsSome_nil, Option.toList_none, showsSome_append] at h ⊢
  simp_all [IsNameless, or_assoc]

theorem createTable_isRead (c : CreateTable) :
    (statement (.createTable c)).IsRead settings := by
  intro h
  have helement (v : Sight) (e : TableElement) :
      (Layout.tableElement settings e).Shows v ↔
      ((ofElement e).doc settings).Shows v := by
    cases e <;> simp [Layout.tableElement, ofElement, doc]
  have helements (v : Sight) :
      Doc.ShowsSome v (c.elements.map (Layout.tableElement settings)) ↔
      ShowsSome v settings (c.elements.map ofElement) := by
    simp [ShowsSome, Doc.ShowsSome, helement]
  have hlist (v : Sight) : (if c.elements.isEmpty then Doc.empty
      else .text " " ++ .parens (.commas
        (c.elements.map (Layout.tableElement settings)))).Shows v ↔
      ShowsSome v settings (c.elements.map ofElement) := by
    rw [← helements]
    cases c.elements <;> simp
  have hquery (v : Sight) :
      Doc.ShowsSome v (c.query.map (Layout.queryDoc settings)).toList ↔
      ShowsSome v settings (c.query.toList.map query) := by
    cases c.query <;> simp [doc]
  simp only [doc, Statement.doc, shown, IsNameless, Layout.createTable] at h ⊢
  cases hlike : c.like with
  | some source => simp_all
  | none =>
      simp only [hlike, Doc.shows_append, hlist, Doc.shows_clause, hquery] at h ⊢
      simp_all [Layout.shows_blank_tableOptions, or_assoc]

theorem createView_isRead (v : CreateView) :
    (statement (.createView v)).IsRead settings := by
  intro h
  cases hcolumns : v.columns.isEmpty <;>
    simp_all [doc, Statement.doc, shown, IsNameless, Layout.createView, ofStatement]

/-- Layouts of a list, if each of them shows what some nodes show. -/
theorem showsSome_flatMap {α : Type} {f : α → Doc} {g : α → List Node}
    (hfg : ∀ a, ¬ (f a).Shows .stop →
      ¬ ShowsSome .stop settings (g a) ∧
        ((f a).Shows .blank ↔ ShowsSome .blank settings (g a)))
    {as : List α} (h : ¬ Doc.ShowsSome .stop (as.map f)) :
    ¬ ShowsSome .stop settings (as.flatMap g) ∧
      (Doc.ShowsSome .blank (as.map f) ↔
        ShowsSome .blank settings (as.flatMap g)) := by
  induction as with
  | nil => simp
  | cons a as ih =>
      simp only [List.map_cons, Doc.showsSome_cons, not_or] at h
      obtain ⟨hstop, hblank⟩ := hfg a h.1
      obtain ⟨hstops, hblanks⟩ := ih h.2
      simp [hstop, hblank, hstops, hblanks]

theorem alterTable_isRead (a : AlterTable) :
    (statement (.alterTable a)).IsRead settings := by
  intro h
  have haction (action : AlterAction)
      (h : ¬ (Layout.alterAction settings action).Shows .stop) :
      ¬ ShowsSome .stop settings (ofAction action) ∧
        ((Layout.alterAction settings action).Shows .blank ↔
          ShowsSome .blank settings (ofAction action)) := by
    cases action <;> simp_all [Layout.alterAction, Layout.columnVerb, ofAction, doc]
  simp only [doc, Statement.doc, Layout.alterTable, Doc.shows_append,
    Doc.shows_commas, not_or] at h
  obtain ⟨hstop, hblank⟩ := showsSome_flatMap settings haction h.2
  simp_all [doc, Statement.doc, shown, IsNameless, ofStatement, Layout.alterTable]

theorem attach_isRead (a : Attach) : (statement (.attach a)).IsRead settings := by
  intro h
  simp only [doc, Statement.doc, shown, children, ofStatement, IsNameless,
    Layout.attach] at h ⊢
  split <;> simp_all [doc]

theorem statement_isRead (s : Statement) : (statement s).IsRead settings := by
  cases s with
  | query q =>
      intro h; simp_all [doc, Statement.doc, shown, IsNameless, ofStatement]
  | insert i => exact insert_isRead settings i
  | update u => exact update_isRead settings u
  | delete d => exact delete_isRead settings d
  | createTable c => exact createTable_isRead settings c
  | createDatabase d =>
      intro h
      simp_all [doc, Statement.doc, shown, IsNameless, ofStatement,
        Layout.createDatabase, Layout.shows_blank_tableOptions]
  | createView v => exact createView_isRead settings v
  | createIndex i =>
      intro h
      simp_all [doc, Statement.doc, shown, IsNameless, ofStatement,
        Layout.createIndex]
  | alterTable a => exact alterTable_isRead settings a
  | drop d =>
      intro h
      have htable : Doc.ShowsSome .blank (d.table.map ObjectName.doc).toList ↔
          Doc.ShowsSome .stop (d.table.map ObjectName.doc).toList := by
        cases d.table <;> simp
      simp_all [doc, Statement.doc, shown, IsNameless, ofStatement, Layout.drop,
        Layout.shows_blank_objects]
  | list target =>
      intro h
      rcases target with (_ | _) | _ | _ | _ | _ <;>
        simp_all [doc, Statement.doc, shown, IsNameless, ofStatement, Layout.list]
  | analyze a =>
      intro h
      simp_all [doc, Statement.doc, shown, IsNameless, ofStatement, Layout.analyze,
        Layout.shows_blank_objects]
  | attach a => exact attach_isRead settings a

theorem isRead (n : Node) : n.IsRead settings := by
  cases n with
  | expr e => exact expr_isRead settings e
  | call c => exact call_isRead settings c
  | aggregate a => exact aggregate_isRead settings a
  | dataType d => exact dataType_isRead settings d
  | cast c => exact cast_isRead settings c
  | extract x => exact extract_isRead settings x
  | anyValue a => exact anyValue_isRead settings a
  | window w => exact window_isRead settings w
  | bound b => exact bound_isRead settings b
  | sortKey k => exact sortKey_isRead settings k
  | query q => exact query_isRead settings q
  | body b => exact body_isRead settings b
  | select s => exact select_isRead settings s
  | item i => exact item_isRead settings i
  | modifier m => exact modifier_isRead settings m
  | table r => exact table_isRead settings r
  | join j => exact join_isRead settings j
  | cte c => exact cte_isRead settings c
  | assignment a => exact assignment_isRead settings a
  | columnDef c => exact columnDef_isRead settings c
  | constraint c => exact constraint_isRead settings c
  | index i => exact index_isRead settings i
  | statement s => exact statement_isRead settings s

/-- The empty names that are printed are those of the nodes that are printed. -/
theorem shows_blank_doc {n : Node} (h : ¬ (n.doc settings).Shows .stop) :
    (n.doc settings).Shows .blank ↔ ∃ m ∈ Walk.printed.nodes n, m.IsNameless := by
  induction n using Walk.printed.induction with
  | step n ih =>
      obtain ⟨hstop, hblank⟩ := n.isRead settings h
      simp only [ShowsSome, Doc.ShowsSome, List.mem_map, exists_exists_and_eq_and]
        at hstop hblank
      have hparts : (∃ k ∈ n.shown, (k.doc settings).Shows .blank) ↔
          ∃ k ∈ n.shown, ∃ m ∈ Walk.printed.nodes k, m.IsNameless :=
        exists_congr fun k => and_congr_right fun hk => ih k hk fun hk' =>
          hstop ⟨k, hk, hk'⟩
      rw [hblank, hparts, Walk.nodes_eq]
      simp only [List.mem_cons, exists_eq_or_imp, exists_mem_flatMap]
      rfl

end Node

end SqlPrinter
