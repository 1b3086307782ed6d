/-
A retouched statement looks as it did, if the parts of it do.
-/
import SqlPrinter.Proofs.Retouch.Query

namespace SqlPrinter.Retouch

open Doc (effects effect?)

variable {σ τ : Settings} {ρ : Retouch}

/-! ## Lists -/

/-- The layouts of a list, given what each of them looks like. -/
theorem effects_map {α : Type} {f f' : α → Doc} {as : List α}
    (has : ∀ a ∈ as, (f a).effect σ = (f' a).effect τ) :
    effects σ (as.map f) = effects τ (as.map f') := by
  simpa [effects] using has

theorem effects_items {is : List SelectItem}
    (hparts : ∀ n ∈ is.map .item, ρ.Keeps σ τ n) :
    effects σ (Layout.selectItems σ (is.map ρ.item)) =
      effects τ (Layout.selectItems τ is) :=
  effects_list (fun _ => rfl) (fun _ _ _ => rfl) (fun _ => rfl) hparts

theorem effects_tables {ts : List TableRef}
    (hparts : ∀ n ∈ ts.map .table, ρ.Keeps σ τ n) :
    effects σ (Layout.tableRefs σ (ts.map ρ.table)) =
      effects τ (Layout.tableRefs τ ts) :=
  effects_list (fun _ => rfl) (fun _ _ _ => rfl) (fun _ => rfl) hparts

theorem effects_joins {js : List Join}
    (hparts : ∀ n ∈ js.map .join, ρ.Keeps σ τ n) :
    effects σ (Layout.joinDocs σ (js.map ρ.join)) =
      effects τ (Layout.joinDocs τ js) :=
  effects_list (fun _ => rfl) (fun _ j _ => by cases j; rfl) (fun _ => rfl) hparts

/-! ## Changes of rows -/

/-- No retouch changes what a conflict is about. -/
theorem conflictTarget_conflict (c : ConflictClause) :
    Layout.conflictTarget (ρ.conflict c) = Layout.conflictTarget c := by
  unfold Layout.conflictTarget
  rw [show Text.nonEmpty (ρ.conflict c).constraint = Text.nonEmpty c.constraint from
    ρ.nonEmpty_text c.constraint]
  rfl

/-- A reference to a value that was to be inserted is used in as many places. -/
theorem rowName_conflictAction (inserted : InsertedRef)
    (action : Option ConflictAction) :
    Layout.rowName inserted (action.map ρ.conflictAction) =
      Layout.rowName inserted action := by
  rcases action with _ | _ | ⟨as, condition⟩ <;>
    simp [Layout.rowName, conflictAction, Function.comp_def, assignment]

theorem ignoreWord_conflictAction (settings : Settings) (ignore : Bool)
    (action : Option ConflictAction) :
    Layout.ignoreWord settings ignore (action.map ρ.conflictAction) =
      Layout.ignoreWord settings ignore action := by
  rcases action with _ | _ | ⟨as, condition⟩ <;> cases ignore <;>
    simp [Layout.ignoreWord, conflictAction]

/-- No retouch changes what the inserted row is called. -/
theorem ofInsert_source (d : Dialect) (s : RowSource) :
    InsertedRef.ofInsert d (ρ.source s) = InsertedRef.ofInsert d s := by
  cases s <;> cases d <;> rfl

variable (h : σ.Agree τ)

include h

/-- An assignment is printed alike if its value is, whatever the inserted row is
called. -/
theorem keeps_assignment {a : Assignment}
    (hparts : ∀ m ∈ (Node.assignment a).children, ρ.Keeps σ τ m) :
    ρ.Keeps σ τ (.assignment a) := by
  have hvalue := (hparts _ List.mem_cons_self).doc rfl
  refine keeps_of_nodes rfl ?_
  simp only [Node.doc] at hvalue ⊢
  cases hfrom : a.fromInserted <;>
    simp [assignment, Layout.assignment, ρ.nonEmpty_text, hfrom, hvalue,
      InsertedRef.doc, h.effect]

/-- Where the value that was to be inserted is used, any reference to it will do. -/
theorem effect_assignment (inserted : InsertedRef) {a : Assignment}
    (ha : ρ.Keeps σ τ (.assignment a)) :
    (Layout.assignment σ inserted (ρ.assignment a)).effect σ =
      (Layout.assignment τ inserted a).effect τ := by
  have ha := ha.doc rfl
  simp only [Node.doc] at ha
  cases hfrom : a.fromInserted with
  | true =>
      have hinserted :
          (inserted.doc a.column).effect σ = (inserted.doc a.column).effect τ := by
        cases inserted <;> simp [InsertedRef.doc, h.effect]
      simp [assignment, Layout.assignment, ρ.nonEmpty_text, hfrom, hinserted,
        h.effect]
  | false => simpa [assignment, Layout.assignment, hfrom] using ha

theorem effect_assignments (inserted : InsertedRef) {as : List Assignment}
    (hparts : ∀ n ∈ as.map .assignment, ρ.Keeps σ τ n) :
    (Layout.assignments σ inserted (as.map ρ.assignment)).effect σ =
      (Layout.assignments τ inserted as).effect τ := by
  have has :
      effects σ (as.map fun a => Layout.assignment σ inserted (ρ.assignment a)) =
      effects τ (as.map (Layout.assignment τ inserted)) :=
    effects_map fun a ha =>
      effect_assignment h inserted (hparts _ (List.mem_map_of_mem ha))
  simp [Layout.assignments, Function.comp_def, has, h.effect]

/-- The source of an INSERT is printed alike if its rows or its query are. -/
theorem effect_source {s : RowSource}
    (hparts : ∀ n ∈ Node.ofSource s, ρ.Keeps σ τ n) :
    (Layout.rowSource σ (ρ.source s)).effect σ =
      (Layout.rowSource τ s).effect τ := by
  cases s with
  | values rows =>
      have hrows :=
        effects_rows (g := Layout.valueRow)
          (fun _ _ => Layout.valueRow_congr) hparts
      simp [source, Layout.rowSource, hrows, h.effect]
  | query q =>
      have hq := (hparts _ List.mem_cons_self).doc rfl
      simp only [Node.doc] at hq
      simp [source, Layout.rowSource, hq]
  | assignments as =>
      have has := effect_assignments h .excluded hparts
      simp [source, Layout.rowSource, has]

/-- The conflict clause is printed alike if its parts are. -/
theorem effect_onConflict (inserted : InsertedRef) (ignore : Bool)
    {c : Option ConflictClause} (hparts : ∀ n ∈ Node.conflict? c, ρ.Keeps σ τ n) :
    (Layout.onConflict σ inserted ignore (c.map ρ.conflict)).effect σ =
      (Layout.onConflict τ inserted ignore c).effect τ := by
  have htarget (clause : ConflictClause) : (Layout.conflictTarget clause).effect σ =
      (Layout.conflictTarget clause).effect τ := h.effect (by simp)
  simp only [Layout.onConflict, h.dialect]
  rcases c with _ | ⟨columns, constraint, _ | _ | ⟨as, condition⟩⟩
  case some.some.doUpdate =>
    simp only [Node.conflict?, List.forall_mem_append] at hparts
    have has := effect_assignments h inserted hparts.1
    have hcondition := effect?_expr? hparts.2
    split
    · simp only [Layout.duplicateKey, Option.map_some, Option.bind_some, conflict,
        conflictAction, h.dialect, Option.isSome_map]
      split
      · exact h.effect rfl
      · simp [has]
    · simp only [Option.map_some, conflictTarget_conflict, Doc.effect_append,
        htarget]
      simp only [conflict, conflictAction, Option.map_some, Layout.conflictAction,
        Layout.map_expr, Doc.effect_append, Doc.effect_text, Doc.effect_clause, has,
        hcondition]
  all_goals
    split
    · simp [Layout.duplicateKey, conflict, conflictAction]
    · simp only [Option.map_some, conflictTarget_conflict, Doc.effect_append,
        htarget]
      simp [conflict, conflictAction, Layout.conflictAction, h.effect]

/-- IGNORE is printed for the dialect, which the settings share. -/
theorem effect_ignoreWord (ignore : Bool) (action : Option ConflictAction) :
    (Layout.ignoreWord σ ignore action).effect σ =
      (Layout.ignoreWord τ ignore action).effect τ := by
  have hword : Layout.ignoreWord σ ignore action =
      Layout.ignoreWord τ ignore action := by
    unfold Layout.ignoreWord
    rw [h.dialect]
  rw [hword]
  exact h.effect (by simp)

/-- An INSERT is printed alike if its parts are. -/
theorem keeps_insert {i : Insert}
    (hparts : ∀ m ∈ (Node.statement (.insert i)).children, ρ.Keeps σ τ m) :
    ρ.Keeps σ τ (.statement (.insert i)) := by
  rcases i with ⟨replace, ignore, into, table, columns, source, conflict, returning⟩
  simp only [Node.children, Node.ofStatement, List.forall_mem_cons,
    List.forall_mem_append] at hparts
  obtain ⟨htable, ⟨hsource, hconflict⟩, hreturning⟩ := hparts
  have haction : (conflict.map ρ.conflict).bind (·.action) =
      (conflict.bind (·.action)).map ρ.conflictAction := by
    cases conflict <;> rfl
  have hcolumns :=
    Layout.ite_congr columns.isEmpty (d := .empty) (h.effect (by simp))
    (show (Doc.text " " ++ .parens (.names "insert" "columns" columns)).effect σ =
      (Doc.text " " ++ .parens (.names "insert" "columns" columns)).effect τ from
        h.effect (by simp))
  have htable := htable.doc rfl
  have hsource := effect_source h hsource
  have hreturning := Layout.returning_congr (effects_items hreturning)
  refine keeps_of_nodes rfl ?_
  simp only [Node.doc] at htable
  simp only [Node.doc, statement, Statement.doc, insert, Layout.insert, haction,
    rowName_conflictAction, ignoreWord_conflictAction, ofInsert_source,
    items_eq_map, h.dialect, Doc.effect_append, Doc.effect_text,
    effect_ignoreWord h, htable, hcolumns, hsource,
    effect_onConflict h _ _ hconflict, hreturning]
  cases table <;> simp [Retouch.table, h.effect]

/-- Sources of rows after a word, if there are any. -/
theorem effect_tableList (word : String) {ts : List TableRef}
    (hparts : ∀ n ∈ ts.map .table, ρ.Keeps σ τ n) :
    (if ts.isEmpty then Doc.empty
      else .text word ++ .commas (Layout.tableRefs σ (ts.map ρ.table))).effect σ =
    (if ts.isEmpty then Doc.empty
      else .text word ++ .commas (Layout.tableRefs τ ts)).effect τ :=
  Layout.ite_congr ts.isEmpty (h.effect (by simp)) (by simp [effects_tables hparts])

theorem keeps_update {u : Update}
    (hparts : ∀ m ∈ (Node.statement (.update u)).children, ρ.Keeps σ τ m) :
    ρ.Keeps σ τ (.statement (.update u)) := by
  rcases u with ⟨ctes, fallback, table, joins, assignments, tables, condition,
    orderBy, limit, returning⟩
  simp only [Node.children, Node.ofStatement, List.forall_mem_cons,
    List.forall_mem_append] at hparts
  obtain ⟨hctes, htable,
    ⟨⟨⟨⟨⟨hjoins, hassignments⟩, htables⟩, hcondition⟩, horder⟩, hlimit⟩,
    hreturning⟩ := hparts
  have htable := htable.doc rfl
  have hsources : (Layout.tables [Layout.tableRef σ (ρ.table table)]
      (Layout.joinDocs σ (joins.map ρ.join))).effect σ =
      (Layout.tables [Layout.tableRef τ table]
        (Layout.joinDocs τ joins)).effect τ :=
    Layout.tables_congr (by simpa [Node.doc] using htable) (effects_joins hjoins)
  have hlimit :=
    Layout.limit_congr h (effect?_expr? hlimit) (q := none) (r := none) rfl
  have hfallback : (Layout.updateFallback fallback).effect σ =
      (Layout.updateFallback fallback).effect τ := by
    rcases fallback with _ | _ | _ <;> simp [Layout.updateFallback]
  refine keeps_of_nodes rfl ?_
  simp only [Node.doc, statement, Statement.doc, update, Layout.update,
    Layout.map_expr, joins_eq_map, tables_eq_map, expr?_eq_map, sortKeys_eq_flatMap,
    items_eq_map, List.isEmpty_map, Doc.effect_append, Doc.effect_text,
    Doc.effect_clause, effect_with? h hctes, hfallback, hsources,
    effect_assignments h .excluded hassignments, effect_tableList h _ htables,
    effect?_expr? hcondition, orderBy_sortKeys horder, hlimit,
    Layout.returning_congr (effects_items hreturning)]

theorem keeps_delete {d : Delete}
    (hparts : ∀ m ∈ (Node.statement (.delete d)).children, ρ.Keeps σ τ m) :
    ρ.Keeps σ τ (.statement (.delete d)) := by
  rcases d with ⟨ctes, targets, tables, joins, usingTables, condition, orderBy,
    limit, returning⟩
  simp only [Node.children, Node.ofStatement, List.forall_mem_append] at hparts
  obtain ⟨⟨⟨⟨⟨⟨⟨hctes, htables⟩, hjoins⟩, husing⟩, hcondition⟩, horder⟩, hlimit⟩,
    hreturning⟩ :=
    hparts
  have htargets :=
    Layout.ite_congr targets.isEmpty (d := .empty) (h.effect (by simp))
    (show (Doc.names "delete" "targets" targets ++ .text " ").effect σ =
      (Doc.names "delete" "targets" targets ++ .text " ").effect τ from h.effect
        (by simp))
  have hlimit :=
    Layout.limit_congr h (effect?_expr? hlimit) (q := none) (r := none) rfl
  have hrequire : (Doc.require (!tables.isEmpty) "delete" "from").effect σ =
      (Doc.require (!tables.isEmpty) "delete" "from").effect τ := h.effect (by simp)
  refine keeps_of_nodes rfl ?_
  simp only [Node.doc, statement, Statement.doc, delete, Layout.delete,
    Layout.map_expr, joins_eq_map, tables_eq_map, expr?_eq_map, sortKeys_eq_flatMap,
    items_eq_map, List.isEmpty_map, Doc.effect_append, Doc.effect_text,
    Doc.effect_clause, hrequire, effect_with? h hctes, htargets,
    Layout.tables_congr (effects_tables htables) (effects_joins hjoins),
    effect_tableList h _ husing, effect?_expr? hcondition, orderBy_sortKeys horder,
    hlimit, Layout.returning_congr (effects_items hreturning)]

/-! ## Statements about tables -/

/-- A column definition is printed alike if its parts are. -/
theorem keeps_columnDef {c : ColumnDef}
    (hparts : ∀ m ∈ (Node.columnDef c).children, ρ.Keeps σ τ m) :
    ρ.Keeps σ τ (.columnDef c) := by
  rcases c with ⟨name, type, options⟩
  simp only [Node.children, List.forall_mem_append] at hparts
  obtain ⟨⟨⟨htype, hdefault⟩, hupdate⟩, hcheck⟩ := hparts
  have htype : effect? σ ((type.map ρ.dataType).map (Layout.typeDoc σ)) =
      effect? τ (type.map (Layout.typeDoc τ)) := by
    cases type with
    | none => rfl
    | some t => exact congrArg some ((htype _ List.mem_cons_self).doc rfl)
  have hcheck :
      effect? σ ((options.check.map ρ.expr).map (.parens <| Layout.expr σ ·)) =
      effect? τ (options.check.map (.parens <| Layout.expr τ ·)) := by
    cases hoption : options.check with
    | none => rfl
    | some e =>
        rw [hoption] at hcheck
        have he := (hcheck _ List.mem_cons_self).doc rfl
        simp only [Node.doc] at he
        simp [he]
  have hword (o : Option String) :
      effect? σ (o.map Doc.word) = effect? τ (o.map Doc.word) := by
    cases o <;> simp [h.effect]
  have hcomment : effect? σ (options.comment.map Doc.string) =
      effect? τ (options.comment.map Doc.string) := by
    cases options.comment <;> simp [h.effect]
  have hreferences : effect? σ (options.references.map Layout.reference) =
      effect? τ (options.references.map Layout.reference) := by
    cases options.references <;> simp [h.effect]
  refine keeps_of_nodes rfl ?_
  simp only [Node.doc, columnDef, Layout.columnDef, expr?_eq_map, Layout.map_expr,
    map_word, h.dialect, Doc.effect_append, Doc.effect_fragments, Doc.effects_cons,
    Doc.effects_nil, Doc.effect_optional, Doc.effect_clause, htype,
    effect?_expr? hdefault, effect?_expr? hupdate, hcheck, hword, hcomment,
    hreferences]
  simp [h.effect]

theorem keeps_constraint {c : TableConstraint}
    (hparts : ∀ m ∈ (Node.constraint c).children, ρ.Keeps σ τ m) :
    ρ.Keeps σ τ (.constraint c) := by
  refine keeps_of_nodes rfl ?_
  cases c with
  | check name e =>
      have he := (hparts _ List.mem_cons_self).doc rfl
      simp only [Node.doc] at he
      simp [Node.doc, constraint, Layout.tableConstraint, he, h.effect]
  | unique name keyword index columns method =>
      rcases keyword with _ | _ | _ <;>
        simp [Node.doc, constraint, Layout.tableConstraint, h.effect]
  | _ => simp [Node.doc, constraint, Layout.tableConstraint, h.effect]

theorem keeps_index (i : IndexDef) : ρ.Keeps σ τ (.index i) :=
  keeps_of_nodes rfl (by simp [Node.doc, Layout.indexDef, h.effect])

omit h in
theorem effect_element {e : TableElement} (hpart : ρ.Keeps σ τ (Node.ofElement e)) :
    (Layout.tableElement σ (ρ.element e)).effect σ =
      (Layout.tableElement τ e).effect τ := by
  cases e with
  | column c =>
      have hc : (Layout.columnDef σ (ρ.columnDef c)).effect σ =
          (Layout.columnDef τ c).effect τ := hpart.doc rfl
      simp [element, Layout.tableElement, hc]
  | constraint c => exact hpart.doc rfl
  | index i => exact hpart.doc rfl

theorem effect_action {a : AlterAction}
    (hparts : ∀ n ∈ Node.ofAction a, ρ.Keeps σ τ n) :
    (Layout.alterAction σ (ρ.action a)).effect σ =
      (Layout.alterAction τ a).effect τ := by
  cases a with
  | addColumn _ c | modifyColumn _ c | changeColumn _ _ c | addConstraint c
  | addIndex c =>
      have hc := (hparts _ List.mem_cons_self).doc rfl
      simp only [Node.doc] at hc
      simp [action, Layout.alterAction, Layout.columnVerb, hc, h.effect]
  | _ => simp [action, Layout.alterAction, Layout.columnVerb, h.effect]

/-- CREATE TABLE is printed alike if its parts are. -/
theorem keeps_createTable {t : CreateTable}
    (hparts : ∀ m ∈ (Node.statement (.createTable t)).children, ρ.Keeps σ τ m) :
    ρ.Keeps σ τ (.statement (.createTable t)) := by
  rcases t with ⟨temporary, ifNotExists, name, elements, options, query, like⟩
  simp only [Node.children, Node.ofStatement, List.forall_mem_append] at hparts
  obtain ⟨helements, hquery⟩ := hparts
  have helements :
      effects σ ((elements.map ρ.element).map (Layout.tableElement σ)) =
      effects τ (elements.map (Layout.tableElement τ)) := by
    rw [List.map_map]
    exact effects_map fun e he =>
      effect_element (helements _ (List.mem_map_of_mem he))
  have hlist := Layout.ite_congr elements.isEmpty (d := .empty) (h.effect (by simp))
    (show (Doc.text " " ++ .parens (.commas ((elements.map ρ.element).map
        (Layout.tableElement σ)))).effect σ =
      (Doc.text " " ++ .parens (.commas
        (elements.map (Layout.tableElement τ)))).effect τ by
        simp only [Doc.effect_append, Doc.effect_text, Doc.effect_parens,
          Doc.effect_commas, helements])
  have hquery : effect? σ ((query.map ρ.query).map (Layout.queryDoc σ)) =
      effect? τ (query.map (Layout.queryDoc τ)) := by
    cases query with
    | none => rfl
    | some q => exact congrArg some ((hquery _ List.mem_cons_self).doc rfl)
  refine keeps_of_nodes rfl ?_
  cases like with
  | some source =>
      simp [Node.doc, statement, Statement.doc, Layout.createTable, h.effect]
  | none =>
      simp only [Node.doc, statement, Statement.doc, Layout.createTable,
        List.isEmpty_map, Option.isSome_map, tableOptions_map, Doc.effect_append,
        Doc.effect_clause, hlist, hquery]
      simp [h.effect]

theorem keeps_createView {v : CreateView}
    (hparts : ∀ m ∈ (Node.statement (.createView v)).children, ρ.Keeps σ τ m) :
    ρ.Keeps σ τ (.statement (.createView v)) := by
  have hquery := (hparts _ List.mem_cons_self).doc rfl
  refine keeps_of_nodes rfl ?_
  simp only [Node.doc] at hquery ⊢
  cases hcolumns : v.columns.isEmpty <;>
    simp [statement, Statement.doc, Layout.createView, hquery, hcolumns, h.effect]

theorem keeps_alterTable {t : AlterTable}
    (hparts : ∀ m ∈ (Node.statement (.alterTable t)).children, ρ.Keeps σ τ m) :
    ρ.Keeps σ τ (.statement (.alterTable t)) := by
  have hactions : effects σ ((t.actions.map ρ.action).map (Layout.alterAction σ)) =
      effects τ (t.actions.map (Layout.alterAction τ)) := by
    rw [List.map_map]
    refine effects_map fun a ha => effect_action h fun n hn => hparts n ?_
    exact List.mem_flatMap.2 ⟨a, ha, hn⟩
  refine keeps_of_nodes rfl ?_
  simp only [Node.doc, statement, Statement.doc, Layout.alterTable,
    List.isEmpty_map, Doc.effect_append, Doc.effect_commas, hactions]
  simp [h.effect]

theorem keeps_attach {a : Attach}
    (hparts : ∀ m ∈ (Node.statement (.attach a)).children, ρ.Keeps σ τ m) :
    ρ.Keeps σ τ (.statement (.attach a)) := by
  have hfile := (hparts _ List.mem_cons_self).doc rfl
  refine keeps_of_nodes rfl ?_
  simp only [Node.doc] at hfile ⊢
  simp only [statement, Statement.doc, Layout.attach, h.dialect]
  split
  · simp [hfile, h.effect]
  · exact h.effect rfl

/-- Every statement is printed alike if its parts are. -/
theorem keeps_statement {s : Statement}
    (hparts : ∀ m ∈ (Node.statement s).children, ρ.Keeps σ τ m) :
    ρ.Keeps σ τ (.statement s) := by
  cases s with
  | query q =>
      have hq := (hparts _ List.mem_cons_self).doc rfl
      exact keeps_of_nodes rfl
        (by simpa only [Node.doc, statement, Statement.doc] using hq)
  | insert i => exact keeps_insert h hparts
  | update u => exact keeps_update h hparts
  | delete d => exact keeps_delete h hparts
  | createTable t => exact keeps_createTable h hparts
  | createView v => exact keeps_createView h hparts
  | alterTable t => exact keeps_alterTable h hparts
  | attach a => exact keeps_attach h hparts
  | createDatabase d =>
      exact keeps_of_nodes rfl (by
        simp [Node.doc, statement, Statement.doc, Layout.createDatabase, h.effect])
  | createIndex i =>
      exact keeps_of_nodes rfl (by
        simp [Node.doc, statement, Statement.doc, Layout.createIndex, h.effect])
  | drop d =>
      have htable : effect? σ (d.table.map ObjectName.doc) =
          effect? τ (d.table.map ObjectName.doc) := by
        cases d.table <;> simp [h.effect]
      exact keeps_of_nodes rfl (by
        simp [Node.doc, statement, Statement.doc, Layout.drop, htable, h.effect])
  | list target =>
      refine keeps_of_nodes rfl ?_
      rcases target with (_ | _) | _ | _ | _ | _ <;>
        simp [Node.doc, statement, Statement.doc, Layout.list, h.effect]
  | analyze a =>
      exact keeps_of_nodes rfl (by
        simp [Node.doc, statement, Statement.doc, Layout.analyze, h.effect])

end SqlPrinter.Retouch
