/-
Every canonical statement is read back from its written form.  The nodes in it are
read by induction, each with as many levels of readers as its form is deep.
-/
import SqlPrinter.Proofs.Form.Node

namespace SqlPrinter

open Form

namespace Node

variable {r : Readers} {d : Nat}

/-! ## Parts of changes -/

theorem reads_assignment {a : Assignment}
    (h : ∀ m ∈ (assignment a).parts, m.Reads r d) : (assignment a).Reads r d := by
  obtain ⟨table, column, value, fromInserted⟩ := a
  have hvalue := h (expr value) List.mem_cons_self
  exact .record <|
    .seq (.withDefault rfl .flag) <|
    .seq (.required rfl hvalue) <|
    .seq (.required rfl .text) <|
    .map (.optional rfl fun _ _ => .text)

theorem reads_source {s : RowSource} (h : ∀ m ∈ ofSource s, m.Reads r d) :
    (Reader.tagged (RowSource.variants r)).Reads d s.toJson s := by
  cases s with
  | values rows =>
      rw [ofSource, forall_rows] at h
      rw [RowSource.toJson, Write.rows_eq]
      exact .tagged rfl <| .map (.required rfl (reads_rows h))
  | query q =>
      have hquery := h (query q) List.mem_cons_self
      exact .tagged rfl <| .map (.required rfl hquery)
  | assignments as =>
      rw [ofSource, List.forall_mem_map] at h
      exact .tagged rfl <| .map (.required rfl (.list h))

theorem reads_conflict {c : ConflictClause}
    (h : ∀ m ∈ conflict? (some c), m.Reads r d) :
    (Reader.record (ConflictClause.fields r)).Reads d c.toJson c := by
  obtain ⟨columns, constraint, action⟩ := c
  have haction : ∀ a ∈ action,
      (Reader.tagged (ConflictAction.variants r)).Reads d a.toJson a := by
    rintro (_ | ⟨as, condition⟩) ha
    · exact .tagged rfl .pure
    · obtain rfl := Option.mem_def.1 ha
      simp only [conflict?, List.forall_mem_append, List.forall_mem_map,
        forall_expr?] at h
      exact .tagged rfl <| .seq (.optional rfl h.2) <|
        .map (.required rfl (.list h.1))
  exact .record <|
    .seq (.optional rfl haction) <|
    .seq (.optional rfl fun _ _ => .text) <|
    .map (.withDefault rfl .texts)

/-! ## Parts of tables -/

theorem reads_columnOptions {o : ColumnOptions}
    (hdefault : ∀ e ∈ o.default, (expr e).Reads r d)
    (honUpdate : ∀ e ∈ o.onUpdate, (expr e).Reads r d)
    (hcheck : ∀ e ∈ o.check, (expr e).Reads r d) :
    (Reader.record (ColumnOptions.fields r)).Reads d o.toJson o := by
  obtain ⟨nullable, default, onUpdate, autoIncrement, unique, primaryKey, comment,
    characterSet, collate, check, references⟩ := o
  exact .record <|
    .seq (.optional rfl fun reference _ => reference.reads) <|
    .seq (.optional rfl hcheck) <|
    .seq (.optional rfl fun _ _ => .text) <|
    .seq (.optional rfl fun _ _ => .text) <|
    .seq (.optional rfl fun _ _ => .text) <|
    .seq (.withDefault rfl .flag) <|
    .seq (.withDefault rfl .flag) <|
    .seq (.withDefault rfl .flag) <|
    .seq (.optional rfl honUpdate) <|
    .seq (.optional rfl hdefault) <|
    .map (.optional rfl fun _ _ => .flag)

theorem reads_columnDef {c : ColumnDef}
    (h : ∀ m ∈ (columnDef c).parts, m.Reads r d) : (columnDef c).Reads r d := by
  obtain ⟨name, dataType, options⟩ := c
  simp only [parts, castTarget, children, List.append_nil, List.forall_mem_append,
    List.forall_mem_map, Option.mem_toList, forall_expr?] at h
  obtain ⟨⟨⟨htype, hdefault⟩, honUpdate⟩, hcheck⟩ := h
  exact
    .seq (.withDefault rfl (reads_columnOptions hdefault honUpdate hcheck)) <|
    .seq (.optional rfl htype) <|
    .map (.required rfl .text)

theorem reads_constraint {c : TableConstraint}
    (h : ∀ m ∈ (constraint c).parts, m.Reads r d) : (constraint c).Reads r d := by
  cases c with
  | primaryKey constraint columns method =>
      exact .tagged rfl <|
        .seq (.optional rfl fun method _ => .word (by cases method <;> rfl)) <|
        .seq (.required rfl (.list fun column _ => column.reads)) <|
        .map (.optional rfl fun _ _ => .text)
  | unique constraint keyword name columns method =>
      exact .tagged rfl <|
        .seq (.optional rfl fun method _ => .word (by cases method <;> rfl)) <|
        .seq (.required rfl (.list fun column _ => column.reads)) <|
        .seq (.optional rfl fun _ _ => .text) <|
        .seq (.optional rfl fun keyword _ => .word (by cases keyword <;> rfl)) <|
        .map (.optional rfl fun _ _ => .text)
  | foreignKey constraint columns references =>
      exact .tagged rfl <|
        .seq (.required rfl references.reads) <|
        .seq (.required rfl .texts) <|
        .map (.optional rfl fun _ _ => .text)
  | check constraint condition =>
      have hcondition := h (expr condition) List.mem_cons_self
      exact .tagged rfl <| .seq (.required rfl hcondition) <|
        .map (.optional rfl fun _ _ => .text)

theorem reads_element {e : TableElement} (h : (ofElement e).Reads r d) :
    (TableElement.read r).Reads d e.toJson e := by
  cases e with
  | column c => exact .tagged rfl <| .map h
  | constraint c => exact .tagged rfl <| .map (.required rfl h)
  | index i => exact .tagged rfl <| .map h

theorem reads_action {a : AlterAction} (h : ∀ m ∈ ofAction a, m.Reads r d) :
    (Reader.tagged (AlterAction.variants r)).Reads d a.toJson a := by
  cases a with
  | addColumn columnKeyword column | modifyColumn columnKeyword column =>
      have hcolumn := h (columnDef column) List.mem_cons_self
      exact .tagged rfl <| .seq (.required rfl (.record hcolumn)) <|
        .map (.withDefault rfl .flag)
  | dropColumn columnKeyword name =>
      exact .tagged rfl <| .seq (.required rfl .text) <|
        .map (.withDefault rfl .flag)
  | changeColumn columnKeyword oldName column =>
      have hcolumn := h (columnDef column) List.mem_cons_self
      exact .tagged rfl <|
        .seq (.required rfl (.record hcolumn)) <|
        .seq (.required rfl .text) <|
        .map (.withDefault rfl .flag)
  | renameColumn oldName newName =>
      exact .tagged rfl <| .seq (.required rfl .text) <| .map (.required rfl .text)
  | addConstraint c =>
      have hconstraint := h (constraint c) List.mem_cons_self
      exact .tagged rfl <| .map (.required rfl hconstraint)
  | addIndex i => exact .tagged rfl <| .map (.required rfl (.record i.reads))
  | dropIndex name => exact .tagged rfl <| .map (.required rfl .text)
  | dropPrimaryKey => exact .tagged rfl .pure
  | renameTable newName => exact .tagged rfl <| .map (.required rfl newName.reads)
  | setOption option => exact .tagged rfl <| .map (.required rfl option.reads)

/-! ## Statements -/

theorem reads_insert {i : Insert} (h : ∀ m ∈ ofStatement (.insert i), m.Reads r d) :
    (Insert.fields r).Reads d i.entries i := by
  obtain ⟨replace, ignore, into, table, columns, source, conflict, returning⟩ := i
  simp only [ofStatement, List.forall_mem_cons, List.forall_mem_append,
    List.forall_mem_map] at h
  obtain ⟨htable, ⟨hsource, hconflict⟩, hreturning⟩ := h
  have hclause :
      ∀ c ∈ conflict, (Reader.record (ConflictClause.fields r)).Reads d
        c.toJson c := by
    intro c hc
    obtain rfl := Option.mem_def.1 hc
    exact reads_conflict hconflict
  rw [Insert.entries, Write.selectItems_eq]
  exact
    .seq (.withDefault rfl (.list hreturning)) <|
    .seq (.optional rfl hclause) <|
    .seq (.required rfl (reads_source hsource)) <|
    .seq (.withDefault rfl .texts) <|
    .seq (.required rfl htable) <|
    .seq (.withDefault rfl .flag) <|
    .seq (.withDefault rfl .flag) <|
    .map (.withDefault rfl .flag)

theorem reads_update {u : Update} (h : ∀ m ∈ ofStatement (.update u), m.Reads r d) :
    (Update.fields r).Reads d u.entries u := by
  obtain ⟨ctes, fallback, table, joins, assignments, tables, condition,
    orderBy, limit, returning⟩ := u
  simp only [ofStatement, List.forall_mem_cons, List.forall_mem_append,
    List.forall_mem_map, forall_with?, forall_expr?] at h
  obtain ⟨hctes, htable,
    ⟨⟨⟨⟨⟨hjoins, hassignments⟩, htables⟩, hcondition⟩, horderBy⟩, hlimit⟩,
    hreturning⟩ := h
  simp only [Update.entries, Write.with?_eq, Write.joinList_eq, Write.tableRefs_eq,
    Write.expr?_eq, Write.orderItems_eq, Write.selectItems_eq]
  exact
    .seq (.withDefault rfl (.list hreturning)) <|
    .seq (.optional rfl hlimit) <|
    .seq (.withDefault rfl (.list horderBy)) <|
    .seq (.optional rfl hcondition) <|
    .seq (.withDefault rfl (.list htables)) <|
    .seq (.required rfl (.list hassignments)) <|
    .seq (.withDefault rfl (.list hjoins)) <|
    .seq (.required rfl htable) <|
    .seq (.optional rfl fun fallback _ => .word (by cases fallback <;> rfl)) <|
    .map (.optional rfl fun a ha => reads_with (hctes a ha))

theorem reads_delete {u : Delete} (h : ∀ m ∈ ofStatement (.delete u), m.Reads r d) :
    (Delete.fields r).Reads d u.entries u := by
  obtain ⟨ctes, targets, tables, joins, usingTables, condition, orderBy, limit,
    returning⟩ := u
  simp only [ofStatement, List.forall_mem_append, List.forall_mem_map, forall_with?,
    forall_expr?] at h
  obtain ⟨⟨⟨⟨⟨⟨⟨hctes, htables⟩, hjoins⟩, husing⟩, hcondition⟩, horderBy⟩, hlimit⟩,
    hreturning⟩ := h
  simp only [Delete.entries, Write.with?_eq, Write.joinList_eq, Write.tableRefs_eq,
    Write.expr?_eq, Write.orderItems_eq, Write.selectItems_eq]
  exact
    .seq (.withDefault rfl (.list hreturning)) <|
    .seq (.optional rfl hlimit) <|
    .seq (.withDefault rfl (.list horderBy)) <|
    .seq (.optional rfl hcondition) <|
    .seq (.withDefault rfl (.list husing)) <|
    .seq (.withDefault rfl (.list hjoins)) <|
    .seq (.required rfl (.list htables)) <|
    .seq (.withDefault rfl .texts) <|
    .map (.optional rfl fun a ha => reads_with (hctes a ha))

theorem reads_createTable {t : CreateTable}
    (h : ∀ m ∈ ofStatement (.createTable t), m.Reads r d) :
    (CreateTable.fields r).Reads d t.entries t := by
  obtain ⟨temporary, ifNotExists, name, elements, options, q, like⟩ := t
  simp only [ofStatement, List.forall_mem_append, List.forall_mem_map,
    Option.mem_toList] at h
  obtain ⟨helements, hquery⟩ := h
  exact
    .seq (.optional rfl fun name _ => name.reads) <|
    .seq (.optional rfl hquery) <|
    .seq (.withDefault rfl (.list fun option _ => option.reads)) <|
    .seq (.withDefault rfl (.list fun e he => reads_element (helements e he))) <|
    .seq (.required rfl name.reads) <|
    .seq (.withDefault rfl .flag) <|
    .map (.withDefault rfl .flag)

theorem reads_createView {v : CreateView}
    (h : ∀ m ∈ ofStatement (.createView v), m.Reads r d) :
    (CreateView.fields r).Reads d v.entries v := by
  obtain ⟨orReplace, name, columns, q⟩ := v
  have hquery := h (query q) List.mem_cons_self
  exact
    .seq (.required rfl hquery) <|
    .seq (.withDefault rfl .texts) <|
    .seq (.required rfl name.reads) <|
    .map (.withDefault rfl .flag)

theorem reads_alterTable {t : AlterTable}
    (h : ∀ m ∈ ofStatement (.alterTable t), m.Reads r d) :
    (AlterTable.fields r).Reads d t.entries t := by
  obtain ⟨name, actions⟩ := t
  rw [ofStatement, List.forall_mem_flatMap] at h
  exact
    .seq (.required rfl (.list fun a ha => reads_action (h a ha))) <|
    .map (.required rfl name.reads)

theorem reads_attach {a : Attach} (h : ∀ m ∈ ofStatement (.attach a), m.Reads r d) :
    (Attach.fields r).Reads d a.entries a := by
  obtain ⟨file, schema⟩ := a
  have hfile := h (expr file) List.mem_cons_self
  exact .seq (.required rfl .text) <| .map (.required rfl hfile)

/-- A query that is a whole statement has its parts read at the level of the
statement. -/
theorem reads_statement {s : Statement} (h : ∀ m ∈ (statement s).parts, m.Reads r d)
    (hquery : ∀ q, s = .query q → ∀ m ∈ (query q).parts, m.Reads r d) :
    (statement s).Reads r d := by
  replace h : ∀ m ∈ ofStatement s, m.Reads r d :=
    fun m hm => h m (List.mem_append_left _ hm)
  cases s with
  | query q => exact .tagged rfl <| .map (reads_queryFields (hquery q rfl))
  | insert i => exact .tagged rfl <| .map (reads_insert h)
  | update u => exact .tagged rfl <| .map (reads_update h)
  | delete u => exact .tagged rfl <| .map (reads_delete h)
  | createTable t => exact .tagged rfl <| .map (reads_createTable h)
  | createDatabase database => exact .tagged rfl <| .map database.reads
  | createView v => exact .tagged rfl <| .map (reads_createView h)
  | createIndex i => exact .tagged rfl <| .map i.reads
  | alterTable t => exact .tagged rfl <| .map (reads_alterTable h)
  | drop drop => exact .tagged rfl <| .map drop.reads
  | list target => exact .tagged rfl <| .map target.reads
  | analyze a => exact .tagged rfl <| .map a.reads
  | attach a => exact .tagged rfl <| .map (reads_attach h)

/-! ## All nodes -/

/-- As many levels of readers as the form of a node is deep are enough. -/
theorem reads_upTo {n : Node} (hpart : n.isPart) (h : n.IsCanonical) (d : Nat) :
    n.Reads (.upTo d) d := by
  induction n using Walk.whole.induction generalizing d with
  | step n ih =>
      obtain ⟨hop, hparts⟩ := isCanonical_iff.1 h
      have hreads : ∀ d, ∀ m ∈ n.parts, m.Reads (.upTo d) d := fun d m hm =>
        ih m hm (isPart_of_mem_parts hm) (hparts m hm) d
      cases n with
      -- the form of one of these is deeper than the forms of its parts
      | expr e =>
          cases d with
          | zero => exact .of_lt_depth (by cases e <;> exact Nat.succ_pos _)
          | succ d => exact reads_expr hop (hreads d)
      | table t =>
          cases d with
          | zero => exact .of_lt_depth (by cases t <;> exact Nat.succ_pos _)
          | succ d => exact reads_table (hreads d)
      | body b =>
          cases d with
          | zero => exact .of_lt_depth (by cases b <;> exact Nat.succ_pos _)
          | succ d => exact reads_body (hreads d)
      | query q =>
          cases d with
          | zero => exact .of_lt_depth (Nat.succ_pos _)
          | succ d => exact reads_query (hreads d)
      | call c => exact reads_call (hreads d)
      | aggregate a => exact reads_aggregate (hreads d)
      | dataType t => exact reads_dataType (hreads d)
      | cast c => exact reads_cast (hreads d)
      | extract x => exact reads_extract (hreads d)
      | anyValue a => exact reads_anyValue (hreads d)
      | window w => exact reads_window (hreads d)
      | bound b => exact reads_bound (hreads d)
      | sortKey k => exact reads_sortKey (hreads d)
      | select s => exact reads_select (hreads d)
      | item i => exact reads_item (hreads d)
      | modifier m => exact reads_modifier (hreads d)
      | join j => exact reads_join (hreads d)
      | cte c => exact reads_cte (hreads d)
      | assignment a => exact reads_assignment (hreads d)
      | columnDef c => exact reads_columnDef (hreads d)
      | constraint c => exact reads_constraint (hreads d)
      | index i => exact i.reads
      | statement s => contradiction

theorem reads_parts {n : Node} (h : n.IsCanonical) (d : Nat) :
    ∀ m ∈ n.parts, m.Reads (.upTo d) d := fun m hm =>
  reads_upTo (isPart_of_mem_parts hm) ((isCanonical_iff.1 h).2 m hm) d

end Node

/-! ## What is written is read back -/

theorem Expr.ofJson_toJson {e : Expr} (h : (Node.expr e).IsCanonical) :
    ofJson e.toJson = .ok e :=
  (Node.reads_upTo rfl h e.toJson.depth).eq_ok (Nat.le_refl _) false

theorem Query.ofJson_toJson {q : Query} (h : (Node.query q).IsCanonical) :
    ofJson q.toJson = .ok q :=
  (Node.reads_upTo rfl h q.toJson.depth).eq_ok (Nat.le_refl _) false

theorem Statement.ofJson_toJson {s : Statement}
    (h : (Node.statement s).IsCanonical) : ofJson s.toJson = .ok s := by
  refine (Node.reads_statement (Node.reads_parts h _) ?_).eq_ok
    (Nat.le_refl _) false
  rintro q rfl
  have hquery := (Node.isCanonical_iff.1 h).2 (.query q) List.mem_cons_self
  exact Node.reads_parts hquery _

theorem Dialect.ofJson_toJson (dialect : Dialect) (inVariant : Bool) :
    read inVariant dialect.toJson = .ok dialect :=
  (reads dialect).eq_ok (Nat.le_refl _) inVariant

end SqlPrinter
