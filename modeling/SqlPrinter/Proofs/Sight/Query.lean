/-
The names and the points at which printing has to stop in the layout of a part of a
query, against those in the layouts of the parts that are shown.  The name of a
table that rows go to is the only one for which a node does not ask itself.
-/
import SqlPrinter.Proofs.Count.Query
import SqlPrinter.Proofs.Sight

namespace SqlPrinter

variable (v : Sight) (settings : Settings)

/-! ## Leaves -/

@[simp] theorem ColumnRef.shows_doc (ref : ColumnRef) :
    ref.doc.Shows v ↔ ref.column = "" ∧ v.fault ∨
      (∃ s, Text.nonEmpty ref.schema = some s ∧ v.name s) ∨
      (∃ s, Text.nonEmpty ref.table = some s ∧ v.name s) ∨ v.name ref.column := by
  simp [doc, or_and_right, exists_or]

@[simp] theorem ObjectName.shows_doc (object : ObjectName) :
    object.doc.Shows v ↔ object.name = "" ∧ v.fault ∨
      (∃ s, Text.nonEmpty object.schema = some s ∧ v.name s) ∨
      v.name object.name := by
  simp [doc, or_and_right, exists_or]

@[simp] theorem KeywordValue.shows_doc (kv : KeywordValue) : ¬ kv.doc.Shows v :=
  Doc.shows_verbatim v _

@[simp] theorem shows_charsetDoc (charset : Option String) :
    ¬ (charsetDoc charset).Shows v := by
  unfold charsetDoc
  split <;> simp

@[simp] theorem Literal.shows_doc (value : Literal) :
    (value.doc settings).Shows v ↔ value = .number "" ∧ v.fault := by
  cases value with
  | hex digits form charset =>
      simp only [doc, Doc.shows_append, shows_charsetDoc]
      split <;> simp
  | bit digits form charset =>
      simp only [doc, Doc.shows_append, shows_charsetDoc]
      cases form <;> simp
  | _ => simp [doc]

@[simp] theorem Parameter.shows_doc (p : Parameter) : ¬ p.doc.Shows v := by
  cases p <;> simp [doc]

@[simp] theorem BinaryOp.shows_doc (op : BinaryOp) : ¬ op.doc.Shows v := by
  cases op <;> simp [doc]

@[simp] theorem ArrayDim.shows_doc (dims : ArrayDim) : ¬ dims.doc.Shows v := by
  cases dims <;> simp [doc]

@[simp] theorem Direction.shows_doc? (d : Option Direction) :
    ¬ (doc? d).Shows v := by
  rcases d with _ | _ | _ <;> simp [doc?]

@[simp] theorem NullsOrder.shows_doc? (n : Option NullsOrder) :
    ¬ (doc? n).Shows v := by
  rcases n with _ | _ | _ <;> simp [doc?]

@[simp] theorem Materialization.shows_doc? (m : Option Materialization) :
    ¬ (doc? m).Shows v := by
  rcases m with _ | _ | _ <;> simp [doc?]

theorem Locking.shows_blank_doc (lock : Locking) :
    lock.doc.Shows .blank ↔ lock.doc.Shows .stop := by
  have hdetails : lock.details.Shows .blank ↔ lock.details.Shows .stop := by
    unfold details
    split <;> split <;> simp
  unfold doc
  split <;> simp [hdetails]

/-! ## Clauses -/

namespace Layout

@[simp] theorem shows_orderItem (key : Doc) (direction : Option Direction)
    (nulls : Option NullsOrder) :
    (orderItem settings key direction nulls).Shows v ↔ key.Shows v := by
  unfold orderItem
  dsimp only
  split <;> simp

@[simp] theorem shows_orderBy (keys : List Doc) :
    (orderBy keys).Shows v ↔ Doc.ShowsSome v keys := by
  cases keys <;> simp [orderBy]

@[simp] theorem shows_limit (count offset : Option Doc) :
    (limit settings count offset).Shows v ↔
      Doc.ShowsSome v count.toList ∨ Doc.ShowsSome v offset.toList := by
  unfold limit
  split
  · simp [or_comm]
  · simp

theorem shows_groupBy (keys : List Doc) (modifiers : List GroupModifier)
    (sets : Option Doc) : (groupBy settings keys modifiers sets).Shows v ↔
      match sets with
      | some sets => sets.Shows v
      | none => Doc.ShowsSome v keys := by
  cases sets with
  | some sets => simp [groupBy]
  | none =>
      cases keys with
      | nil => simp [groupBy]
      | cons key keys =>
          simp only [groupBy, List.isEmpty_cons, Bool.false_eq_true, if_false]
          repeat' split
          all_goals simp

@[simp] theorem shows_tables (ds js : List Doc) :
    (tables ds js).Shows v ↔ Doc.ShowsSome v ds ∨ Doc.ShowsSome v js := by
  simp [tables, Doc.showsSome_map]

theorem shows_joinCondition (kind : JoinKind) (condition : Option Doc)
    (columns : Option (List String)) :
    (joinCondition kind condition columns).Shows v ↔
      kind.takesCondition = true ∧
        match condition, columns with
        | some condition, _ => condition.Shows v
        | none, some columns => (Doc.names "join" "using" columns).Shows v
        | none, none => False := by
  unfold joinCondition
  cases kind.takesCondition <;> cases condition <;> cases columns <;> simp

@[simp] theorem shows_valueRow (values : List Doc) :
    (valueRow values).Shows v ↔ Doc.ShowsSome v values := by
  simp [valueRow]

@[simp] theorem shows_returning (items : List Doc) :
    (returning items).Shows v ↔ Doc.ShowsSome v items := by
  cases items <;> simp [returning]

@[simp] theorem shows_callHead (name : String) (separator : Option String)
    (argsParentheses : Bool) (args : List Doc) :
    (callHead name separator argsParentheses args).Shows v ↔
      Doc.ShowsSome v args := by
  have hseparator : ¬ (argSeparator name separator).Shows v := by
    unfold argSeparator
    repeat' split
    all_goals simp
  have hargs := Doc.shows_joined v hseparator args
  cases argsParentheses <;> simp [callHead, hargs]

theorem shows_call (name : String) (args : Option (List Doc))
    (argsParentheses : Bool) (separator : Option String) (parentheses : Bool)
    (window : Doc) (collate : Option KeywordValue) (suffix : Doc) :
    (call name args argsParentheses separator parentheses window collate
        suffix).Shows v ↔
      name = "" ∧ v.fault ∨
        (match args with
        | none => False
        | some args => Doc.ShowsSome v args ∨ suffix.Shows v) ∨ window.Shows v := by
  cases args with
  | none => simp [call]
  | some args =>
      have hcollate : ¬ Doc.ShowsSome v (collate.map KeywordValue.doc).toList := by
        cases collate <;> simp
      have hhead := shows_callHead v name separator argsParentheses args
      cases parentheses with
      | true =>
          change Doc.Shows v (_ ++ .fragments " "
            [.parens (.fragments " " [callHead name separator argsParentheses args,
              suffix]), _, _]) ↔ _
          simp [hhead, hcollate]
      | false =>
          change Doc.Shows v (_ ++ .fragments " "
            [.fragments " " [callHead name separator argsParentheses args, suffix],
              _, _]) ↔ _
          simp [hhead, hcollate]

@[simp] theorem shows_typeName (type : DataType) : ¬ (typeName type).Shows v := by
  unfold typeName
  split <;> simp

@[simp] theorem shows_typeArray (type : DataType) : ¬ (typeArray type).Shows v := by
  unfold typeArray
  cases type.array <;> simp

@[simp] theorem shows_castType (type : DataType) : ¬ (castType type).Shows v := by
  have hsize : ¬ (castSize type).Shows v := by
    unfold castSize
    dsimp only
    repeat' split
    all_goals simp
  simp [castType, hsize]

theorem shows_dataType (type : DataType) (values : List Doc) :
    (dataType type values).Shows v ↔ type.name = "" ∧ v.fault ∨
      Doc.ShowsSome v values := by
  have hsize : (typeSize type values).Shows v ↔ Doc.ShowsSome v values := by
    cases values with
    | nil =>
        simp only [typeSize, List.isEmpty_nil]
        repeat' split
        all_goals first | contradiction | simp
    | cons value values => simp [typeSize]
  change Doc.Shows v (_ ++ .fragments " " [_ ++ typeSize type values ++ _, _]) ↔ _
  simp [hsize]

theorem shows_cast (subject : Doc) (target : DataType) (form : CastForm)
    (keyword : Option String) (tail : Doc) (rename : Option String)
    (collate : Option KeywordValue) :
    (cast subject target form keyword tail rename collate).Shows v ↔
      (target.name = "" ∨ form = .keyword ∧ keyword.getD "" = "") ∧ v.fault ∨
        subject.Shows v ∨ tail.Shows v ∨ ∃ s, Text.nonEmpty rename = some s ∧
          v.name s := by
  have hcollate : ¬ Doc.ShowsSome v (collate.map KeywordValue.doc).toList := by
    cases collate <;> simp
  cases form <;> simp [cast, hcollate] <;> tauto

theorem shows_extract (name field : String) (castType : Option String)
    (source : Doc) : (extract name field castType source).Shows v ↔
      (name = "" ∨ field = "") ∧ v.fault ∨ source.Shows v := by
  have htype : ¬ Doc.ShowsSome v (castType.map Doc.word).toList := by
    cases castType <;> simp
  simp [extract, htype]
  tauto

end Layout

/-! ## Nodes -/

namespace Node

/-- What is looked for is in the layout of one of some nodes. -/
def ShowsSome (ns : List Node) : Prop :=
  Doc.ShowsSome v (ns.map (doc settings))

/-- A node that prints an empty name without asking for a name: the table that the
rows of a query go to, or the database whose tables are listed. -/
def IsNameless : Node → Prop
  | select s => ∃ position, s.into = some ⟨position, .table ""⟩
  | statement s => s = .list (.tables (some ""))
  | _ => False

/-- If printing does not have to stop in a node, it does not in the parts that are
shown, and the empty names in it are those of the node itself and of these parts. -/
def IsRead (n : Node) : Prop :=
  ¬ (n.doc settings).Shows .stop →
    ¬ ShowsSome .stop settings n.shown ∧
      ((n.doc settings).Shows .blank ↔
        n.IsNameless ∨ ShowsSome .blank settings n.shown)

/-! ### Lists of parts -/

@[simp] theorem showsSome_nil : ¬ ShowsSome v settings [] :=
  Doc.showsSome_nil v

@[simp] theorem showsSome_cons (n : Node) (ns : List Node) :
    ShowsSome v settings (n :: ns) ↔ (n.doc settings).Shows v ∨
      ShowsSome v settings ns :=
  Doc.showsSome_cons v _ _

@[simp] theorem showsSome_append (ms ns : List Node) :
    ShowsSome v settings (ms ++ ns) ↔ ShowsSome v settings ms ∨
      ShowsSome v settings ns := by
  simp [ShowsSome]

/-- The layouts of a list of parts, given the layout of each. -/
theorem showsSome_list {α : Type} {g : α → Node} {L : List α → List Doc}
    (hnil : L [] = []) (hcons : ∀ a as, L (a :: as) = (g a).doc settings :: L as)
    (as : List α) : Doc.ShowsSome v (L as) ↔ ShowsSome v settings (as.map g) := by
  induction as with
  | nil => simp [hnil]
  | cons a as ih => simp [hcons, ih]

@[simp] theorem showsSome_exprs (es : List Expr) :
    Doc.ShowsSome v (Layout.exprs settings es) ↔ ShowsSome v settings (exprs es) :=
  showsSome_list v settings rfl (fun _ _ => rfl) es

@[simp] theorem showsSome_expr? (e : Option Expr) :
    Doc.ShowsSome v (Layout.expr? settings e).toList ↔
      ShowsSome v settings (expr? e) := by
  cases e <;> rfl

/-- Rows of expressions, each laid out in one way. -/
theorem showsSome_rows {g : List Doc → Doc}
    (hg : ∀ ds, (g ds).Shows v ↔ Doc.ShowsSome v ds) (rs : List (List Expr)) :
    Doc.ShowsSome v ((Layout.rows settings rs).map g) ↔
      ShowsSome v settings (exprs rs.flatten) := by
  induction rs with
  | nil => rfl
  | cons r rs ih =>
      have hflatten : exprs (r :: rs).flatten = exprs r ++ exprs rs.flatten := by
        simp [exprs]
      rw [hflatten]
      simp [Layout.rows, hg, ih]

@[simp] theorem showsSome_caseBranches (bs : List (Expr × Expr)) :
    Doc.ShowsSome v (Layout.caseBranches settings bs) ↔
      ShowsSome v settings (branches bs) := by
  induction bs with
  | nil => rfl
  | cons b bs ih =>
      simp only [branches] at ih
      simp [Layout.caseBranches, branches, ih, doc, or_assoc]

@[simp] theorem showsSome_orderItems (ks : List OrderItem) :
    Doc.ShowsSome v (Layout.orderItems settings ks) ↔
      ShowsSome v settings (ks.map sortKey) :=
  showsSome_list v settings rfl (fun k _ => by cases k; rfl) ks

@[simp] theorem showsSome_selectItems (is : List SelectItem) :
    Doc.ShowsSome v (Layout.selectItems settings is) ↔
      ShowsSome v settings (is.map item) :=
  showsSome_list v settings rfl (fun _ _ => rfl) is

@[simp] theorem showsSome_tableRefs (ts : List TableRef) :
    Doc.ShowsSome v (Layout.tableRefs settings ts) ↔
      ShowsSome v settings (ts.map table) :=
  showsSome_list v settings rfl (fun _ _ => rfl) ts

@[simp] theorem showsSome_joinDocs (js : List Join) :
    Doc.ShowsSome v (Layout.joinDocs settings js) ↔
      ShowsSome v settings (js.map join) :=
  showsSome_list v settings rfl (fun j _ => by cases j; rfl) js

@[simp] theorem showsSome_cteDocs (cs : List Cte) :
    Doc.ShowsSome v (Layout.cteDocs settings cs) ↔
      ShowsSome v settings (cs.map cte) :=
  showsSome_list v settings rfl (fun c _ => by cases c; rfl) cs

theorem showsSome_namedWindows (ws : List NamedWindow) :
    Doc.ShowsSome v (Layout.namedWindows settings ws) ↔
      (∃ w ∈ ws, w.name = "") ∧ v.fault ∨
        ShowsSome v settings (ws.map (window ·.window)) := by
  induction ws with
  | nil => simp [Layout.namedWindows]
  | cons w ws ih =>
      have hcons : Layout.namedWindows settings (w :: ws) =
          Layout.windowDoc settings w :: Layout.namedWindows settings ws := by
        cases w
        rfl
      have hnames :
          (∃ k ∈ w :: ws, k.name = "") ↔ w.name = "" ∨ ∃ k ∈ ws, k.name = "" := by
        simp
      rw [hcons, Doc.showsSome_cons, ih, hnames, List.map_cons, showsSome_cons]
      simp only [Layout.windowDoc, doc, Doc.shows_append, Doc.shows_requireText,
        Doc.shows_isolated, Doc.shows_verbatim, Doc.shows_text, Doc.shows_parens,
        false_or]
      by_cases hfault : v.fault <;> simp [hfault, or_assoc, or_left_comm]

@[simp] theorem shows_overDoc (o : Option Over) :
    (Layout.overDoc settings o).Shows v ↔
      o = some (.named "") ∧ v.fault ∨ ShowsSome v settings (over? o) := by
  rcases o with _ | _ | w <;> simp [Layout.overDoc, Layout.overClause, over?, doc]

@[simp] theorem shows_windowFrame (o : Option WindowFrame) :
    (Layout.windowFrame settings o).Shows v ↔ ShowsSome v settings (frame? o) := by
  rcases o with _ | ⟨units, first, _ | last⟩ <;>
    simp [Layout.windowFrame, frame?, doc]

@[simp] theorem shows_withDoc (o : Option With) :
    (Layout.withDoc settings o).Shows v ↔
      (∃ recursive, o = some ⟨recursive, []⟩) ∧ v.fault ∨
        ShowsSome v settings (with? o) := by
  rcases o with _ | ⟨recursive, ctes⟩ <;> simp [Layout.withDoc, with?]

/-- The INTO clause is printed at one of its three places. -/
theorem shows_intoAt (o : Option SelectInto) :
    ((Layout.intoAt settings .afterColumns o).Shows v ∨
      (Layout.intoAt settings .beforeLock o).Shows v ∨
        (Layout.intoAt settings .atEnd o).Shows v) ↔
      (∃ position, o = some ⟨position, .vars []⟩) ∧ v.fault ∨
        (∃ position name, o = some ⟨position, .table name⟩ ∧ v.name name) ∨
        ShowsSome v settings (into? o) := by
  rcases o with _ | ⟨position, target⟩
  · simp [Layout.intoAt, into?]
  · cases target with
    | outfile file charset =>
        cases position <;> cases hc : Text.nonEmpty charset <;>
          simp [Layout.intoAt, Layout.intoTarget, into?, hc]
    | _ => cases position <;> simp [Layout.intoAt, Layout.intoTarget, into?]

theorem shows_keySets (sets : List (List Expr)) :
    (Layout.keySets settings sets).Shows v ↔
      ShowsSome v settings (exprs sets.flatten) := by
  rw [Layout.keySets, Doc.shows_commas]
  exact showsSome_rows v settings (by simp) sets

/-- Modifiers without sets of keys have no layout. -/
theorem not_showsSome_modifiers {ms : List GroupModifier}
    (h : setsModifier? ms = none) : ¬ ShowsSome v settings (ms.map modifier) := by
  induction ms with
  | nil => simp
  | cons m ms ih =>
      cases m with
      | groupingSets sets => contradiction
      | rollup => simpa [doc] using ih h
      | cube => simpa [doc] using ih h

theorem shows_groups (s : Select) :
    (Layout.groupBy settings (Layout.exprs settings s.groupBy) s.groupModifiers
      (Layout.groupingSets settings s.groupModifiers)).Shows v ↔
        ShowsSome v settings (shownGroups s) := by
  rw [Layout.shows_groupBy, groupingSets_eq, shownGroups]
  cases hsets : setsModifier? s.groupModifiers with
  | some m => simp
  | none =>
      cases s.groupBy with
      | nil => simp [Layout.exprs]
      | cons e es => simp [not_showsSome_modifiers v settings hsets]

/-! ### Kinds of nodes -/

theorem expr_isRead (e : Expr) : (expr e).IsRead settings := by
  intro h
  cases e with
  | fullText columns against mode =>
      have hmode (v : Sight) :
          ¬ Doc.ShowsSome v ((Text.nonEmpty mode).map Doc.word).toList := by
        cases Text.nonEmpty mode <;> simp
      have hcolumns (v : Sight) (hv : v = .blank ∨ v = .stop) :
          Doc.ShowsSome v (columns.map ColumnRef.doc) ↔
            ∃ ref ∈ columns, ref.column = "" := by
        rcases hv with rfl | rfl <;> simp [Doc.ShowsSome]
      simp_all [doc, Layout.expr, shown, ofExpr, IsNameless]
  | star table =>
      simp only [doc, shown, children, ofExpr, Layout.expr, IsNameless]
      cases htable : Text.nonEmpty table with
      | none => simp
      | some name => simp [Text.ne_empty_of_nonEmpty htable]
  | _ => simp_all [doc, Layout.expr, shown, ofExpr, IsNameless, or_assoc]

theorem call_isRead (c : FunctionCall) : (call c).IsRead settings := by
  rcases c with ⟨name, args, argsParentheses, separator, parentheses, window,
    collate, suffix⟩
  intro h
  cases args <;>
    simp_all [doc, Layout.functionCall, Layout.shows_call, shown, IsNameless,
      Layout.exprs?, exprs, or_assoc]

theorem aggregate_isRead (a : Aggregate) : (aggregate a).IsRead settings := by
  rcases a with ⟨name, distinct, args, orderBy, separator, filter, window⟩
  intro h
  cases filter <;>
    simp_all [doc, Layout.aggregate, Layout.expr?, expr?, exprs, shown, IsNameless,
      or_assoc]

theorem dataType_isRead (type : DataType) : (dataType type).IsRead settings := by
  cases type
  intro h
  simp_all [doc, Layout.typeDoc, Layout.shows_dataType, shown, IsNameless]

theorem cast_isRead (c : Cast) : (cast c).IsRead settings := by
  rcases c with ⟨subject, target, form, keyword, tail, rename, collate⟩
  intro h
  rcases tail with _ | ⟨operator, operand⟩ <;>
    simp_all [doc, Layout.castExpr, Layout.shows_cast, Layout.castTailDoc,
      Layout.castTail, exprs, shown, IsNameless]

theorem extract_isRead (x : Extract) : (extract x).IsRead settings := by
  cases x
  intro h
  simp_all [doc, Layout.extractCall, Layout.shows_extract, shown, IsNameless]

theorem anyValue_isRead (a : AnyValue) : (anyValue a).IsRead settings := by
  rcases a with ⟨name, subject, _ | ⟨bound, other⟩, window⟩ <;> intro h <;>
    simp_all [doc, Layout.anyValue, Layout.anyValueHaving, exprs, shown, IsNameless,
      or_assoc]

theorem window_isRead (w : WindowSpec) : (window w).IsRead settings := by
  rcases w with ⟨base, partitionBy, orderBy, frame⟩
  intro h
  have hbase (v : Sight) : ¬ Doc.ShowsSome v (base.map Doc.verbatim).toList := by
    cases base <;> simp
  cases partitionBy <;> cases orderBy <;>
    simp_all [doc, Layout.windowSpec, shown, IsNameless, exprs, or_assoc]

theorem bound_isRead (b : FrameBound) : (bound b).IsRead settings := by
  intro h
  cases b <;> simp_all [doc, Layout.frameBound, shown, IsNameless]

theorem sortKey_isRead (k : OrderItem) : (sortKey k).IsRead settings := by
  intro h
  simp_all [doc, shown, IsNameless]

theorem query_isRead (q : Query) : (query q).IsRead settings := by
  rcases q with ⟨ctes, body, orderBy, limit, offset⟩
  intro h
  simp_all [doc, Layout.queryDoc, shown, IsNameless, or_assoc]

theorem body_isRead (b : QueryBody) : (body b).IsRead settings := by
  intro h
  cases b <;> simp_all [doc, Layout.bodyDoc, shown, IsNameless]

theorem item_isRead (i : SelectItem) : (item i).IsRead settings := by
  intro h
  cases i <;> simp_all [doc, Layout.selectItem, shown, IsNameless]

theorem modifier_isRead (m : GroupModifier) : (modifier m).IsRead settings := by
  intro h
  cases m <;> simp_all [doc, shown, IsNameless, shows_keySets]

theorem table_isRead (r : TableRef) : (table r).IsRead settings := by
  intro h
  cases r with
  | values rows rowKeyword rename =>
      have hrows (v : Sight) :=
        showsSome_rows v settings (g := fun row => .textIf rowKeyword "ROW" ++
        Layout.valueRow row) (by simp) rows
      simp_all [doc, Layout.tableRef, shown, IsNameless]
  | _ => simp_all [doc, Layout.tableRef, shown, IsNameless]

theorem join_isRead (j : Join) : (join j).IsRead settings := by
  intro h
  rw [doc, Layout.joinDoc] at h ⊢
  cases hkind : j.kind.takesCondition <;> cases hcondition : j.condition <;>
    cases hcolumns : j.columns <;>
    simp_all [Layout.shows_joinCondition, shown, IsNameless, doc, expr?, exprs,
      Layout.expr?]

theorem cte_isRead (c : Cte) : (cte c).IsRead settings := by
  intro h
  cases hcolumns : c.columns.isEmpty <;>
    simp_all [doc, Layout.cteDoc, shown, IsNameless]

theorem select_isRead (s : Select) : (select s).IsRead settings := by
  intro h
  have hgroups (v : Sight) := shows_groups v settings s
  have hoptions (v : Sight) :
      ¬ Doc.ShowsSome v ((s.options.filter (· ≠ "")).map
        (.word · ++ .text " ")) := by
    simp [Doc.ShowsSome]
  have hlocking : Doc.ShowsSome .blank (s.locking.map Locking.doc).toList ↔
      Doc.ShowsSome .stop (s.locking.map Locking.doc).toList := by
    cases s.locking <;> simp [Locking.shows_blank_doc]
  rcases s with ⟨distinct, distinctOn, options, items, into, tables, joins,
    condition, groupBy, groupModifiers, having, windows, orderBy, limit, offset,
    locking⟩
  have hinto (v : Sight) := shows_intoAt v settings into
  have hdistinct (v : Sight) :
      (if distinctOn.isEmpty then Doc.textIf distinct "DISTINCT "
      else .text "DISTINCT ON " ++
        .parens (.commas (Layout.exprs settings distinctOn)) ++ .text " ").Shows v ↔
          ShowsSome v settings (exprs distinctOn) := by
    cases distinctOn <;> simp [exprs]
  have hitems (v : Sight) : (if items.isEmpty then Doc.text "*"
      else .commas (Layout.selectItems settings items)).Shows v ↔
        ShowsSome v settings (items.map item) := by
    cases items <;> simp
  have hsources (v : Sight) : (if tables.isEmpty then Doc.empty
      else .text " FROM " ++
        Layout.tables (Layout.tableRefs settings tables)
          (Layout.joinDocs settings joins)).Shows v ↔
        ShowsSome v settings (tables.map table) ∨
          ShowsSome v settings (if tables.isEmpty then [] else joins.map join) := by
    cases tables <;> simp
  have hwindows (v : Sight) : (if windows.isEmpty then Doc.empty
      else .text " WINDOW " ++
        .commas (Layout.namedWindows settings windows)).Shows v ↔
        (∃ w ∈ windows, w.name = "") ∧ v.fault ∨
          ShowsSome v settings (windows.map (window ·.window)) := by
    cases windows with
    | nil => simp
    | cons w ws =>
        rw [← showsSome_namedWindows]
        simp
  simp only [doc, shown, Layout.selectDoc, Doc.shows_append,
    Doc.shows_text, Doc.shows_concat, Doc.shows_clause, Doc.shows_optional,
    Layout.shows_orderBy, Layout.shows_limit, showsSome_append, showsSome_expr?,
    showsSome_orderItems, hoptions, hlocking, hdistinct, hitems, hsources, hwindows,
    hgroups] at h ⊢
  have hstop := hinto .stop
  have hblank := hinto .blank
  simp only [IsNameless, not_or, Sight.stop_fault, Sight.blank_fault,
    Sight.stop_name, Sight.blank_name, and_true, and_false, false_or, exists_false,
    exists_eq_right] at h hstop hblank ⊢
  grind

end Node

end SqlPrinter
