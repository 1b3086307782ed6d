/-
The parameters in the layout of a node are the node itself, if it is one, and
those in the layouts of the parts that are shown.  Only a sort key under which
null values are put in order is laid out twice.
-/
import SqlPrinter.Proofs.Count
import SqlPrinter.Proofs.Node.Walk
import SqlPrinter.Proofs.Pattern.Query

namespace SqlPrinter

variable (t : Tally) (settings : Settings)

/-! ## Leaves -/

@[simp] theorem ColumnRef.count_doc (ref : ColumnRef) : ref.doc.count t = 0 := by
  simp [doc]

@[simp] theorem ObjectName.count_doc (object : ObjectName) :
    object.doc.count t = 0 := by
  simp [doc]

@[simp] theorem KeywordValue.count_doc (kv : KeywordValue) :
    kv.doc.count t = 0 := rfl

@[simp] theorem count_charsetDoc (charset : Option String) :
    (charsetDoc charset).count t = 0 := by
  unfold charsetDoc
  split <;> rfl

@[simp] theorem Literal.count_doc (v : Literal) : (v.doc settings).count t = 0 := by
  cases v with
  | hex digits form charset =>
      simp only [doc, Doc.count_append, count_charsetDoc]
      split <;> rfl
  | bit digits form charset =>
      simp only [doc, Doc.count_append, count_charsetDoc]
      cases form <;> rfl
  | _ => simp [doc]

@[simp] theorem BinaryOp.count_doc (op : BinaryOp) : op.doc.count t = 0 := by
  cases op <;> rfl

@[simp] theorem ArrayDim.count_doc (dims : ArrayDim) : dims.doc.count t = 0 := by
  cases dims <;> rfl

@[simp] theorem Direction.count_doc? (d : Option Direction) :
    (doc? d).count t = 0 := by
  rcases d with _ | _ | _ <;> rfl

@[simp] theorem NullsOrder.count_doc? (n : Option NullsOrder) :
    (doc? n).count t = 0 := by
  rcases n with _ | _ | _ <;> rfl

@[simp] theorem Materialization.count_doc? (m : Option Materialization) :
    (doc? m).count t = 0 := by
  rcases m with _ | _ | _ <;> rfl

@[simp] theorem Locking.count_doc (lock : Locking) : lock.doc.count t = 0 := by
  have hdetails : lock.details.count t = 0 := by
    unfold details
    split <;> split <;> simp
  unfold doc
  split <;> simp [hdetails]

/-! ## Clauses -/

namespace Layout

theorem count_orderItem (key : Doc) (direction : Option Direction)
    (nulls : Option NullsOrder) : (orderItem settings key direction nulls).count t =
      if settings.nullsByKey && nulls.isSome then t.repeats * key.count t
        else key.count t := by
  unfold orderItem
  cases hnulls : settings.nullsByKey <;> rcases nulls with _ | _ | _ <;> simp

@[simp] theorem count_orderBy (keys : List Doc) :
    (orderBy keys).count t = Doc.total t keys := by
  cases keys <;> simp [orderBy]

@[simp] theorem count_limit (count offset : Option Doc) :
    (limit settings count offset).count t =
      Doc.total t count.toList + Doc.total t offset.toList := by
  unfold limit
  split
  · simp [Nat.add_comm]
  · simp

theorem count_groupBy (keys : List Doc) (modifiers : List GroupModifier)
    (sets : Option Doc) : (groupBy settings keys modifiers sets).count t =
      match sets with
      | some sets => sets.count t
      | none => Doc.total t keys := by
  cases sets with
  | some sets => simp [groupBy]
  | none =>
      cases keys with
      | nil => rfl
      | cons key keys =>
          simp only [groupBy]
          repeat' split
          all_goals simp_all

@[simp] theorem count_tables (ts js : List Doc) :
    (tables ts js).count t = Doc.total t ts + Doc.total t js := by
  simp [tables, Doc.total_map]

theorem count_joinCondition (kind : JoinKind) (condition : Option Doc)
    (columns : Option (List String)) :
    (joinCondition kind condition columns).count t =
      if kind.takesCondition then Doc.total t condition.toList else 0 := by
  unfold joinCondition
  split
  · split <;> simp
  · rfl

@[simp] theorem count_valueRow (values : List Doc) :
    (valueRow values).count t = Doc.total t values := by
  simp [valueRow]

@[simp] theorem count_returning (items : List Doc) :
    (returning items).count t = Doc.total t items := by
  cases items <;> simp [returning]

@[simp] theorem count_argSeparator (name : String) (separator : Option String) :
    (argSeparator name separator).count t = 0 := by
  unfold argSeparator
  repeat' split
  all_goals rfl

@[simp] theorem count_callHead (name : String) (separator : Option String)
    (argsParentheses : Bool) (args : List Doc) :
    (callHead name separator argsParentheses args).count t = Doc.total t args := by
  have hargs := Doc.count_joined t (count_argSeparator t name separator) args
  cases argsParentheses <;> simp [callHead, hargs]

theorem count_call (name : String) (args : Option (List Doc))
    (argsParentheses : Bool) (separator : Option String) (parentheses : Bool)
    (window : Doc) (collate : Option KeywordValue) (suffix : Doc) :
    (call name args argsParentheses separator parentheses window collate
      suffix).count t =
      (match args with
      | none => 0
      | some args => Doc.total t args + suffix.count t) + window.count t := by
  cases args with
  | none => simp [call]
  | some args =>
      have hcollate : Doc.total t (collate.map KeywordValue.doc).toList = 0 := by
        cases collate <;> simp
      have hhead := count_callHead t name separator argsParentheses args
      cases parentheses with
      | true =>
          change Doc.count t (_ ++ .fragments " "
            [.parens (.fragments " " [callHead name separator argsParentheses args,
              suffix]), _, _]) = _
          simp [hhead, hcollate]
      | false =>
          change Doc.count t (_ ++ .fragments " "
            [.fragments " " [callHead name separator argsParentheses args, suffix],
              _, _]) = _
          simp [hhead, hcollate]

@[simp] theorem count_castSize (type : DataType) : (castSize type).count t = 0 := by
  unfold castSize
  dsimp only
  repeat' split
  all_goals simp

@[simp] theorem count_typeName (type : DataType) : (typeName type).count t = 0 := by
  unfold typeName
  split <;> rfl

@[simp] theorem count_typeArray (type : DataType) :
    (typeArray type).count t = 0 := by
  unfold typeArray
  cases type.array <;> simp

@[simp] theorem count_typeSize (type : DataType) (values : List Doc) :
    (typeSize type values).count t = Doc.total t values := by
  cases values with
  | nil =>
      simp only [typeSize, List.isEmpty_nil]
      repeat' split
      all_goals first | contradiction | simp
  | cons value values => simp [typeSize]

theorem count_dataType (type : DataType) (values : List Doc) :
    (dataType type values).count t = Doc.total t values := by
  change Doc.count t (_ ++ .fragments " " [_ ++ typeSize type values ++ _, _]) = _
  simp

theorem count_cast (subject : Doc) (target : DataType) (form : CastForm)
    (keyword : Option String) (tail : Doc) (rename : Option String)
    (collate : Option KeywordValue) :
    (cast subject target form keyword tail rename collate).count t =
      subject.count t + tail.count t := by
  have hcollate : Doc.total t (collate.map KeywordValue.doc).toList = 0 := by
    cases collate <;> simp
  cases form <;> simp [cast, castType, hcollate]

theorem count_extract (name field : String) (castType : Option String)
    (source : Doc) :
    (extract name field castType source).count t = source.count t := by
  have htype : Doc.total t (castType.map Doc.word).toList = 0 := by
    cases castType <;> simp
  simp [extract, htype]

end Layout

/-! ## Nodes -/

namespace Node

/-- The layout of a node. -/
def doc : Node → Doc
  | expr e => Layout.expr settings e
  | call c => Layout.functionCall settings c
  | aggregate a => Layout.aggregate settings a
  | dataType t => Layout.typeDoc settings t
  | cast c => Layout.castExpr settings c
  | extract x => Layout.extractCall settings x
  | anyValue a => Layout.anyValue settings a
  | window w => Layout.windowSpec settings w
  | bound b => Layout.frameBound settings b
  | sortKey k =>
      Layout.orderItem settings (Layout.expr settings k.key) k.direction k.nulls
  | query q => Layout.queryDoc settings q
  | body b => Layout.bodyDoc settings b
  | select s => Layout.selectDoc settings s
  | item i => Layout.selectItem settings i
  | modifier (.groupingSets sets) => Layout.keySets settings sets
  | modifier .rollup | modifier .cube => .empty
  | table t => Layout.tableRef settings t
  | join j => Layout.joinDoc settings j
  | cte c => Layout.cteDoc settings c
  | assignment a => Layout.assignment settings .excluded a
  | columnDef c => Layout.columnDef settings c
  | constraint c => Layout.tableConstraint settings c
  | index i => Layout.indexDef i
  | statement s => s.doc settings

/-- What the parameters in the layouts of some nodes count for together. -/
def laid (ns : List Node) : Nat :=
  Doc.total t (ns.map (doc settings))

/-- What a node counts for by itself. -/
def own : Node → Nat
  | expr (.parameter .bind) => t.bound
  | expr (.parameter .question) => t.question
  | _ => 0

/-- How many times over the parts of a node count. -/
def copies : Node → Nat
  | sortKey k => if settings.nullsByKey && k.nulls.isSome then t.repeats else 1
  | _ => 1

/-- The parameters of a node are the node itself and those of the parts that are
shown. -/
def IsCounted (n : Node) : Prop :=
  (n.doc settings).count t = n.own t + n.copies t settings * laid t settings n.shown

/-! ### Lists of parts -/

@[simp] theorem laid_nil : laid t settings [] = 0 := rfl

@[simp] theorem laid_cons (n : Node) (ns : List Node) :
    laid t settings (n :: ns) = (n.doc settings).count t + laid t settings ns := by
  simp [laid]

@[simp] theorem laid_append (ms ns : List Node) :
    laid t settings (ms ++ ns) = laid t settings ms + laid t settings ns := by
  simp [laid]

/-- The layouts of a list of parts, given the layout of each. -/
theorem total_eq_laid {α : Type} {g : α → Node} {L : List α → List Doc}
    (hnil : L [] = []) (hcons : ∀ a as, L (a :: as) = (g a).doc settings :: L as)
    (as : List α) : Doc.total t (L as) = laid t settings (as.map g) := by
  induction as with
  | nil => simp [hnil]
  | cons a as ih => simp [hcons, ih]

@[simp] theorem total_exprs (es : List Expr) :
    Doc.total t (Layout.exprs settings es) = laid t settings (exprs es) :=
  total_eq_laid t settings rfl (fun _ _ => rfl) es

@[simp] theorem total_expr? (e : Option Expr) :
    Doc.total t (Layout.expr? settings e).toList = laid t settings (expr? e) := by
  cases e <;> rfl

/-- Rows of expressions, each laid out in one way. -/
theorem total_rows {g : List Doc → Doc} (hg : ∀ ds, (g ds).count t = Doc.total t ds)
    (rs : List (List Expr)) :
    Doc.total t ((Layout.rows settings rs).map g) =
      laid t settings (exprs rs.flatten) := by
  induction rs with
  | nil => rfl
  | cons r rs ih =>
      have hflatten : exprs (r :: rs).flatten = exprs r ++ exprs rs.flatten := by
        simp [exprs]
      rw [hflatten]
      simp [Layout.rows, hg, ih]

@[simp] theorem total_caseBranches (bs : List (Expr × Expr)) :
    Doc.total t (Layout.caseBranches settings bs) =
      laid t settings (branches bs) := by
  induction bs with
  | nil => rfl
  | cons b bs ih =>
      simp only [branches] at ih
      simp [Layout.caseBranches, branches, ih, doc, Nat.add_assoc]

@[simp] theorem total_orderItems (ks : List OrderItem) :
    Doc.total t (Layout.orderItems settings ks) =
      laid t settings (ks.map sortKey) :=
  total_eq_laid t settings rfl (fun k _ => by cases k; rfl) ks

@[simp] theorem total_selectItems (is : List SelectItem) :
    Doc.total t (Layout.selectItems settings is) = laid t settings (is.map item) :=
  total_eq_laid t settings rfl (fun _ _ => rfl) is

@[simp] theorem total_tableRefs (ts : List TableRef) :
    Doc.total t (Layout.tableRefs settings ts) = laid t settings (ts.map table) :=
  total_eq_laid t settings rfl (fun _ _ => rfl) ts

@[simp] theorem total_joinDocs (js : List Join) :
    Doc.total t (Layout.joinDocs settings js) = laid t settings (js.map join) :=
  total_eq_laid t settings rfl (fun j _ => by cases j; rfl) js

@[simp] theorem total_cteDocs (cs : List Cte) :
    Doc.total t (Layout.cteDocs settings cs) = laid t settings (cs.map cte) :=
  total_eq_laid t settings rfl (fun c _ => by cases c; rfl) cs

@[simp] theorem total_namedWindows (ws : List NamedWindow) :
    Doc.total t (Layout.namedWindows settings ws) =
      laid t settings (ws.map (window ·.window)) := by
  induction ws with
  | nil => rfl
  | cons w ws ih =>
      have hcons : Layout.namedWindows settings (w :: ws) =
          Layout.windowDoc settings w :: Layout.namedWindows settings ws := by
        cases w
        rfl
      simp [hcons, ih, Layout.windowDoc, doc]

@[simp] theorem count_overDoc (o : Option Over) :
    (Layout.overDoc settings o).count t = laid t settings (over? o) := by
  rcases o with _ | _ | w <;> simp [Layout.overDoc, Layout.overClause, over?, doc]

@[simp] theorem count_windowFrame (o : Option WindowFrame) :
    (Layout.windowFrame settings o).count t = laid t settings (frame? o) := by
  rcases o with _ | ⟨units, first, _ | last⟩ <;>
    simp [Layout.windowFrame, frame?, doc]

@[simp] theorem count_withDoc (o : Option With) :
    (Layout.withDoc settings o).count t = laid t settings (with? o) := by
  rcases o with _ | ⟨recursive, ctes⟩ <;> simp [Layout.withDoc, with?]

/-- The INTO clause is printed at one of its three places. -/
theorem count_intoAt (o : Option SelectInto) :
    (Layout.intoAt settings .afterColumns o).count t +
      (Layout.intoAt settings .beforeLock o).count t +
        (Layout.intoAt settings .atEnd o).count t = laid t settings (into? o) := by
  rcases o with _ | ⟨position, target⟩
  · rfl
  · have htarget : (Layout.intoTarget settings target).count t =
        laid t settings (into? (some ⟨position, target⟩)) := by
      cases target with
      | outfile file charset =>
          cases hc : Text.nonEmpty charset <;> simp [Layout.intoTarget, into?, hc]
      | _ => simp [Layout.intoTarget, into?]
    cases position <;> simp [Layout.intoAt, htarget]

theorem count_keySets (sets : List (List Expr)) :
    (Layout.keySets settings sets).count t =
      laid t settings (exprs sets.flatten) := by
  rw [Layout.keySets, Doc.count_commas]
  exact total_rows t settings (by simp) sets

theorem groupingSets_eq (ms : List GroupModifier) :
    Layout.groupingSets settings ms = (setsModifier? ms).map fun m =>
      (modifier m).doc settings := by
  induction ms with
  | nil => rfl
  | cons m ms ih =>
      cases m with
      | groupingSets sets => rfl
      | rollup => exact ih
      | cube => exact ih

/-- Modifiers without sets of keys have no parameters. -/
theorem laid_modifiers {ms : List GroupModifier} (h : setsModifier? ms = none) :
    laid t settings (ms.map modifier) = 0 := by
  induction ms with
  | nil => rfl
  | cons m ms ih =>
      cases m with
      | groupingSets sets => contradiction
      | rollup => simpa [doc] using ih h
      | cube => simpa [doc] using ih h

theorem count_groups (s : Select) :
    (Layout.groupBy settings (Layout.exprs settings s.groupBy) s.groupModifiers
      (Layout.groupingSets settings s.groupModifiers)).count t =
        laid t settings (shownGroups s) := by
  rw [Layout.count_groupBy, groupingSets_eq, shownGroups]
  cases hsets : setsModifier? s.groupModifiers with
  | some m => simp
  | none =>
      cases s.groupBy with
      | nil => rfl
      | cons e es => simp [laid_modifiers t settings hsets]

/-! ### Kinds of nodes -/

theorem expr_isCounted (e : Expr) : (expr e).IsCounted t settings := by
  cases e with
  | parameter p => cases p <;> rfl
  | fullText columns against mode =>
      have hcolumns : Doc.total t (columns.map ColumnRef.doc) = 0 :=
        Doc.total_eq_zero t columns fun ref => ref.count_doc t
      have hmode : Doc.total t ((Text.nonEmpty mode).map Doc.word).toList = 0 := by
        cases Text.nonEmpty mode <;> simp
      simp [IsCounted, doc, own, copies, shown, children, ofExpr, Layout.expr,
        hcolumns, hmode]
  | star table =>
      simp only [IsCounted, doc, own, copies, shown, children, ofExpr, Layout.expr]
      cases Text.nonEmpty table <;> simp
  | _ =>
      simp [IsCounted, doc, own, copies, shown, children, ofExpr, Layout.expr,
        Nat.add_assoc]

theorem call_isCounted (c : FunctionCall) : (call c).IsCounted t settings := by
  rcases c with ⟨name, args, argsParentheses, separator, parentheses, window,
    collate, suffix⟩
  rw [IsCounted, doc, Layout.functionCall, Layout.count_call]
  cases args <;> simp [own, copies, shown, Layout.exprs?, exprs, Nat.add_assoc]

theorem aggregate_isCounted (a : Aggregate) :
    (aggregate a).IsCounted t settings := by
  rcases a with ⟨name, distinct, args, orderBy, separator, filter, window⟩
  cases filter <;>
    simp [IsCounted, doc, own, copies, shown, Layout.aggregate, Layout.expr?,
      expr?, exprs, Nat.add_assoc]

theorem dataType_isCounted (type : DataType) :
    (dataType type).IsCounted t settings := by
  cases type
  simp [IsCounted, doc, own, copies, shown, Layout.typeDoc, Layout.count_dataType]

theorem cast_isCounted (c : Cast) : (cast c).IsCounted t settings := by
  rcases c with ⟨subject, target, form, keyword, tail, rename, collate⟩
  rw [IsCounted, doc, Layout.castExpr, Layout.count_cast]
  rcases tail with _ | ⟨operator, operand⟩ <;>
    simp [own, copies, shown, Layout.castTailDoc, Layout.castTail, exprs, doc]

theorem extract_isCounted (x : Extract) : (extract x).IsCounted t settings := by
  cases x
  simp [IsCounted, doc, own, copies, shown, Layout.extractCall,
    Layout.count_extract]

theorem anyValue_isCounted (a : AnyValue) : (anyValue a).IsCounted t settings := by
  rcases a with ⟨name, subject, _ | ⟨bound, other⟩, window⟩ <;>
    simp [IsCounted, doc, own, copies, shown, Layout.anyValue,
      Layout.anyValueHaving, exprs, Nat.add_assoc]

theorem window_isCounted (w : WindowSpec) : (window w).IsCounted t settings := by
  rcases w with ⟨base, partitionBy, orderBy, frame⟩
  have hbase : Doc.total t (base.map Doc.verbatim).toList = 0 := by
    cases base <;> simp
  cases partitionBy <;> cases orderBy <;>
    simp [IsCounted, doc, own, copies, shown, Layout.windowSpec, hbase, exprs,
      Nat.add_assoc]

theorem bound_isCounted (b : FrameBound) : (bound b).IsCounted t settings := by
  cases b <;> simp [IsCounted, doc, own, copies, shown, Layout.frameBound]

theorem sortKey_isCounted (k : OrderItem) : (sortKey k).IsCounted t settings := by
  rw [IsCounted, doc, Layout.count_orderItem]
  simp only [own, copies, shown, children, laid_cons, laid_nil, doc]
  split <;> simp

theorem query_isCounted (q : Query) : (query q).IsCounted t settings := by
  rcases q with ⟨ctes, body, orderBy, limit, offset⟩
  simp [IsCounted, doc, own, copies, shown, Layout.queryDoc, Nat.add_assoc]

theorem body_isCounted (b : QueryBody) : (body b).IsCounted t settings := by
  cases b <;> simp [IsCounted, doc, own, copies, shown, Layout.bodyDoc]

theorem item_isCounted (i : SelectItem) : (item i).IsCounted t settings := by
  cases i <;> simp [IsCounted, doc, own, copies, shown, Layout.selectItem]

theorem modifier_isCounted (m : GroupModifier) :
    (modifier m).IsCounted t settings := by
  cases m <;> simp [IsCounted, doc, own, copies, shown, count_keySets]

theorem select_isCounted (s : Select) : (select s).IsCounted t settings := by
  have hgroups := count_groups t settings s
  have hoptions :
      Doc.total t ((s.options.filter (· ≠ "")).map (.word · ++ .text " ")) = 0 :=
    Doc.total_eq_zero t _ fun _ => rfl
  have hlocking : Doc.total t (s.locking.map Locking.doc).toList = 0 := by
    cases s.locking <;> simp
  rcases s with ⟨distinct, distinctOn, options, items, into, tables, joins,
    condition, groupBy, groupModifiers, having, windows, orderBy, limit, offset,
    locking⟩
  have hinto := count_intoAt t settings into
  have hdistinct : (if distinctOn.isEmpty then Doc.textIf distinct "DISTINCT "
      else .text "DISTINCT ON " ++
        .parens (.commas (Layout.exprs settings distinctOn)) ++ .text " ").count t =
          laid t settings (exprs distinctOn) := by
    cases distinctOn <;> simp [exprs]
  have hitems : (if items.isEmpty then Doc.text "*"
      else .commas (Layout.selectItems settings items)).count t =
        laid t settings (items.map item) := by
    cases items <;> simp
  have hsources : (if tables.isEmpty then Doc.empty
      else .text " FROM " ++
        Layout.tables (Layout.tableRefs settings tables)
          (Layout.joinDocs settings joins)).count t =
        laid t settings (tables.map table) +
          laid t settings (if tables.isEmpty then [] else joins.map join) := by
    cases tables <;> simp
  have hwindows : (if windows.isEmpty then Doc.empty
      else .text " WINDOW " ++
        .commas (Layout.namedWindows settings windows)).count t =
        laid t settings (windows.map (window ·.window)) := by
    cases windows <;> simp
  simp only [IsCounted, doc, own, copies, shown, Layout.selectDoc, Doc.count_append,
    Doc.count_text, Doc.count_concat, Doc.count_clause, Doc.count_optional,
    Layout.count_orderBy, Layout.count_limit, laid_append, total_expr?,
    total_orderItems, hoptions, hlocking, hdistinct, hitems, hsources, hwindows,
    hgroups]
  omega

theorem table_isCounted (r : TableRef) : (table r).IsCounted t settings := by
  cases r with
  | values rows rowKeyword rename =>
      have hrows :=
        total_rows t settings (g := fun row => .textIf rowKeyword "ROW" ++
        Layout.valueRow row) (by simp) rows
      simp [IsCounted, doc, own, copies, shown, Layout.tableRef, hrows]
  | _ => simp [IsCounted, doc, own, copies, shown, Layout.tableRef]

theorem join_isCounted (j : Join) : (join j).IsCounted t settings := by
  rw [IsCounted, doc, Layout.joinDoc]
  cases hkind : j.kind.takesCondition <;>
    simp [own, copies, shown, Layout.count_joinCondition, hkind, doc]

theorem cte_isCounted (c : Cte) : (cte c).IsCounted t settings := by
  cases hcolumns : c.columns.isEmpty <;>
    simp [IsCounted, doc, own, copies, shown, Layout.cteDoc, hcolumns]

end Node

end SqlPrinter
