/-
A node is read back from its written form if the parts directly below it are.
Where the form of a node stands alone its reader is one level above the readers
of its parts; everywhere else they are the same, since nothing is lost by allowing
more depth than there is.
-/
import SqlPrinter.Form.Statement
import SqlPrinter.Proofs.Form.Canonical
import SqlPrinter.Proofs.Form.Leaf
import SqlPrinter.Proofs.Form.Written

namespace SqlPrinter

open Form

namespace Node

/-- The node is read back from its written form, or from its fields where these
are written without the rest. -/
def Reads (r : Readers) (d : Nat) : Node → Prop
  | expr e => r.expr.Reads d (Write.expr e) e
  | call c => (FunctionCall.fields r).Reads d (Write.functionCall c) c
  | aggregate a => (Aggregate.fields r).Reads d (Write.aggregate a) a
  | dataType t => (DataType.read r).Reads d t.toJson t
  | cast c => (Cast.fields r).Reads d (Write.cast c) c
  | extract x => (Extract.fields r).Reads d (Write.extract x) x
  | anyValue a => (AnyValue.fields r).Reads d (Write.anyValue a) a
  | window w => (WindowSpec.fields r).Reads d (Write.windowSpec w) w
  | bound b =>
      (Reader.tagged (FrameBound.variants r)).Reads d (Write.frameBound b) b
  | sortKey k => (OrderItem.read r).Reads d k.toJson k
  | query q => r.query.Reads d q.toJson q
  | body b => r.body.Reads d (Write.queryBody b) b
  | select s => (Select.fields r).Reads d (Write.select s) s
  | item i => (SelectItem.read r).Reads d i.toJson i
  | modifier m => (Reader.tagged (GroupModifier.variants r)).Reads d m.toJson m
  | table t => r.table.Reads d (Write.tableRef t) t
  | join j => (Join.read r).Reads d j.toJson j
  | cte c => (Reader.record (Cte.fields r)).Reads d c.toJson c
  | assignment a => (Assignment.read r).Reads d a.toJson a
  | columnDef c => (ColumnDef.fields r).Reads d c.entries c
  | constraint c => (TableConstraint.read r).Reads d c.toJson c
  | index i => IndexDef.fields.Reads d i.entries i
  | statement s => (Statement.read r).Reads d s.toJson s

variable {r : Readers} {d : Nat}

/-! ## Windows and calls -/

theorem reads_bound {b : FrameBound} (h : ∀ m ∈ (bound b).parts, m.Reads r d) :
    (bound b).Reads r d := by
  cases b with
  | unboundedPreceding | currentRow | unboundedFollowing => exact .tagged rfl .pure
  | preceding e | following e =>
      have he := h (expr e) List.mem_cons_self
      exact .tagged rfl <| .map (.required rfl he)

theorem reads_sortKey {k : OrderItem} (h : ∀ m ∈ (sortKey k).parts, m.Reads r d) :
    (sortKey k).Reads r d := by
  obtain ⟨key, direction, nulls⟩ := k
  have hkey := h (expr key) List.mem_cons_self
  exact .record <|
    .seq (.optional rfl fun nulls _ => .word (by cases nulls <;> rfl)) <|
    .seq (.optional rfl fun direction _ => .word (by cases direction <;> rfl)) <|
    .map (.required rfl hkey)

theorem reads_frame {f : WindowFrame} (hfirst : (bound f.first).Reads r d)
    (hlast : ∀ b ∈ f.last, (bound b).Reads r d) :
    (Reader.record (WindowFrame.fields r)).Reads d f.toJson f := by
  obtain ⟨units, first, last⟩ := f
  exact .record <|
    .seq (.optional rfl hlast) <|
    .seq (.required rfl hfirst) <|
    .map (.required rfl (.word (by cases units <;> rfl)))

theorem reads_window {w : WindowSpec} (h : ∀ m ∈ (window w).parts, m.Reads r d) :
    (window w).Reads r d := by
  obtain ⟨base, partitionBy, orderBy, frame⟩ := w
  simp only [parts, castTarget, children, List.append_nil, List.forall_mem_append,
    forall_exprs, List.forall_mem_map, forall_frame?] at h
  obtain ⟨⟨hpartition, horder⟩, hframe⟩ := h
  rw [Reads, Write.windowSpec, Write.exprs_eq, Write.orderItems_eq,
    Write.windowFrame?_eq]
  exact
    .seq (.optional rfl fun f hf => reads_frame (hframe f hf).1 (hframe f hf).2) <|
    .seq (.withDefault rfl (.list horder)) <|
    .seq (.withDefault rfl (.list hpartition)) <|
    .map (.optional rfl fun _ _ => .text)

theorem reads_over {o : Over} (h : ∀ w, o = .spec w → (window w).Reads r d) :
    (Over.read r).Reads d o.toJson o := by
  cases o with
  | named name => exact .tagged rfl <| .map (.required rfl .text)
  | spec w => exact .tagged rfl <| .map (h w rfl)

/-- A call is read back if its parts are. -/
theorem reads_call {c : FunctionCall} (h : ∀ m ∈ (call c).parts, m.Reads r d) :
    (call c).Reads r d := by
  obtain ⟨name, args, argsParentheses, separator, parentheses, window, collate,
    suffix⟩ := c
  simp only [parts, castTarget, children, List.append_nil, List.forall_mem_append,
    forall_args, forall_expr?, forall_over?] at h
  obtain ⟨⟨hargs, hsuffix⟩, hwindow⟩ := h
  rw [Reads, Write.functionCall, Write.exprs?_eq, Write.over?_eq, Write.expr?_eq]
  exact
    .seq (.optional rfl hsuffix) <|
    .seq (.optional rfl fun collate _ => collate.reads) <|
    .seq (.optional rfl fun o ho => reads_over fun w hw => hwindow w (hw ▸ ho)) <|
    .seq (.withDefault rfl .flag) <|
    .seq (.optional rfl fun _ _ => .text) <|
    .seq (.withDefault rfl .flag) <|
    .seq (.optional rfl fun es hes => .list (hargs es hes)) <|
    .map (.required rfl .text)

theorem reads_aggregate {a : Aggregate}
    (h : ∀ m ∈ (aggregate a).parts, m.Reads r d) : (aggregate a).Reads r d := by
  obtain ⟨name, distinct, args, orderBy, separator, filter, window⟩ := a
  simp only [parts, castTarget, children, List.append_nil, List.forall_mem_append,
    forall_exprs, List.forall_mem_map, forall_expr?, forall_over?] at h
  obtain ⟨⟨⟨⟨hargs, horder⟩, hseparator⟩, hfilter⟩, hwindow⟩ := h
  rw [Reads, Write.aggregate, Write.exprs_eq, Write.orderItems_eq, Write.over?_eq,
    Write.expr?_eq, Write.expr?_eq]
  exact
    .seq (.optional rfl fun o ho => reads_over fun w hw => hwindow w (hw ▸ ho)) <|
    .seq (.optional rfl hfilter) <|
    .seq (.optional rfl hseparator) <|
    .seq (.withDefault rfl (.list horder)) <|
    .seq (.withDefault rfl (.list hargs)) <|
    .seq (.withDefault rfl .flag) <|
    .map (.required rfl .text)

/-- A data type is read back if its arguments are. -/
theorem reads_dataType {t : DataType} (h : ∀ m ∈ (dataType t).parts, m.Reads r d) :
    (dataType t).Reads r d := by
  obtain ⟨name, length, scale, parentheses, quoted, suffix, array, values⟩ := t
  simp only [parts, castTarget, children, List.append_nil, forall_exprs] at h
  rw [Reads, DataType.toJson, Write.dataType, Write.exprs_eq]
  exact .record <|
    .seq (.withDefault rfl (.list h)) <|
    .seq (.optional rfl fun array _ => .word (by cases array <;> rfl)) <|
    .seq (.withDefault rfl .texts) <|
    .seq (.optional rfl fun _ _ => .text) <|
    .seq (.withDefault rfl .flag) <|
    .seq (.optional rfl fun _ _ => .count) <|
    .seq (.optional rfl fun _ _ => .count) <|
    .map (.required rfl .text)

theorem reads_tail {t : CastTail} (h : (expr t.operand).Reads r d) :
    (Reader.record (CastTail.fields r)).Reads d t.toJson t := by
  obtain ⟨operator, operand⟩ := t
  exact .record <| .seq (.required rfl h) <| .map (.required rfl .text)

theorem reads_cast {c : Cast} (h : ∀ m ∈ (cast c).parts, m.Reads r d) :
    (cast c).Reads r d := by
  obtain ⟨subject, target, form, keyword, tail, rename, collate⟩ := c
  simp only [parts, castTarget, children, List.forall_mem_append,
    List.forall_mem_cons, forall_exprs, List.forall_mem_map, Option.mem_toList] at h
  obtain ⟨⟨hsubject, htail⟩, htarget, -⟩ := h
  rw [Reads, Write.cast, Write.castTail?_eq]
  exact
    .seq (.optional rfl fun collate _ => collate.reads) <|
    .seq (.optional rfl fun _ _ => .text) <|
    .seq (.optional rfl fun t ht => reads_tail (htail t ht)) <|
    .seq (.optional rfl fun _ _ => .text) <|
    .seq (.required rfl (.word (by cases form <;> rfl))) <|
    .seq (.required rfl htarget) <|
    .map (.required rfl hsubject)

theorem reads_extract {x : Extract} (h : ∀ m ∈ (extract x).parts, m.Reads r d) :
    (extract x).Reads r d := by
  obtain ⟨name, field, castType, source⟩ := x
  have hsource := h (expr source) List.mem_cons_self
  exact
    .seq (.required rfl hsource) <|
    .seq (.optional rfl fun _ _ => .text) <|
    .seq (.required rfl .text) <|
    .map (.required rfl .text)

theorem reads_having {a : AnyValueHaving} (h : (expr a.subject).Reads r d) :
    (Reader.record (AnyValueHaving.fields r)).Reads d a.toJson a := by
  obtain ⟨bound, subject⟩ := a
  exact .record <| .seq (.required rfl h) <| .map (.required rfl .text)

theorem reads_anyValue {a : AnyValue} (h : ∀ m ∈ (anyValue a).parts, m.Reads r d) :
    (anyValue a).Reads r d := by
  obtain ⟨name, subject, having, window⟩ := a
  simp only [parts, castTarget, children, List.append_nil, List.forall_mem_append,
    List.forall_mem_cons, forall_exprs, List.forall_mem_map, Option.mem_toList,
    forall_over?] at h
  obtain ⟨hsubject, hhaving, hwindow⟩ := h
  rw [Reads, Write.anyValue, Write.anyValueHaving?_eq, Write.over?_eq]
  exact
    .seq (.optional rfl fun o ho => reads_over fun w hw => hwindow w (hw ▸ ho)) <|
    .seq (.optional rfl fun a ha => reads_having (hhaving a ha)) <|
    .seq (.required rfl hsubject) <|
    .map (.required rfl .text)

/-! ## Expressions -/

theorem reads_binary {left right : Expr} {op : BinaryOp}
    (hleft : (expr left).Reads r d) (hop : op.IsCanonical)
    (hright : (expr right).Reads r d) :
    (expr (.binary left op right)).Reads r.above (d + 1) :=
  .tagged_succ rfl <|
    .seq (.required rfl hright) <|
    .seq (.required rfl (BinaryOp.reads hop)) <|
    .map (.required rfl hleft)

theorem reads_unary {op : UnaryOp} {operand : Expr}
    (hoperand : (expr operand).Reads r d) :
    (expr (.unary op operand)).Reads r.above (d + 1) :=
  .tagged_succ rfl <| .seq (.required rfl hoperand) <| .map (.required rfl op.reads)

theorem reads_between {subject low high : Expr} {negated : Bool}
    (hsubject : (expr subject).Reads r d) (hlow : (expr low).Reads r d)
    (hhigh : (expr high).Reads r d) :
    (expr (.between subject negated low high)).Reads r.above (d + 1) :=
  .tagged_succ rfl <|
    .seq (.required rfl hhigh) <|
    .seq (.required rfl hlow) <|
    .seq (.withDefault rfl .flag) <|
    .map (.required rfl hsubject)

theorem reads_list {items : List Expr} (h : ∀ e ∈ items, (expr e).Reads r d) :
    (expr (.list items)).Reads r.above (d + 1) := by
  rw [Reads, Write.expr, Write.exprs_eq]
  exact .tagged_succ rfl <| .map (.required rfl (.list h))

/-- A CASE is read back one level up from its parts. -/
theorem reads_case {operand otherwise : Option Expr} {bs : List (Expr × Expr)}
    (hoperand : ∀ e ∈ operand, (expr e).Reads r d)
    (hbranches : ∀ b ∈ bs, (expr b.1).Reads r d ∧ (expr b.2).Reads r d)
    (hotherwise : ∀ e ∈ otherwise, (expr e).Reads r d) :
    (expr (.case operand bs otherwise)).Reads r.above (d + 1) := by
  rw [Reads, Write.expr, Write.expr?_eq, Write.expr?_eq, Write.caseBranches_eq]
  exact .tagged_succ rfl <|
    .seq (.optional rfl hotherwise) <|
    .seq (.required rfl
      (.list fun b hb => .pair (hbranches b hb).1 (hbranches b hb).2)) <|
    .map (.optional rfl hoperand)

theorem reads_collate {subject : Expr} {collation : KeywordValue}
    (hsubject : (expr subject).Reads r d) :
    (expr (.collate subject collation)).Reads r.above (d + 1) :=
  .tagged_succ rfl <| .seq (.required rfl collation.reads) <|
    .map (.required rfl hsubject)

theorem reads_fullText {columns : List ColumnRef} {against : Expr}
    {mode : Option String} (hagainst : (expr against).Reads r d) :
    (expr (.fullText columns against mode)).Reads r.above (d + 1) :=
  .tagged_succ rfl <|
    .seq (.optional rfl fun _ _ => .text) <|
    .seq (.required rfl hagainst) <|
    .map (.required rfl (.list fun column _ => .record column.reads))

theorem reads_interval {amount : Expr} {unit : String}
    (hamount : (expr amount).Reads r d) :
    (expr (.interval amount unit)).Reads r.above (d + 1) :=
  .tagged_succ rfl <| .seq (.required rfl .text) <| .map (.required rfl hamount)

/-- An expression is read back one level up from its parts, given a canonical
operator. -/
theorem reads_expr {e : Expr} (hop : (expr e).HasCanonicalOp)
    (h : ∀ m ∈ (expr e).parts, m.Reads r d) : (expr e).Reads r.above (d + 1) := by
  cases e with
  | column ref => exact .tagged_succ rfl <| .map ref.reads
  | star table => exact .tagged_succ rfl <| .map (.optional rfl fun _ _ => .text)
  | keyword word => exact .tagged_succ rfl <| .map (.required rfl .text)
  | literal value => exact .tagged_succ rfl <| .map (.required rfl value.reads)
  | parameter param => exact .tagged_succ rfl <| .map (.required rfl param.reads)
  | var sigil name =>
      exact .tagged_succ rfl <| .seq (.required rfl .text) <|
        .map (.withDefault rfl .text)
  | binary left op right =>
      simp only [parts, castTarget, children, ofExpr, List.append_nil,
        List.forall_mem_cons] at h
      exact reads_binary h.1 hop h.2.1
  | unary op operand => exact reads_unary (h (expr operand) List.mem_cons_self)
  | between subject negated low high =>
      simp only [parts, castTarget, children, ofExpr, List.append_nil,
        List.forall_mem_cons] at h
      exact reads_between h.1 h.2.1 h.2.2.1
  | paren inner =>
      have hinner := h (expr inner) List.mem_cons_self
      exact .tagged_succ rfl <| .map (.required rfl hinner)
  | list items =>
      simp only [parts, castTarget, children, ofExpr, List.append_nil,
        forall_exprs] at h
      exact reads_list h
  | function c => exact .tagged_succ rfl <| .map (h (call c) List.mem_cons_self)
  | aggregate a =>
      exact .tagged_succ rfl <| .map (h (aggregate a) List.mem_cons_self)
  | cast c => exact .tagged_succ rfl <| .map (h (cast c) List.mem_cons_self)
  | extract x => exact .tagged_succ rfl <| .map (h (extract x) List.mem_cons_self)
  | anyValue a => exact .tagged_succ rfl <| .map (h (anyValue a) List.mem_cons_self)
  | case operand bs otherwise =>
      simp only [parts, castTarget, children, ofExpr, List.append_nil,
        List.forall_mem_append, forall_expr?, forall_branches] at h
      exact reads_case h.1.1 h.1.2 h.2
  | subquery q =>
      have hquery := h (query q) List.mem_cons_self
      exact .tagged_succ rfl <| .map (.required rfl hquery)
  | collate subject collation =>
      exact reads_collate (h (expr subject) List.mem_cons_self)
  | fullText columns against mode =>
      exact reads_fullText (h (expr against) List.mem_cons_self)
  | interval amount unit =>
      exact reads_interval (h (expr amount) List.mem_cons_self)

/-! ## Queries -/

theorem reads_item {i : SelectItem} (h : ∀ m ∈ (item i).parts, m.Reads r d) :
    (item i).Reads r d := by
  cases i with
  | star => exact .tagged rfl .pure
  | qualifiedStar table => exact .tagged rfl <| .map (.required rfl .text)
  | expr value rename =>
      have hvalue := h (expr value) List.mem_cons_self
      exact .tagged rfl <| .seq (.optional rfl fun _ _ => .text) <|
        .map (.required rfl hvalue)

theorem reads_rows {rows : List (List Expr)}
    (h : ∀ row ∈ rows, ∀ e ∈ row, (expr e).Reads r d) :
    r.expr.list.list.Reads d (rowsJson rows) rows :=
  .list fun row hrow => .list (h row hrow)

theorem reads_modifier {m : GroupModifier}
    (h : ∀ k ∈ (modifier m).parts, k.Reads r d) : (modifier m).Reads r d := by
  cases m with
  | rollup | cube => exact .tagged rfl .pure
  | groupingSets sets =>
      simp only [parts, castTarget, children, List.append_nil, forall_rows] at h
      exact .tagged rfl <| .map (.required rfl (reads_rows h))

/-- An INTO is read back if its variables are. -/
theorem reads_into {a : SelectInto}
    (h : ∀ vars, a.target = .vars vars → ∀ e ∈ vars, (expr e).Reads r d) :
    (Reader.record (SelectInto.fields r)).Reads d a.toJson a := by
  obtain ⟨position, target⟩ := a
  have htarget :
      (Reader.tagged (IntoTarget.variants r)).Reads d (Write.intoTarget target)
        target := by
    cases target with
    | vars vars =>
        rw [Write.intoTarget, Write.exprs_eq]
        exact .tagged rfl <| .map (.required rfl (.list (h vars rfl)))
    | outfile file charset =>
        exact .tagged rfl <| .seq (.optional rfl fun _ _ => .text) <|
          .map (.required rfl .text)
    | dumpfile file => exact .tagged rfl <| .map (.required rfl .text)
    | table name => exact .tagged rfl <| .map (.required rfl .text)
  exact .record <|
    .seq (.required rfl htarget) <|
    .map (.withDefault rfl (.word (by cases position <;> rfl)))

/-- A table is read back one level up from its parts. -/
theorem reads_table {t : TableRef} (h : ∀ m ∈ (table t).parts, m.Reads r d) :
    (table t).Reads r.above (d + 1) := by
  change (Reader.tagged (TableRef.variants r)).Reads (d + 1) (Write.tableRef t) t
  cases t with
  | named schema name rename =>
      exact .tagged_succ rfl <|
        .seq (.optional rfl fun _ _ => .text) <|
        .seq (.required rfl .text) <|
        .map (.optional rfl fun _ _ => .text)
  | subquery q rename =>
      have hquery := h (query q) List.mem_cons_self
      exact .tagged_succ rfl <|
        .seq (.optional rfl fun _ _ => .text) <|
        .map (.required rfl hquery)
  | function c rename =>
      have hcall := h (call c) List.mem_cons_self
      exact .tagged_succ rfl <|
        .seq (.optional rfl fun _ _ => .text) <|
        .map (.required rfl (.record hcall))
  | values rows rowKeyword rename =>
      simp only [parts, castTarget, children, List.append_nil, forall_rows] at h
      rw [Write.tableRef, Write.rows_eq]
      exact .tagged_succ rfl <|
        .seq (.optional rfl fun _ _ => .text) <|
        .seq (.withDefault rfl .flag) <|
        .map (.required rfl (reads_rows h))
  | paren t =>
      have htable := h (table t) List.mem_cons_self
      exact .tagged_succ rfl <| .map (.required rfl htable)

theorem reads_join {j : Join} (h : ∀ m ∈ (join j).parts, m.Reads r d) :
    (join j).Reads r d := by
  obtain ⟨kind, table, condition, columns⟩ := j
  simp only [parts, castTarget, children, List.append_nil, List.forall_mem_cons,
    forall_expr?] at h
  obtain ⟨htable, hcondition⟩ := h
  exact .record <|
    .seq (.optional rfl fun _ _ => .texts) <|
    .seq (.optional rfl hcondition) <|
    .seq (.required rfl htable) <|
    .map (.required rfl (.word (by cases kind <;> rfl)))

theorem reads_namedWindow {w : NamedWindow} (h : (window w.window).Reads r d) :
    (Reader.record (NamedWindow.fields r)).Reads d w.toJson w := by
  obtain ⟨name, window⟩ := w
  exact .record <| .seq (.required rfl (.record h)) <| .map (.required rfl .text)

/-- A SELECT is read back if its parts are. -/
theorem reads_select {s : Select} (h : ∀ m ∈ (select s).parts, m.Reads r d) :
    (select s).Reads r d := by
  obtain ⟨distinct, distinctOn, options, items, into, tables, joins, condition,
    groupBy, groupModifiers, having, windows, orderBy, limit, offset, locking⟩ := s
  simp only [parts, castTarget, children, ofSelect, List.append_nil,
    List.forall_mem_append, forall_exprs, forall_expr?, forall_into?,
    List.forall_mem_map] at h
  obtain ⟨⟨⟨⟨⟨⟨⟨⟨⟨⟨⟨⟨hdistinctOn, hitems⟩, hinto⟩, htables⟩, hjoins⟩, hcondition⟩,
    hgroupBy⟩, hmodifiers⟩, hhaving⟩, hwindows⟩, horderBy⟩, hlimit⟩, hoffset⟩ := h
  simp only [Reads, Write.select, Write.exprs_eq, Write.expr?_eq,
    Write.selectItems_eq, Write.into?_eq, Write.tableRefs_eq, Write.joinList_eq,
    Write.groupModifierList_eq, Write.namedWindows_eq, Write.orderItems_eq]
  exact
    .seq (.optional rfl fun lock _ => lock.reads) <|
    .seq (.optional rfl hoffset) <|
    .seq (.optional rfl hlimit) <|
    .seq (.withDefault rfl (.list horderBy)) <|
    .seq (.withDefault rfl (.list fun w hw => reads_namedWindow (hwindows w hw))) <|
    .seq (.optional rfl hhaving) <|
    .seq (.withDefault rfl (.list hmodifiers)) <|
    .seq (.withDefault rfl (.list hgroupBy)) <|
    .seq (.optional rfl hcondition) <|
    .seq (.withDefault rfl (.list hjoins)) <|
    .seq (.withDefault rfl (.list htables)) <|
    .seq (.optional rfl fun a ha => reads_into (hinto a ha)) <|
    .seq (.withDefault rfl (.list hitems)) <|
    .seq (.withDefault rfl .texts) <|
    .seq (.withDefault rfl (.list hdistinctOn)) <|
    .map (.withDefault rfl .flag)

/-- The body of a query is read back one level up from its operands. -/
theorem reads_body {b : QueryBody} (h : ∀ m ∈ (body b).parts, m.Reads r d) :
    (body b).Reads r.above (d + 1) := by
  change (Reader.tagged (QueryBody.variants r)).Reads (d + 1) (Write.queryBody b) b
  cases b with
  | select s => exact .tagged_succ rfl <| .map (h (select s) List.mem_cons_self)
  | combine left op right =>
      simp only [parts, castTarget, children, List.append_nil,
        List.forall_mem_cons] at h
      obtain ⟨hleft, hright, -⟩ := h
      exact .tagged_succ rfl <|
        .seq (.required rfl hright) <|
        .seq (.required rfl (.word (by cases op <;> rfl))) <|
        .map (.required rfl hleft)

theorem reads_cte {c : Cte} (h : ∀ m ∈ (cte c).parts, m.Reads r d) :
    (cte c).Reads r d := by
  obtain ⟨name, columns, materialized, q⟩ := c
  have hquery := h (query q) List.mem_cons_self
  exact .record <|
    .seq (.required rfl hquery) <|
    .seq (.optional rfl fun m _ => .word (by cases m <;> rfl)) <|
    .seq (.withDefault rfl .texts) <|
    .map (.required rfl .text)

theorem reads_with {a : With} (h : ∀ c ∈ a.tables, (cte c).Reads r d) :
    (With.read r).Reads d a.toJson a := by
  obtain ⟨recursive, tables⟩ := a
  exact .record <| .seq (.required rfl (.list h)) <| .map (.withDefault rfl .flag)

/-- A statement that is a query is written as the fields of the query behind a
tag, so that they are read at the level of its parts. -/
theorem reads_queryFields {q : Query} (h : ∀ m ∈ (query q).parts, m.Reads r d) :
    (Query.fields r).Reads d (Write.query q) q := by
  obtain ⟨ctes, body, orderBy, limit, offset⟩ := q
  simp only [parts, castTarget, children, List.append_nil, List.forall_mem_append,
    List.forall_mem_cons, forall_expr?, forall_with?, List.forall_mem_map] at h
  obtain ⟨hctes, hbody, ⟨horderBy, hlimit⟩, hoffset⟩ := h
  simp only [Write.query, Write.with?_eq, Write.orderItems_eq, Write.expr?_eq]
  exact
    .seq (.optional rfl hoffset) <|
    .seq (.optional rfl hlimit) <|
    .seq (.withDefault rfl (.list horderBy)) <|
    .seq (.required rfl hbody) <|
    .map (.optional rfl fun a ha => reads_with (hctes a ha))

/-- A query is read back one level up from its parts. -/
theorem reads_query {q : Query} (h : ∀ m ∈ (query q).parts, m.Reads r d) :
    (query q).Reads r.above (d + 1) :=
  .record_succ (reads_queryFields h)

end Node

end SqlPrinter
