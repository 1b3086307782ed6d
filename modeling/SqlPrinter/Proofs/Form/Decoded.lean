/-
Whatever is decoded is canonical: an operator is read by name wherever it has one,
and no other reader makes operators.
-/
import SqlPrinter.Form.Statement
import SqlPrinter.Proofs.Form.Canonical

namespace SqlPrinter

open Form

/-- Readers that give canonical nodes only. -/
structure Form.Readers.YieldCanonical (r : Readers) : Prop where
  expr : r.expr.Yields fun e => (Node.expr e).IsCanonical
  table : r.table.Yields fun t => (Node.table t).IsCanonical
  body : r.body.Yields fun b => (Node.body b).IsCanonical
  query : r.query.Yields fun q => (Node.query q).IsCanonical

namespace Node

/-! ## Expressions with several parts -/

theorem isCanonical_binary {left right : Expr} {op : BinaryOp}
    (hop : op.IsCanonical) (hleft : (expr left).IsCanonical)
    (hright : (expr right).IsCanonical) :
    (expr (.binary left op right)).IsCanonical :=
  isCanonical_iff.2 ⟨hop,
    List.forall_mem_cons.2 ⟨hleft, List.forall_mem_singleton.2 hright⟩⟩

theorem isCanonical_between {subject low high : Expr} {negated : Bool}
    (hsubject : (expr subject).IsCanonical) (hlow : (expr low).IsCanonical)
    (hhigh : (expr high).IsCanonical) :
    (expr (.between subject negated low high)).IsCanonical := by
  refine isCanonical_iff.2 ⟨trivial, List.forall_mem_cons.2 ⟨hsubject, ?_⟩⟩
  exact List.forall_mem_cons.2 ⟨hlow, List.forall_mem_singleton.2 hhigh⟩

/-- A list is canonical when its members are; one member alone is not a list. -/
theorem isCanonical_list {items : List Expr}
    (h : ∀ e ∈ items, (expr e).IsCanonical) : (expr (.list items)).IsCanonical := by
  refine isCanonical_iff.2 ⟨trivial, ?_⟩
  simpa only [parts, castTarget, children, ofExpr, List.append_nil,
    forall_exprs] using h

/-- A CASE is canonical when its operand, its branches and its ELSE are. -/
theorem isCanonical_case {operand otherwise : Option Expr} {bs : List (Expr × Expr)}
    (hoperand : ∀ e ∈ operand, (expr e).IsCanonical)
    (hbranches : ∀ b ∈ bs, (expr b.1).IsCanonical ∧ (expr b.2).IsCanonical)
    (hotherwise : ∀ e ∈ otherwise, (expr e).IsCanonical) :
    (expr (.case operand bs otherwise)).IsCanonical := by
  refine isCanonical_iff.2 ⟨trivial, ?_⟩
  simp only [parts, castTarget, children, ofExpr, List.append_nil,
    List.forall_mem_append, forall_expr?, forall_branches]
  exact ⟨⟨hoperand, hbranches⟩, hotherwise⟩

/-- Expressions that consist of one part and have no operator of their own. -/
theorem yields_of_part {α : Type} {fields : Fields α} {part : α → Node}
    {make : α → Expr} (hop : ∀ a, (expr (make a)).HasCanonicalOp)
    (hparts : ∀ a, (expr (make a)).parts = [part a])
    (h : fields.Yields fun a => (part a).IsCanonical) :
    (make <$> fields).Yields fun e => (expr e).IsCanonical :=
  .map h fun a ha => isCanonical_of_part (hop a) (hparts a) ha

variable {r : Readers} (hr : r.YieldCanonical)

include hr

/-! ## Windows and calls -/

/-- Frame bounds hold canonical counts, since the expressions they are read with are
canonical. -/
theorem yields_bound :
    (Reader.tagged (FrameBound.variants r)).Yields fun b =>
      (bound b).IsCanonical := by
  apply Reader.Yields.tagged
  simp only [FrameBound.variants, List.forall_mem_cons]
  refine ⟨.pure ?_, .map (.required hr.expr) ?_, .pure ?_,
    .map (.required hr.expr) ?_, .pure ?_, nofun⟩
  · exact isCanonical_of_no_part trivial rfl
  · exact fun e he => isCanonical_of_part trivial rfl he
  · exact isCanonical_of_no_part trivial rfl
  · exact fun e he => isCanonical_of_part trivial rfl he
  · exact isCanonical_of_no_part trivial rfl

theorem yields_sortKey :
    (OrderItem.read r).Yields fun k => (sortKey k).IsCanonical :=
  .record <| .seq .any <| .seq .any <|
    .map (.required hr.expr) fun _ hkey _ _ _ _ =>
    isCanonical_of_part trivial rfl hkey

theorem yields_frame : (Reader.record (WindowFrame.fields r)).Yields fun f =>
    (bound f.first).IsCanonical ∧ ∀ b ∈ f.last, (bound b).IsCanonical :=
  .record <|
    .seq (.optional (yields_bound hr)) <|
    .seq (.required (yields_bound hr)) <|
    .map .any fun _ _ _ hfirst _ hlast => ⟨hfirst, hlast⟩

theorem yields_window :
    (WindowSpec.fields r).Yields fun w => (window w).IsCanonical := by
  refine
    .seq (.optional (yields_frame hr)) <|
    .seq (.many (yields_sortKey hr)) <|
    .seq (.many hr.expr) <|
    .map .any fun base _ partitionBy hpartition orderBy horder frame hframe => ?_
  refine isCanonical_iff.2 ⟨trivial, ?_⟩
  simp only [parts, castTarget, children, List.append_nil, List.forall_mem_append,
    forall_exprs, List.forall_mem_map, forall_frame?]
  exact ⟨⟨hpartition, horder⟩, hframe⟩

/-- An OVER clause is canonical when the window it spells out is; a named window
holds nothing. -/
theorem yields_over : (Over.read r).Yields fun o => ∀ w, o = .spec w →
    (window w).IsCanonical := by
  apply Reader.Yields.tagged
  simp only [Over.variants, List.forall_mem_cons]
  refine ⟨.map .any ?_, .map (yields_window hr) ?_, nofun⟩
  · exact fun _ _ => nofun
  · intro w hw _ heq
    obtain rfl := Over.spec.inj heq
    exact hw

theorem yields_call :
    (FunctionCall.fields r).Yields fun c => (call c).IsCanonical := by
  refine
    .seq (.optional hr.expr) <|
    .seq .any <|
    .seq (.optional (yields_over hr)) <|
    .seq .any <|
    .seq .any <|
    .seq .any <|
    .seq (.optional (.list hr.expr)) <|
    .map .any fun _ _ args hargs _ _ _ _ _ _ window hwindow _ _ suffix hsuffix => ?_
  refine isCanonical_iff.2 ⟨trivial, ?_⟩
  simp only [parts, castTarget, children, List.append_nil, List.forall_mem_append,
    forall_args, forall_expr?, forall_over?]
  exact ⟨⟨hargs, hsuffix⟩, fun w hw => hwindow _ hw w rfl⟩

theorem yields_aggregate :
    (Aggregate.fields r).Yields fun a => (aggregate a).IsCanonical := by
  refine
    .seq (.optional (yields_over hr)) <|
    .seq (.optional hr.expr) <|
    .seq (.optional hr.expr) <|
    .seq (.many (yields_sortKey hr)) <|
    .seq (.many hr.expr) <|
    .seq .any <|
    .map .any fun _ _ _ _ args hargs orderBy horderBy separator hseparator filter
      hfilter window
      hwindow => ?_
  refine isCanonical_iff.2 ⟨trivial, ?_⟩
  simp only [parts, castTarget, children, List.append_nil, List.forall_mem_append,
    forall_exprs, List.forall_mem_map, forall_expr?, forall_over?]
  exact ⟨⟨⟨⟨hargs, horderBy⟩, hseparator⟩, hfilter⟩, fun w hw => hwindow _ hw w rfl⟩

/-- A data type that is read has canonical arguments. -/
theorem yields_dataType :
    (DataType.read r).Yields fun t => (dataType t).IsCanonical := by
  refine .record <|
    .seq (.many hr.expr) <|
    .seq .any <|
    .seq .any <|
    .seq .any <|
    .seq .any <|
    .seq .any <|
    .seq .any <|
    .map .any fun _ _ _ _ _ _ _ _ _ _ _ _ _ _ values hvalues => ?_
  refine isCanonical_iff.2 ⟨trivial, ?_⟩
  simpa only [parts, castTarget, children, List.append_nil, forall_exprs]
    using hvalues

theorem yields_tail :
    (Reader.record (CastTail.fields r)).Yields fun t =>
      (expr t.operand).IsCanonical :=
  .record <| .seq (.required hr.expr) <| .map .any fun _ _ _ hoperand => hoperand

theorem yields_cast : (Cast.fields r).Yields fun c => (cast c).IsCanonical := by
  refine
    .seq .any <|
    .seq .any <|
    .seq (.optional (yields_tail hr)) <|
    .seq .any <|
    .seq .any <|
    .seq (.required (yields_dataType hr)) <|
    .map (.required hr.expr) fun subject hsubject target htarget _ _ _ _ tail htail
      _ _ _ _ => ?_
  refine isCanonical_iff.2 ⟨trivial, ?_⟩
  simp only [parts, castTarget, children, List.forall_mem_append,
    List.forall_mem_cons, forall_exprs, List.forall_mem_map, Option.mem_toList]
  exact ⟨⟨hsubject, htail⟩, htarget, List.forall_mem_nil _⟩

theorem yields_extract :
    (Extract.fields r).Yields fun x => (extract x).IsCanonical :=
  .seq (.required hr.expr) <| .seq .any <| .seq .any <|
    .map .any fun _ _ _ _ _ _ _ hsource =>
    isCanonical_of_part trivial rfl hsource

theorem yields_having :
    (Reader.record (AnyValueHaving.fields r)).Yields fun a =>
      (expr a.subject).IsCanonical :=
  .record <| .seq (.required hr.expr) <| .map .any fun _ _ _ hsubject => hsubject

theorem yields_anyValue :
    (AnyValue.fields r).Yields fun a => (anyValue a).IsCanonical := by
  refine
    .seq (.optional (yields_over hr)) <|
    .seq (.optional (yields_having hr)) <|
    .seq (.required hr.expr) <|
    .map .any fun _ _ subject hsubject having hhaving window hwindow => ?_
  refine isCanonical_iff.2 ⟨trivial, ?_⟩
  simp only [parts, castTarget, children, List.append_nil, List.forall_mem_append,
    List.forall_mem_cons, forall_exprs, List.forall_mem_map, Option.mem_toList,
    forall_over?]
  exact ⟨hsubject, hhaving, fun w hw => hwindow _ hw w rfl⟩

/-! ## Expressions -/

/-- Every kind of expression is read in canonical form, given that smaller ones
are. -/
theorem yields_expr :
    (Reader.tagged (Expr.variants r)).Yields fun e => (expr e).IsCanonical := by
  apply Reader.Yields.tagged
  simp only [Expr.variants, List.forall_mem_cons]
  refine ⟨?column, ?star, ?keyword, ?literal, ?parameter, ?var, ?binary, ?unary,
    ?between, ?paren, ?list, ?function, ?aggregate, ?cast, ?extract, ?anyValue,
    ?case, ?subquery, ?collate, ?fullText, ?interval, nofun⟩
  case column | star | keyword | literal | parameter =>
    exact .map .any fun _ _ => isCanonical_of_no_part trivial rfl
  case var =>
    exact .seq .any <| .map .any fun _ _ _ _ => isCanonical_of_no_part trivial rfl
  case binary =>
    exact .seq (.required hr.expr) <| .seq (.required BinaryOp.read_yields) <|
      .map (.required hr.expr) fun _ hleft _ hop _ hright =>
        isCanonical_binary hop hleft hright
  case unary =>
    exact .seq (.required hr.expr) <| .map .any fun _ _ _ hoperand =>
      isCanonical_of_part trivial rfl hoperand
  case between =>
    exact .seq (.required hr.expr) <| .seq (.required hr.expr) <| .seq .any <|
      .map (.required hr.expr) fun _ hsubject _ _ _ hlow _ hhigh =>
        isCanonical_between hsubject hlow hhigh
  case paren =>
    exact yields_of_part (fun _ => trivial) (fun _ => rfl) (.required hr.expr)
  case list =>
    exact .map (.required (.list hr.expr)) fun _ hitems => isCanonical_list hitems
  case function =>
    exact yields_of_part (fun _ => trivial) (fun _ => rfl) (yields_call hr)
  case aggregate =>
    exact yields_of_part (fun _ => trivial) (fun _ => rfl) (yields_aggregate hr)
  case cast =>
    exact yields_of_part (fun _ => trivial) (fun _ => rfl) (yields_cast hr)
  case extract =>
    exact yields_of_part (fun _ => trivial) (fun _ => rfl) (yields_extract hr)
  case anyValue =>
    exact yields_of_part (fun _ => trivial) (fun _ => rfl) (yields_anyValue hr)
  case case =>
    exact .seq (.optional hr.expr) <|
      .seq (.required (.list (.pair hr.expr hr.expr))) <|
      .map (.optional hr.expr) fun _ hoperand _ hbranches _ hotherwise =>
        isCanonical_case hoperand hbranches hotherwise
  case subquery =>
    exact yields_of_part (fun _ => trivial) (fun _ => rfl) (.required hr.query)
  case collate =>
    exact .seq .any <| .map (.required hr.expr) fun _ hsubject _ _ =>
      isCanonical_of_part trivial rfl hsubject
  case fullText =>
    exact .seq .any <| .seq (.required hr.expr) <|
      .map .any fun _ _ _ hagainst _ _ =>
      isCanonical_of_part trivial rfl hagainst
  case interval =>
    exact .seq .any <| .map (.required hr.expr) fun _ hamount _ _ =>
      isCanonical_of_part trivial rfl hamount

/-! ## Queries -/

theorem yields_item : (SelectItem.read r).Yields fun i => (item i).IsCanonical := by
  apply Reader.Yields.tagged
  simp only [SelectItem.variants, List.forall_mem_cons]
  refine ⟨.pure ?_, .map .any ?_, .seq .any (.map (.required hr.expr) ?_), nofun⟩
  · exact isCanonical_of_no_part trivial rfl
  · exact fun _ _ => isCanonical_of_no_part trivial rfl
  · exact fun _ hvalue _ _ => isCanonical_of_part trivial rfl hvalue

theorem yields_modifier :
    (Reader.tagged (GroupModifier.variants r)).Yields fun m =>
      (modifier m).IsCanonical := by
  apply Reader.Yields.tagged
  simp only [GroupModifier.variants, List.forall_mem_cons]
  refine ⟨.pure ?_, .pure ?_, .map (.required (.list (.list hr.expr))) ?_, nofun⟩
  · exact isCanonical_of_no_part trivial rfl
  · exact isCanonical_of_no_part trivial rfl
  · intro sets hsets
    refine isCanonical_iff.2 ⟨trivial, ?_⟩
    simpa only [parts, castTarget, children, List.append_nil, forall_rows]
      using hsets

/-- The variables of an INTO are read in canonical form. -/
theorem yields_into : (Reader.record (SelectInto.fields r)).Yields fun a =>
    ∀ vars, a.target = .vars vars → ∀ e ∈ vars, (expr e).IsCanonical := by
  have htarget : (Reader.tagged (IntoTarget.variants r)).Yields fun target =>
      ∀ vars, target = .vars vars → ∀ e ∈ vars, (expr e).IsCanonical := by
    apply Reader.Yields.tagged
    simp only [IntoTarget.variants, List.forall_mem_cons]
    refine ⟨.map (.required (.list hr.expr)) ?_, .seq .any (.map .any ?_),
      .map .any ?_, .map .any ?_, nofun⟩
    · intro vars hvars _ heq
      obtain rfl := IntoTarget.vars.inj heq
      exact hvars
    all_goals intros; contradiction
  exact .record <| .seq (.required htarget) <| .map .any fun _ _ _ h => h

theorem yields_table :
    (Reader.tagged (TableRef.variants r)).Yields fun t =>
      (table t).IsCanonical := by
  apply Reader.Yields.tagged
  simp only [TableRef.variants, List.forall_mem_cons]
  refine ⟨?named, ?subquery, ?function, ?values, ?paren, nofun⟩
  case named =>
    exact .seq .any <| .seq .any <| .map .any fun _ _ _ _ _ _ =>
      isCanonical_of_no_part trivial rfl
  case subquery =>
    exact .seq .any <| .map (.required hr.query) fun _ hquery _ _ =>
      isCanonical_of_part trivial rfl hquery
  case function =>
    exact .seq .any <| .map (.required (.record (yields_call hr)))
      fun _ hcall _ _ =>
      isCanonical_of_part trivial rfl hcall
  case values =>
    refine .seq .any <| .seq .any <| .map (.required (.list (.list hr.expr)))
      fun rows hrows _ _ _ _ => ?_
    refine isCanonical_iff.2 ⟨trivial, ?_⟩
    simpa only [parts, castTarget, children, List.append_nil, forall_rows]
      using hrows
  case paren =>
    exact .map (.required hr.table) fun _ htable =>
      isCanonical_of_part trivial rfl htable

theorem yields_join : (Join.read r).Yields fun j => (join j).IsCanonical := by
  refine .record <| .seq .any <| .seq (.optional hr.expr) <|
    .seq (.required hr.table) <|
    .map .any fun _ _ table htable condition hcondition _ _ => ?_
  refine isCanonical_iff.2 ⟨trivial, ?_⟩
  simp only [parts, castTarget, children, List.append_nil, List.forall_mem_cons,
    forall_expr?]
  exact ⟨htable, hcondition⟩

theorem yields_namedWindow :
    (Reader.record (NamedWindow.fields r)).Yields fun w =>
      (window w.window).IsCanonical :=
  .record <| .seq (.required (.record (yields_window hr))) <|
    .map .any fun _ _ _ hwindow => hwindow

/-- All parts of a SELECT are read in canonical form. -/
theorem yields_select :
    (Select.fields r).Yields fun s => (select s).IsCanonical := by
  refine
    .seq .any <|
    .seq (.optional hr.expr) <|
    .seq (.optional hr.expr) <|
    .seq (.many (yields_sortKey hr)) <|
    .seq (.many (yields_namedWindow hr)) <|
    .seq (.optional hr.expr) <|
    .seq (.many (yields_modifier hr)) <|
    .seq (.many hr.expr) <|
    .seq (.optional hr.expr) <|
    .seq (.many (yields_join hr)) <|
    .seq (.many hr.table) <|
    .seq (.optional (yields_into hr)) <|
    .seq (.many (yields_item hr)) <|
    .seq .any <|
    .seq (.many hr.expr) <|
    .map .any fun _ _ distinctOn hdistinctOn _ _ items hitems into hinto tables
      htables joins hjoins condition hcondition groupBy hgroupBy modifiers
      hmodifiers having hhaving windows hwindows orderBy horderBy limit hlimit
      offset hoffset _ _ => ?_
  refine isCanonical_iff.2 ⟨trivial, ?_⟩
  simp only [parts, castTarget, children, ofSelect, List.append_nil,
    List.forall_mem_append, forall_exprs, forall_expr?, forall_into?,
    List.forall_mem_map]
  exact ⟨⟨⟨⟨⟨⟨⟨⟨⟨⟨⟨⟨hdistinctOn, hitems⟩, hinto⟩, htables⟩, hjoins⟩, hcondition⟩,
    hgroupBy⟩, hmodifiers⟩, hhaving⟩, hwindows⟩, horderBy⟩, hlimit⟩, hoffset⟩

theorem yields_body :
    (Reader.tagged (QueryBody.variants r)).Yields fun b =>
      (body b).IsCanonical := by
  apply Reader.Yields.tagged
  simp only [QueryBody.variants, List.forall_mem_cons]
  refine ⟨.map (yields_select hr) ?_,
    .seq (.required hr.body) (.seq .any (.map (.required hr.body) ?_)), nofun⟩
  · exact fun _ hselect => isCanonical_of_part trivial rfl hselect
  · intro left hleft _ _ right hright
    refine isCanonical_iff.2 ⟨trivial, List.forall_mem_cons.2 ⟨hleft, ?_⟩⟩
    exact List.forall_mem_singleton.2 hright

theorem yields_cte : (Reader.record (Cte.fields r)).Yields fun c =>
    (cte c).IsCanonical :=
  .record <| .seq (.required hr.query) <| .seq .any <| .seq .any <|
    .map .any fun _ _ _ _ _ _ _ hquery => isCanonical_of_part trivial rfl hquery

theorem yields_with :
    (With.read r).Yields fun a => ∀ c ∈ a.tables, (cte c).IsCanonical :=
  .record <| .seq (.required (.list (yields_cte hr))) <|
    .map .any fun _ _ _ htables => htables

theorem yields_query : (Query.fields r).Yields fun q => (query q).IsCanonical := by
  refine
    .seq (.optional hr.expr) <|
    .seq (.optional hr.expr) <|
    .seq (.many (yields_sortKey hr)) <|
    .seq (.required hr.body) <|
    .map (.optional (yields_with hr)) fun ctes hctes body hbody orderBy horderBy
      limit hlimit
      offset hoffset => ?_
  refine isCanonical_iff.2 ⟨trivial, ?_⟩
  simp only [parts, castTarget, children, List.append_nil, List.forall_mem_append,
    List.forall_mem_cons, forall_expr?, forall_with?, List.forall_mem_map]
  exact ⟨hctes, hbody, ⟨horderBy, hlimit⟩, hoffset⟩

/-! ## Parts of changes and of tables -/

theorem yields_assignment :
    (Assignment.read r).Yields fun a => (assignment a).IsCanonical :=
  .record <| .seq .any <| .seq (.required hr.expr) <| .seq .any <|
    .map .any fun _ _ _ _ _ hvalue _ _ => isCanonical_of_part trivial rfl hvalue

/-- The rows or the query that an INSERT takes are read in canonical form. -/
theorem yields_source : (Reader.tagged (RowSource.variants r)).Yields fun s =>
    ∀ m ∈ ofSource s, m.IsCanonical := by
  apply Reader.Yields.tagged
  simp only [RowSource.variants, List.forall_mem_cons]
  refine ⟨.map (.required (.list (.list hr.expr))) ?_, .map (.required hr.query) ?_,
    .map (.required (.list (yields_assignment hr))) ?_, nofun⟩
  · exact fun rows hrows => forall_rows.2 hrows
  · exact fun q hquery => List.forall_mem_singleton.2 hquery
  · exact fun as has => List.forall_mem_map.2 has

/-- What a conflict clause assigns and asks is read in canonical form. -/
theorem yields_conflict : (Reader.record (ConflictClause.fields r)).Yields fun c =>
    ∀ m ∈ conflict? (some c), m.IsCanonical := by
  have haction : (Reader.tagged (ConflictAction.variants r)).Yields fun a =>
      ∀ as condition, a = .doUpdate as condition →
        (∀ a ∈ as, (assignment a).IsCanonical) ∧
          ∀ e ∈ condition, (expr e).IsCanonical := by
    apply Reader.Yields.tagged
    simp only [ConflictAction.variants, List.forall_mem_cons]
    refine ⟨.pure ?_, .seq (.optional hr.expr)
      (.map (.required (.list (yields_assignment hr))) ?_), nofun⟩
    · exact fun _ _ => nofun
    · intro as has condition hcondition _ _ heq
      obtain ⟨rfl, rfl⟩ := ConflictAction.doUpdate.inj heq
      exact ⟨has, hcondition⟩
  refine .record <| .seq (.optional haction) <| .seq .any <|
    .map .any fun _ _ _ _ action h => ?_
  rcases action with _ | _ | ⟨as, condition⟩
  · exact List.forall_mem_nil _
  · exact List.forall_mem_nil _
  · simp only [conflict?, List.forall_mem_append, List.forall_mem_map, forall_expr?]
    exact h _ rfl as condition rfl

theorem yields_columnDef :
    (ColumnDef.fields r).Yields fun c => (columnDef c).IsCanonical := by
  have hoptions : (Reader.record (ColumnOptions.fields r)).Yields fun o =>
      (∀ e ∈ o.default, (expr e).IsCanonical) ∧
        (∀ e ∈ o.onUpdate, (expr e).IsCanonical) ∧
        ∀ e ∈ o.check, (expr e).IsCanonical :=
    .record <|
      .seq .any <|
      .seq (.optional hr.expr) <|
      .seq .any <| .seq .any <| .seq .any <| .seq .any <| .seq .any <| .seq .any <|
      .seq (.optional hr.expr) <|
      .seq (.optional hr.expr) <|
      .map .any fun _ _ _ hdefault _ honUpdate _ _ _ _ _ _ _ _ _ _ _ _ _
        hcheck _ _ =>
        ⟨hdefault, honUpdate, hcheck⟩
  refine .seq (.withDefault ⟨nofun, nofun, nofun⟩ hoptions) <|
    .seq (.optional (yields_dataType hr)) <|
    .map .any fun _ _ type htype options h => ?_
  obtain ⟨hdefault, honUpdate, hcheck⟩ := h
  refine isCanonical_iff.2 ⟨trivial, ?_⟩
  simp only [parts, castTarget, children, List.append_nil, List.forall_mem_append,
    List.forall_mem_map, Option.mem_toList, forall_expr?]
  exact ⟨⟨⟨htype, hdefault⟩, honUpdate⟩, hcheck⟩

theorem yields_constraint :
    (TableConstraint.read r).Yields fun c => (constraint c).IsCanonical := by
  apply Reader.Yields.tagged
  simp only [TableConstraint.variants, List.forall_mem_cons]
  refine ⟨?primaryKey, ?unique, ?foreignKey, ?check, nofun⟩
  case primaryKey | foreignKey =>
    exact .seq .any <| .seq .any <| .map .any fun _ _ _ _ _ _ =>
      isCanonical_of_no_part trivial rfl
  case unique =>
    exact .seq .any <| .seq .any <| .seq .any <| .seq .any <|
      .map .any fun _ _ _ _ _ _ _ _ _ _ =>
      isCanonical_of_no_part trivial rfl
  case check =>
    exact .seq (.required hr.expr) <| .map .any fun _ _ _ hcondition =>
      isCanonical_of_part trivial rfl hcondition

theorem yields_element :
    (TableElement.read r).Yields fun e => (ofElement e).IsCanonical := by
  apply Reader.Yields.tagged
  simp only [TableElement.variants, List.forall_mem_cons]
  refine ⟨.map (yields_columnDef hr) ?_, .map (.required (yields_constraint hr)) ?_,
    .map .any ?_, nofun⟩
  · exact fun _ hcolumn => hcolumn
  · exact fun _ hconstraint => hconstraint
  · exact fun _ _ => isCanonical_of_no_part trivial rfl

theorem yields_action : (Reader.tagged (AlterAction.variants r)).Yields fun a =>
    ∀ m ∈ ofAction a, m.IsCanonical := by
  have hcolumn : (ColumnDef.read r).Yields fun c => (columnDef c).IsCanonical :=
    .record (yields_columnDef hr)
  apply Reader.Yields.tagged
  simp only [AlterAction.variants, List.forall_mem_cons]
  refine ⟨?addColumn, ?dropColumn, ?modifyColumn, ?changeColumn, ?renameColumn,
    ?addConstraint, ?addIndex, ?dropIndex, ?dropPrimaryKey, ?renameTable,
    ?setOption, nofun⟩
  case addColumn | modifyColumn =>
    exact .seq (.required hcolumn) <| .map .any fun _ _ _ hc =>
      List.forall_mem_singleton.2 hc
  case changeColumn =>
    exact .seq (.required hcolumn) <| .seq .any <| .map .any fun _ _ _ _ _ hc =>
      List.forall_mem_singleton.2 hc
  case addConstraint =>
    exact .map (.required (yields_constraint hr)) fun _ hc =>
      List.forall_mem_singleton.2 hc
  case addIndex =>
    exact .map .any fun i _ =>
      List.forall_mem_singleton.2
        (isCanonical_of_no_part (n := index i) trivial rfl)
  case dropColumn | renameColumn =>
    exact .seq .any <| .map .any fun _ _ _ _ => List.forall_mem_nil _
  case dropIndex | renameTable | setOption =>
    exact .map .any fun _ _ => List.forall_mem_nil _
  case dropPrimaryKey => exact .pure (List.forall_mem_nil _)

/-! ## Statements -/

theorem yields_insert : (Insert.fields r).Yields fun i =>
    ∀ m ∈ ofStatement (.insert i), m.IsCanonical := by
  refine
    .seq (.many (yields_item hr)) <|
    .seq (.optional (yields_conflict hr)) <|
    .seq (.required (yields_source hr)) <|
    .seq .any <|
    .seq (.required hr.table) <|
    .seq .any <|
    .seq .any <|
    .map .any fun _ _ _ _ _ _ table htable _ _ source hsource conflict hconflict
      returning hreturning => ?_
  simp only [ofStatement, List.forall_mem_cons, List.forall_mem_append,
    List.forall_mem_map]
  refine ⟨htable, ⟨hsource, ?_⟩, hreturning⟩
  cases conflict with
  | none => exact List.forall_mem_nil _
  | some clause => exact hconflict clause rfl

theorem yields_update : (Update.fields r).Yields fun u =>
    ∀ m ∈ ofStatement (.update u), m.IsCanonical := by
  refine
    .seq (.many (yields_item hr)) <|
    .seq (.optional hr.expr) <|
    .seq (.many (yields_sortKey hr)) <|
    .seq (.optional hr.expr) <|
    .seq (.many hr.table) <|
    .seq (.required (.list (yields_assignment hr))) <|
    .seq (.many (yields_join hr)) <|
    .seq (.required hr.table) <|
    .seq .any <|
    .map (.optional (yields_with hr)) fun ctes hctes _ _ table htable joins hjoins
      assignments hassignments tables htables condition hcondition orderBy horderBy
      limit hlimit returning hreturning => ?_
  simp only [ofStatement, List.forall_mem_cons, List.forall_mem_append,
    List.forall_mem_map, forall_with?, forall_expr?]
  exact ⟨hctes, htable,
    ⟨⟨⟨⟨⟨hjoins, hassignments⟩, htables⟩, hcondition⟩, horderBy⟩, hlimit⟩,
    hreturning⟩

theorem yields_delete : (Delete.fields r).Yields fun u =>
    ∀ m ∈ ofStatement (.delete u), m.IsCanonical := by
  refine
    .seq (.many (yields_item hr)) <|
    .seq (.optional hr.expr) <|
    .seq (.many (yields_sortKey hr)) <|
    .seq (.optional hr.expr) <|
    .seq (.many hr.table) <|
    .seq (.many (yields_join hr)) <|
    .seq (.required (.list hr.table)) <|
    .seq .any <|
    .map (.optional (yields_with hr)) fun ctes hctes _ _ tables htables joins hjoins
      usingTables husing condition hcondition orderBy horderBy limit hlimit
      returning hreturning => ?_
  simp only [ofStatement, List.forall_mem_append, List.forall_mem_map, forall_with?,
    forall_expr?]
  exact ⟨⟨⟨⟨⟨⟨⟨hctes, htables⟩, hjoins⟩, husing⟩, hcondition⟩, horderBy⟩, hlimit⟩,
    hreturning⟩

theorem yields_createTable : (CreateTable.fields r).Yields fun t =>
    ∀ m ∈ ofStatement (.createTable t), m.IsCanonical := by
  refine
    .seq .any <|
    .seq (.optional hr.query) <|
    .seq .any <|
    .seq (.many (yields_element hr)) <|
    .seq .any <|
    .seq .any <|
    .map .any fun _ _ _ _ _ _ elements helements _ _ q hquery _ _ => ?_
  simp only [ofStatement, List.forall_mem_append, List.forall_mem_map,
    Option.mem_toList]
  exact ⟨helements, hquery⟩

theorem yields_createView : (CreateView.fields r).Yields fun v =>
    ∀ m ∈ ofStatement (.createView v), m.IsCanonical :=
  .seq (.required hr.query) <| .seq .any <| .seq .any <|
    .map .any fun _ _ _ _ _ _ _ hquery =>
    List.forall_mem_singleton.2 hquery

theorem yields_alterTable : (AlterTable.fields r).Yields fun t =>
    ∀ m ∈ ofStatement (.alterTable t), m.IsCanonical :=
  .seq (.required (.list (yields_action hr))) <| .map .any fun _ _ _ hactions =>
    List.forall_mem_flatMap.2 hactions

theorem yields_attach : (Attach.fields r).Yields fun a =>
    ∀ m ∈ ofStatement (.attach a), m.IsCanonical :=
  .seq .any <| .map (.required hr.expr) fun _ hfile _ _ =>
    List.forall_mem_singleton.2 hfile

/-- Every kind of statement is read in canonical form. -/
theorem yields_statement :
    (Statement.read r).Yields fun s => (statement s).IsCanonical := by
  have closed : ∀ s, (∀ m ∈ ofStatement s, m.IsCanonical) →
      (statement s).IsCanonical := by
    intro s h
    refine isCanonical_iff.2 ⟨trivial, ?_⟩
    simpa only [parts, castTarget, children, List.append_nil] using h
  apply Reader.Yields.tagged
  simp only [Statement.variants, List.forall_mem_cons]
  refine ⟨?query, ?insert, ?update, ?delete, ?createTable, ?createDatabase,
    ?createView, ?createIndex, ?alterTable, ?drop, ?list, ?analyze, ?attach,
    List.forall_mem_nil _⟩
  case query =>
    exact .map (yields_query hr) fun _ hq =>
      closed _ (List.forall_mem_singleton.2 hq)
  case insert => exact .map (yields_insert hr) fun i hi => closed (.insert i) hi
  case update => exact .map (yields_update hr) fun u hu => closed (.update u) hu
  case delete => exact .map (yields_delete hr) fun u hu => closed (.delete u) hu
  case createTable =>
    exact .map (yields_createTable hr) fun t ht => closed (.createTable t) ht
  case createView =>
    exact .map (yields_createView hr) fun v hv => closed (.createView v) hv
  case alterTable =>
    exact .map (yields_alterTable hr) fun t ht => closed (.alterTable t) ht
  case attach => exact .map (yields_attach hr) fun a ha => closed (.attach a) ha
  case createDatabase | createIndex | drop | list | analyze =>
    exact .map .any fun _ _ => isCanonical_of_no_part trivial rfl

end Node

/-! ## All depths -/

/-- Readers that refuse everything yield nothing that is not canonical. -/
theorem Form.Readers.none_yieldCanonical : none.YieldCanonical :=
  ⟨nofun, nofun, nofun, nofun⟩

/-- One level more of nesting keeps what is read canonical. -/
theorem Form.Readers.YieldCanonical.above {r : Readers} (hr : r.YieldCanonical) :
    r.above.YieldCanonical where
  expr := Node.yields_expr hr
  table := Node.yields_table hr
  body := Node.yields_body hr
  query := .record (Node.yields_query hr)

/-- What is read to any depth is canonical, by induction on the depth. -/
theorem Form.Readers.upTo_yieldCanonical (d : Nat) : (upTo d).YieldCanonical := by
  induction d with
  | zero => exact none_yieldCanonical
  | succ d ih => exact ih.above

/-! ## What is decoded is canonical -/

/-- An expression that is read from JSON is canonical. -/
theorem Expr.isCanonical_of_ofJson {j : Json} {e : Expr} (h : ofJson j = .ok e) :
    (Node.expr e).IsCanonical :=
  (Readers.upTo_yieldCanonical j.depth).expr false j e h

/-- A query that is read from JSON is canonical. -/
theorem Query.isCanonical_of_ofJson {j : Json} {q : Query} (h : ofJson j = .ok q) :
    (Node.query q).IsCanonical :=
  (Readers.upTo_yieldCanonical j.depth).query false j q h

/-- A statement that is read from JSON is canonical. -/
theorem Statement.isCanonical_of_ofJson {j : Json} {s : Statement}
    (h : ofJson j = .ok s) : (Node.statement s).IsCanonical :=
  Node.yields_statement (Readers.upTo_yieldCanonical j.depth) false j s h

end SqlPrinter
