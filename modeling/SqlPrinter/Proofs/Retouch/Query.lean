/-
A retouched expression or query looks as it did, if the parts of it do.  Only sort
keys are left open: a retouch may put several in the place of one.
-/
import SqlPrinter.Proofs.Effect
import SqlPrinter.Proofs.Retouch.Leaf

namespace SqlPrinter

open Doc (effects effect?)

variable {σ τ : Settings}

/-! ## Clauses -/

namespace Layout

variable {ds es : List Doc} {d d' e e' : Doc} {o p : Option Doc}

theorem ite_congr (condition : Bool) (h : d.effect σ = e.effect τ)
    (h' : d'.effect σ = e'.effect τ) :
    (if condition then d else d').effect σ =
      (if condition then e else e').effect τ := by
  cases condition
  · exact h'
  · exact h

theorem isEmpty_eq_of_effects (h : effects σ ds = effects τ es) :
    ds.isEmpty = es.isEmpty := by
  cases ds <;> cases es <;> simp_all

theorem orderBy_congr (hempty : ds.isEmpty = es.isEmpty)
    (hkeys : (Doc.commas ds).effect σ = (Doc.commas es).effect τ) :
    (orderBy ds).effect σ = (orderBy es).effect τ := by
  unfold orderBy
  rw [hempty]
  split <;> simp only [Doc.effect_append, Doc.effect_text, Doc.effect_empty, hkeys]

theorem returning_congr (h : effects σ ds = effects τ es) :
    (returning ds).effect σ = (returning es).effect τ := by
  unfold returning
  rw [isEmpty_eq_of_effects h]
  split <;> simp [h]

theorem tables_congr {ds' es' : List Doc} (h : effects σ ds = effects τ es)
    (hjoins : effects σ ds' = effects τ es') :
    (tables ds ds').effect σ = (tables es es').effect τ := by
  have hmap (settings : Settings) (js : List Doc) :
      effects settings (js.map (.text " " ++ ·)) =
      (effects settings js).map (.text " " ++ ·) := by
    simp [effects, Function.comp_def]
  simp [tables, h, hmap, hjoins]

theorem valueRow_congr (h : effects σ ds = effects τ es) :
    (valueRow ds).effect σ = (valueRow es).effect τ := by
  simp [valueRow, h]

theorem castTail_congr (operator : String) (h : d.effect σ = e.effect τ) :
    (castTail operator d).effect σ = (castTail operator e).effect τ := by
  unfold castTail Doc.require
  split
  · simp [h]
  · simp only [Doc.effect_append, h]
    rfl

/-- A word that may be missing prints as an empty one. -/
theorem effect_optional_word (settings : Settings) (o : Option String) :
    (Doc.optional (o.map Doc.word)).effect settings =
      .text (o.getD "").toUpper := by
  have hempty : "".toUpper = "" := by simp
  cases o <;> simp [Doc.optional, Doc.word, hempty]

theorem effect_optional_verbatim (settings : Settings) (o : Option String) :
    (Doc.optional (o.map Doc.verbatim)).effect settings = .text (o.getD "") := by
  cases o <;> simp [Doc.optional]

variable (h : σ.Agree τ)

include h

theorem limit_congr {q r : Option Doc} (hcount : effect? σ o = effect? τ p)
    (hoffset : effect? σ q = effect? τ r) :
    (limit σ o q).effect σ = (limit τ p r).effect τ := by
  rw [h.limit]
  unfold limit
  cases τ.mysqlLimit <;> cases τ.dialect.isMysqlFamily <;> cases o <;> cases p <;>
    cases q <;> cases r <;> simp_all

theorem groupBy_congr (modifiers : List GroupModifier)
    (hkeys : effects σ ds = effects τ es) (hsets : effect? σ o = effect? τ p) :
    (groupBy σ ds modifiers o).effect σ = (groupBy τ es modifiers p).effect τ := by
  cases o with
  | some d =>
      cases p with
      | none => simp at hsets
      | some e => simp [groupBy, Option.some.inj hsets]
  | none =>
      cases p with
      | some e => simp at hsets
      | none =>
          simp only [groupBy, isEmpty_eq_of_effects hkeys, h.dialect]
          repeat' split
          all_goals simp [hkeys]

theorem joinCondition_congr (kind : JoinKind) (columns : Option (List String))
    (hcondition : effect? σ o = effect? τ p) :
    (joinCondition kind o columns).effect σ =
      (joinCondition kind p columns).effect τ := by
  unfold joinCondition
  split
  · cases o with
    | some d =>
        cases p with
        | none => simp at hcondition
        | some e => simp [Option.some.inj hcondition]
    | none =>
        cases p with
        | some e => simp at hcondition
        | none => cases columns <;> simp [h.effect]
  · simp

theorem callHead_congr (name : String) (separator : Option String)
    (argsParentheses : Bool) (hargs : effects σ ds = effects τ es) :
    (callHead name separator argsParentheses ds).effect σ =
      (callHead name separator argsParentheses es).effect τ := by
  have hseparator : (argSeparator name separator).effect σ =
      (argSeparator name separator).effect τ := h.effect (by simp)
  cases argsParentheses <;> simp [callHead, hargs, hseparator]

theorem call_congr {os ps : Option (List Doc)} {window window' suffix suffix' : Doc}
    (name : String) (argsParentheses : Bool) (separator : Option String)
    (parentheses : Bool) (collate : Option KeywordValue)
    (hargs : os.map (effects σ) = ps.map (effects τ))
    (hwindow : window.effect σ = window'.effect τ)
    (hsuffix : suffix.effect σ = suffix'.effect τ) :
    (call name os argsParentheses separator parentheses window collate
      suffix).effect σ =
      (call name ps argsParentheses separator parentheses window' collate
        suffix').effect τ := by
  have hname : (Doc.requireText name "function" "name").effect σ =
      (Doc.requireText name "function" "name").effect τ := h.effect (by simp)
  have hcollate : (Doc.optional (collate.map KeywordValue.doc)).effect σ =
      (Doc.optional (collate.map KeywordValue.doc)).effect τ := by
    cases collate <;> simp [h.effect]
  cases os with
  | none =>
      obtain rfl : ps = none := by simpa using hargs.symm
      simp [call, hname, hwindow]
  | some ds =>
      obtain ⟨es, rfl, hes⟩ : ∃ es, ps = some es ∧ effects τ es = effects σ ds := by
        simpa using hargs.symm
      have hhead := callHead_congr h name separator argsParentheses hes.symm
      have hbody :
          (Doc.fragments " " [callHead name separator argsParentheses ds,
            suffix]).effect σ =
            (Doc.fragments " " [callHead name separator argsParentheses es,
              suffix']).effect τ := by
        simp [hhead, hsuffix]
      have hcall {d e : Doc} (hde : d.effect σ = e.effect τ) :
          (Doc.requireText name "function" "name" ++
            .fragments " " [d, .optional (collate.map KeywordValue.doc),
              window]).effect σ =
          (Doc.requireText name "function" "name" ++
            .fragments " " [e, .optional (collate.map KeywordValue.doc),
              window']).effect τ := by
        simp only [Doc.effect_append, Doc.effect_fragments, Doc.effects_cons,
          Doc.effects_nil, hname, hcollate, hwindow, hde]
      cases parentheses with
      | false => exact hcall hbody
      | true =>
          have hparens {d e : Doc} (hde : d.effect σ = e.effect τ) :
              d.parens.effect σ = e.parens.effect τ := by
            rw [Doc.effect_parens, hde, Doc.effect_parens]
          exact hcall (hparens hbody)

theorem dataType_congr (type : DataType) (hvalues : effects σ ds = effects τ es) :
    (dataType type ds).effect σ = (dataType type es).effect τ := by
  have hsize : (typeSize type ds).effect σ = (typeSize type es).effect τ := by
    unfold typeSize
    rw [isEmpty_eq_of_effects hvalues]
    split
    · simp [hvalues]
    · apply h.effect
      repeat' split
      all_goals simp
  change Doc.effect σ (_ ++ .fragments " " [_ ++ typeSize type ds ++ _, _]) =
    Doc.effect τ (_ ++ .fragments " " [_ ++ typeSize type es ++ _, _])
  simp [hsize, h.effect]

theorem cast_congr {tail tail' : Doc} (target : DataType) (form : CastForm)
    (keyword : Option String) (rename : Option String)
    (collate : Option KeywordValue) (hsubject : d.effect σ = e.effect τ)
    (htail : tail.effect σ = tail'.effect τ) :
    (cast d target form keyword tail rename collate).effect σ =
      (cast e target form keyword tail' rename collate).effect τ := by
  have htype : (castType target).effect σ = (castType target).effect τ :=
    h.effect (by simp [castType])
  have hcollate : (Doc.clause " " (collate.map KeywordValue.doc)).effect σ =
      (Doc.clause " " (collate.map KeywordValue.doc)).effect τ := by
    cases collate <;> simp [h.effect]
  cases form <;>
    simp only [cast, Doc.effect_append, Doc.effect_parens, Doc.effect_text,
      hsubject, htail, htype, hcollate] <;>
    simp [h.effect]

end Layout

/-! ## Nodes -/

namespace Retouch

/-- What a node is retouched to. -/
def nodes (ρ : Retouch) : Node → List Node
  | .expr e => [.expr (ρ.expr e)]
  | .call c => [.call (ρ.call c)]
  | .aggregate a => [.aggregate (ρ.aggregate a)]
  | .dataType t => [.dataType (ρ.dataType t)]
  | .cast c => [.cast (ρ.cast c)]
  | .extract x => [.extract (ρ.extract x)]
  | .anyValue a => [.anyValue (ρ.anyValue a)]
  | .window w => [.window (ρ.window w)]
  | .bound b => [.bound (ρ.bound b)]
  | .sortKey k => (ρ.sortKey k).map .sortKey
  | .query q => [.query (ρ.query q)]
  | .body b => [.body (ρ.body b)]
  | .select s => [.select (ρ.select s)]
  | .item i => [.item (ρ.item i)]
  | .modifier m => [.modifier (ρ.modifier m)]
  | .table t => [.table (ρ.table t)]
  | .join j => [.join (ρ.join j)]
  | .cte c => [.cte (ρ.cte c)]
  | .assignment a => [.assignment (ρ.assignment a)]
  | .columnDef c => [.columnDef (ρ.columnDef c)]
  | .constraint c => [.constraint (ρ.constraint c)]
  | .index i => [.index i]
  | .statement s => [.statement (ρ.statement s)]

/-- What a node is retouched to looks under some settings as the node itself does
under others. -/
def Keeps (ρ : Retouch) (σ τ : Settings) (n : Node) : Prop :=
  (Doc.commas ((ρ.nodes n).map (Node.doc σ))).effect σ = (n.doc τ).effect τ

variable {ρ : Retouch}

theorem keeps_of_nodes {m n : Node} (hm : ρ.nodes n = [m])
    (hdoc : (m.doc σ).effect σ = (n.doc τ).effect τ) : ρ.Keeps σ τ n := by
  simp [Keeps, hm, hdoc]

theorem Keeps.doc {m n : Node} (h : ρ.Keeps σ τ n) (hm : ρ.nodes n = [m]) :
    (m.doc σ).effect σ = (n.doc τ).effect τ := by
  simpa [Keeps, hm] using h

/-! ### Lists of parts -/

/-- The layouts of a list, if each of its members is retouched to one node. -/
theorem effects_list {α : Type} {g : α → Node} {r : α → α}
    {L : Settings → List α → List Doc} (hnil : ∀ settings, L settings [] = [])
    (hcons : ∀ settings a as,
      L settings (a :: as) = (g a).doc settings :: L settings as)
    (hr : ∀ a, ρ.nodes (g a) = [g (r a)]) {as : List α}
    (has : ∀ n ∈ as.map g, ρ.Keeps σ τ n) :
    effects σ (L σ (as.map r)) = effects τ (L τ as) := by
  induction as with
  | nil => simp [hnil]
  | cons a as ih =>
      obtain ⟨ha, has⟩ := List.forall_mem_cons.1 has
      simp [hcons, ha.doc (hr a), ih has]

theorem effects_exprs {es : List Expr} (h : ∀ n ∈ Node.exprs es, ρ.Keeps σ τ n) :
    effects σ (Layout.exprs σ (es.map ρ.expr)) =
      effects τ (Layout.exprs τ es) :=
  effects_list (fun _ => rfl) (fun _ _ _ => rfl) (fun _ => rfl) h

theorem effect?_expr? {o : Option Expr} (h : ∀ n ∈ Node.expr? o, ρ.Keeps σ τ n) :
    effect? σ (Layout.expr? σ (o.map ρ.expr)) = effect? τ (Layout.expr? τ o) := by
  cases o with
  | none => simp [Layout.expr?]
  | some e => exact congrArg some ((h _ List.mem_cons_self).doc rfl)

/-- Rows of expressions, each laid out in one way. -/
theorem effects_rows {g : List Doc → Doc}
    (hg : ∀ ds es, effects σ ds = effects τ es → (g ds).effect σ = (g es).effect τ)
    {rs : List (List Expr)} (h : ∀ n ∈ Node.exprs rs.flatten, ρ.Keeps σ τ n) :
    effects σ ((Layout.rows σ (rs.map (·.map ρ.expr))).map g) =
      effects τ ((Layout.rows τ rs).map g) := by
  induction rs with
  | nil => simp [Layout.rows]
  | cons r rs ih =>
      simp only [Node.exprs, List.flatten_cons, List.map_append,
        List.forall_mem_append] at h
      simp [Layout.rows, hg _ _ (effects_exprs h.1), ih h.2]

theorem effects_branches {bs : List (Expr × Expr)}
    (h : ∀ n ∈ Node.branches bs, ρ.Keeps σ τ n) :
    effects σ (Layout.caseBranches σ (bs.map fun b => (ρ.expr b.1, ρ.expr b.2))) =
      effects τ (Layout.caseBranches τ bs) := by
  induction bs with
  | nil => simp [Layout.caseBranches]
  | cons b bs ih =>
      simp only [Node.branches, List.flatMap_cons, List.forall_mem_append,
        List.forall_mem_cons] at h
      obtain ⟨⟨hcondition, hvalue, -⟩, hbs⟩ := h
      have hfirst := hcondition.doc rfl
      have hsecond := hvalue.doc rfl
      simp only [Node.doc] at hfirst hsecond
      simp [Layout.caseBranches, hfirst, hsecond, ih hbs]

theorem orderItems_eq (settings : Settings) (ks : List OrderItem) :
    Layout.orderItems settings ks = (ks.map .sortKey).map (Node.doc settings) := by
  induction ks with
  | nil => rfl
  | cons k ks ih =>
      cases k
      simp [Layout.orderItems, ih, Node.doc]

/-- Sort keys with commas between them, however many stand in the place of each. -/
theorem effect_sortKeys {ks : List OrderItem}
    (h : ∀ n ∈ ks.map .sortKey, ρ.Keeps σ τ n) :
    (Doc.commas (Layout.orderItems σ (ks.flatMap ρ.sortKey))).effect σ =
      (Doc.commas (Layout.orderItems τ ks)).effect τ := by
  simp only [orderItems_eq, Doc.effect_commas]
  induction ks with
  | nil => simp
  | cons k ks ih =>
      obtain ⟨hk, hks⟩ := List.forall_mem_cons.1 h
      have htail := ih hks
      simp only [Keeps, nodes, Doc.effect_commas] at hk
      have hne (k : OrderItem) : ρ.sortKey k ≠ [] := ρ.keys_ne_nil _
      cases ks with
      | nil => simpa [Effect.joined_singleton] using hk
      | cons k' ks =>
          have hhead : effects σ (((ρ.sortKey k).map .sortKey).map (Node.doc σ)) ≠
              [] := by
            simp [effects, hne]
          have hrest : effects σ ((((k' :: ks).flatMap ρ.sortKey).map .sortKey).map
              (Node.doc σ)) ≠ [] := by
            simp [effects, hne]
          rw [List.flatMap_cons, List.map_append, List.map_append,
            Doc.effects_append, Effect.joined_append hhead hrest, hk, htail]
          simp [Effect.joined, Effect.concat, Effect.append_assoc]

theorem orderBy_sortKeys {ks : List OrderItem}
    (h : ∀ n ∈ ks.map .sortKey, ρ.Keeps σ τ n) :
    (Layout.orderBy (Layout.orderItems σ (ks.flatMap ρ.sortKey))).effect σ =
      (Layout.orderBy (Layout.orderItems τ ks)).effect τ := by
  refine Layout.orderBy_congr ?_ (effect_sortKeys h)
  rw [orderItems_eq, orderItems_eq, List.isEmpty_map, List.isEmpty_map,
    isEmpty_flatMap_sortKey, List.isEmpty_map, List.isEmpty_map]

/-! ### Kinds of nodes -/

/-- Pieces that are dropped if they are empty. -/
theorem effect_optional_word? (o : Option String) :
    (Doc.optional ((ρ.word? o).map Doc.word)).effect σ =
      (Doc.optional (o.map Doc.word)).effect τ := by
  rw [Layout.effect_optional_word, Layout.effect_optional_word, toUpper_getD_word?]

theorem effect_optional_text (o : Option String) :
    (Doc.optional ((ρ.text o).map Doc.verbatim)).effect σ =
      (Doc.optional (o.map Doc.verbatim)).effect τ := by
  rw [Layout.effect_optional_verbatim, Layout.effect_optional_verbatim, getD_text]

theorem keeps_bound {b : FrameBound}
    (hparts : ∀ m ∈ (Node.bound b).children, ρ.Keeps σ τ m) :
    ρ.Keeps σ τ (.bound b) := by
  refine keeps_of_nodes rfl ?_
  cases b with
  | preceding e | following e =>
      have he := (hparts _ List.mem_cons_self).doc rfl
      simp only [Node.doc] at he
      simp [Node.doc, bound, Layout.frameBound, he]
  | _ => simp [Node.doc, bound, Layout.frameBound]

theorem effect_frame? {o : Option WindowFrame}
    (hparts : ∀ m ∈ Node.frame? o, ρ.Keeps σ τ m) :
    (Layout.windowFrame σ (ρ.frame? o)).effect σ =
      (Layout.windowFrame τ o).effect τ := by
  rcases o with _ | ⟨units, first, last⟩
  · simp [frame?, Layout.windowFrame]
  · simp only [Node.frame?, List.forall_mem_cons] at hparts
    obtain ⟨hfirst, hlast⟩ := hparts
    have hfirst := hfirst.doc rfl
    simp only [Node.doc] at hfirst
    cases last with
    | none => simp [frame?, Layout.windowFrame, hfirst]
    | some last =>
        have hlast := (hlast _ List.mem_cons_self).doc rfl
        simp only [Node.doc] at hlast
        simp [frame?, Layout.windowFrame, hfirst, hlast]

/-- A window is printed alike if its parts are. -/
theorem keeps_window {w : WindowSpec}
    (hparts : ∀ m ∈ (Node.window w).children, ρ.Keeps σ τ m) :
    ρ.Keeps σ τ (.window w) := by
  rcases w with ⟨base, partitionBy, orderBy, frame⟩
  simp only [Node.children, List.forall_mem_append] at hparts
  obtain ⟨⟨hpartition, horder⟩, hframe⟩ := hparts
  have hbase : (Doc.optional ((ρ.text base).map Doc.verbatim)).effect σ =
      (Doc.optional (base.map Doc.verbatim)).effect τ := effect_optional_text base
  have hpartition := effects_exprs hpartition
  have horder := effect_sortKeys horder
  have hframe := effect_frame? hframe
  refine keeps_of_nodes rfl ?_
  simp only [Node.doc, window, Layout.windowSpec, exprs_eq_map, sortKeys_eq_flatMap,
    Doc.effect_fragments, Doc.effects_cons, Doc.effects_nil, hbase, hframe,
    List.isEmpty_map, isEmpty_flatMap_sortKey]
  cases partitionBy <;> cases orderBy <;>
    simp only [List.isEmpty_nil, List.isEmpty_cons, if_true, Bool.false_eq_true,
      if_false, Doc.effect_append, Doc.effect_text, Doc.effect_empty,
      Doc.effect_commas, hpartition, horder]

variable (h : σ.Agree τ)

include h

theorem literal_agree (v : Literal) : v.doc σ = v.doc τ := by
  cases v <;> simp [Literal.doc, h.dialect]

/-- A parameter is printed alike where the placeholder styles agree on bound
ones. -/
theorem keeps_parameter {p : Parameter}
    (hbind : p = .bind → σ.placeholders = τ.placeholders) :
    ρ.Keeps σ τ (.expr (.parameter p)) := by
  refine keeps_of_nodes rfl ?_
  cases p with
  | bind => exact h.placeholder (hbind rfl)
  | _ => exact h.effect rfl

/-- An expression is printed alike if its parts are. -/
theorem keeps_expr {e : Expr} (hparts : ∀ m ∈ (Node.expr e).children, ρ.Keeps σ τ m)
    (hbind : e = .parameter .bind → σ.placeholders = τ.placeholders) :
    ρ.Keeps σ τ (.expr e) := by
  cases e with
  | parameter p =>
      exact keeps_parameter h fun hp => hbind (congrArg Expr.parameter hp)
  | column _ | keyword _ | var _ _ =>
      exact keeps_of_nodes rfl (by simp [Node.doc, expr, Layout.expr, h.effect])
  | literal v =>
      exact keeps_of_nodes rfl (by
        simp [Node.doc, expr, Layout.expr, h.effect, literal_agree h])
  | star s =>
      refine keeps_of_nodes rfl ?_
      simp only [Node.doc, expr, Layout.expr, ρ.nonEmpty_text]
      cases Text.nonEmpty s <;> simp [h.effect]
  | list items =>
      have hitems := effects_exprs hparts
      exact keeps_of_nodes rfl (by simp [Node.doc, expr, Layout.expr, hitems])
  | case operand bs otherwise =>
      simp only [Node.children, Node.ofExpr, List.forall_mem_append] at hparts
      have hoperand := effect?_expr? hparts.1.1
      have hbranches := effects_branches hparts.1.2
      have hotherwise := effect?_expr? hparts.2
      refine keeps_of_nodes rfl ?_
      simp [Node.doc, expr, Layout.expr, hoperand, hbranches, hotherwise, h.effect]
  | fullText columns against mode =>
      have hagainst := (hparts _ List.mem_cons_self).doc rfl
      have hcolumns : effects σ (columns.map ColumnRef.doc) =
          effects τ (columns.map ColumnRef.doc) :=
        h.effects (Doc.total_eq_zero _ columns fun ref => ref.count_doc _)
      have hmode : effect? σ ((Text.nonEmpty mode).map .word) =
          effect? τ ((Text.nonEmpty mode).map .word) := by
        cases Text.nonEmpty mode <;> simp [h.effect]
      refine keeps_of_nodes rfl ?_
      simp only [Node.doc] at hagainst ⊢
      simp [expr, Layout.expr, Function.comp_def, hcolumns, hagainst, hmode,
        h.effect]
  | _ =>
      refine keeps_of_nodes rfl ?_
      simp [Keeps, nodes, Node.doc, Node.ofExpr] at hparts
      simp [Node.doc, expr, Layout.expr, hparts, h.effect]

theorem effect_over? {o : Option Over}
    (hparts : ∀ m ∈ Node.over? o, ρ.Keeps σ τ m) :
    (Layout.overDoc σ (ρ.over? o)).effect σ = (Layout.overDoc τ o).effect τ := by
  rcases o with _ | name | w
  · simp [Retouch.over?, Layout.overDoc]
  · simp [Retouch.over?, Layout.overDoc, Layout.overClause, h.effect]
  · have hw := (hparts _ List.mem_cons_self).doc rfl
    simp only [Node.doc] at hw
    simp [Retouch.over?, Layout.overDoc, Layout.overClause, hw]

/-- A call is printed alike if its arguments and its window are. -/
theorem keeps_call {c : FunctionCall}
    (hparts : ∀ m ∈ (Node.call c).children, ρ.Keeps σ τ m) :
    ρ.Keeps σ τ (.call c) := by
  rcases c with ⟨name, args, argsParentheses, separator, parentheses, window,
    collate, suffix⟩
  simp only [Node.children, List.forall_mem_append] at hparts
  have hargs : (Layout.exprs? σ (ρ.exprs? args)).map (effects σ) =
      (Layout.exprs? τ args).map (effects τ) := by
    cases args with
    | none => simp [Layout.exprs?]
    | some es => simpa [Layout.exprs?] using effects_exprs hparts.1.1
  have hsuffix : (Doc.optional (Layout.expr? σ (ρ.expr? suffix))).effect σ =
      (Doc.optional (Layout.expr? τ suffix)).effect τ := by
    simp [effect?_expr? hparts.1.2]
  refine keeps_of_nodes rfl ?_
  simp only [Node.doc, call, Layout.functionCall, call_text]
  exact Layout.call_congr h name argsParentheses separator parentheses collate hargs
    (effect_over? h hparts.2) hsuffix

theorem keeps_aggregate {a : Aggregate}
    (hparts : ∀ m ∈ (Node.aggregate a).children, ρ.Keeps σ τ m) :
    ρ.Keeps σ τ (.aggregate a) := by
  rcases a with ⟨name, distinct, args, orderBy, separator, filter, window⟩
  simp only [Node.children, List.forall_mem_append] at hparts
  obtain ⟨⟨⟨⟨hargs, horder⟩, hseparator⟩, hfilter⟩, hwindow⟩ := hparts
  have hargs := effects_exprs hargs
  have horder := orderBy_sortKeys horder
  have hseparator := effect?_expr? hseparator
  have hwindow := effect_over? h hwindow
  refine keeps_of_nodes rfl ?_
  cases filter with
  | none =>
      simp [Node.doc, aggregate, Layout.aggregate, Layout.expr?, hargs, horder,
        hseparator, hwindow, h.effect]
  | some e =>
      have he := (hfilter _ List.mem_cons_self).doc rfl
      simp only [Node.doc] at he
      simp [Node.doc, aggregate, Layout.aggregate, Layout.expr?, hargs, horder,
        hseparator, he, hwindow, h.effect]

/-- A data type is printed alike if its arguments are. -/
theorem keeps_dataType {t : DataType}
    (hparts : ∀ m ∈ (Node.dataType t).children, ρ.Keeps σ τ m) :
    ρ.Keeps σ τ (.dataType t) := by
  have hdoc (settings : Settings) (t : DataType) :
      Layout.typeDoc settings t =
        Layout.dataType t (Layout.exprs settings t.values) := by
    cases t
    rfl
  have hvalues : (ρ.dataType t).values = t.values.map ρ.expr := by
    cases t
    simp [dataType]
  refine keeps_of_nodes rfl ?_
  rw [Node.doc, Node.doc, hdoc, hdoc, hvalues, dataType_dataType]
  exact Layout.dataType_congr h t (effects_exprs hparts)

theorem keeps_cast {c : Cast}
    (hparts : ∀ m ∈ (Node.cast c).children, ρ.Keeps σ τ m) :
    ρ.Keeps σ τ (.cast c) := by
  rcases c with ⟨subject, target, form, keyword, tail, rename, collate⟩
  obtain ⟨hsubject, htail⟩ := List.forall_mem_cons.1 hparts
  have htail : (Layout.castTailDoc σ (ρ.castTail tail)).effect σ =
      (Layout.castTailDoc τ tail).effect τ := by
    rcases tail with _ | ⟨operator, operand⟩
    · simp [castTail, Layout.castTailDoc]
    · exact Layout.castTail_congr operator ((htail _ List.mem_cons_self).doc rfl)
  refine keeps_of_nodes rfl ?_
  simp only [Node.doc, cast, Layout.castExpr, cast_cast]
  exact Layout.cast_congr h target form keyword rename collate
    (hsubject.doc rfl) htail

theorem keeps_extract {x : Extract}
    (hparts : ∀ m ∈ (Node.extract x).children, ρ.Keeps σ τ m) :
    ρ.Keeps σ τ (.extract x) := by
  rcases x with ⟨name, field, castType, source⟩
  have hsource := (hparts _ List.mem_cons_self).doc rfl
  have hcast : (Doc.optional ((ρ.word? castType).map Doc.word)).effect σ =
      (Doc.optional (castType.map Doc.word)).effect τ :=
    effect_optional_word? castType
  refine keeps_of_nodes rfl ?_
  simp only [Node.doc] at hsource ⊢
  simp only [extract, Layout.extractCall, Layout.extract, Doc.effect_append,
    Doc.effect_parens, Doc.effect_fragments, Doc.effects_cons, Doc.effects_nil,
    Doc.effect_text, hsource, hcast]
  simp [h.effect]

theorem keeps_anyValue {a : AnyValue}
    (hparts : ∀ m ∈ (Node.anyValue a).children, ρ.Keeps σ τ m) :
    ρ.Keeps σ τ (.anyValue a) := by
  rcases a with ⟨name, subject, having, window⟩
  simp only [Node.children, List.forall_mem_cons, List.forall_mem_append] at hparts
  obtain ⟨hsubject, hhaving, hwindow⟩ := hparts
  have hsubject := hsubject.doc rfl
  have hhaving : (Layout.anyValueHaving σ (ρ.anyValueHaving having)).effect σ =
      (Layout.anyValueHaving τ having).effect τ := by
    rcases having with _ | ⟨bound, other⟩
    · simp [anyValueHaving, Layout.anyValueHaving]
    · have hother := (hhaving _ List.mem_cons_self).doc rfl
      simp only [Node.doc] at hother
      simp [anyValueHaving, Layout.anyValueHaving, hother, h.effect]
  have hwindow := effect_over? h hwindow
  refine keeps_of_nodes rfl ?_
  simp only [Node.doc] at hsubject ⊢
  simp [anyValue, Layout.anyValue, hsubject, hhaving, hwindow, h.effect]

theorem effect_with? {o : Option With}
    (hparts : ∀ m ∈ Node.with? o, ρ.Keeps σ τ m) :
    (Layout.withDoc σ (ρ.with? o)).effect σ = (Layout.withDoc τ o).effect τ := by
  rcases o with _ | ⟨recursive, tables⟩
  · simp [with?, Layout.withDoc]
  · have htables : effects σ (Layout.cteDocs σ (tables.map ρ.cte)) =
        effects τ (Layout.cteDocs τ tables) :=
      effects_list (fun _ => rfl) (fun _ c _ => by cases c; rfl)
        (fun _ => rfl) hparts
    simp [with?, Layout.withDoc, htables, h.effect]

/-- A query is printed alike if its parts are. -/
theorem keeps_query {q : Query}
    (hparts : ∀ m ∈ (Node.query q).children, ρ.Keeps σ τ m) :
    ρ.Keeps σ τ (.query q) := by
  rcases q with ⟨ctes, body, orderBy, limit, offset⟩
  simp only [Node.children, List.forall_mem_cons, List.forall_mem_append] at hparts
  obtain ⟨hctes, hbody, ⟨horder, hlimit⟩, hoffset⟩ := hparts
  have hctes := effect_with? h hctes
  have hbody := hbody.doc rfl
  have horder := orderBy_sortKeys horder
  have hlimit := Layout.limit_congr h (effect?_expr? hlimit) (effect?_expr? hoffset)
  refine keeps_of_nodes rfl ?_
  simp only [Node.doc] at hbody ⊢
  simp [query, Layout.queryDoc, hctes, hbody, horder, hlimit]

theorem keeps_item {i : SelectItem}
    (hparts : ∀ m ∈ (Node.item i).children, ρ.Keeps σ τ m) :
    ρ.Keeps σ τ (.item i) := by
  refine keeps_of_nodes rfl ?_
  cases i with
  | expr e rename =>
      have he := (hparts _ List.mem_cons_self).doc rfl
      simp only [Node.doc] at he
      simp [Node.doc, item, Layout.selectItem, he, h.effect, h.asBeforeColumnName]
  | _ => simp [Node.doc, item, Layout.selectItem, h.effect]

/-- A table is printed alike if its parts are. -/
theorem keeps_table {t : TableRef}
    (hparts : ∀ m ∈ (Node.table t).children, ρ.Keeps σ τ m) :
    ρ.Keeps σ τ (.table t) := by
  refine keeps_of_nodes rfl ?_
  cases t with
  | named schema name rename =>
      simp [Node.doc, table, Layout.tableRef, h.effect, ρ.nonEmpty_text,
        h.asBeforeTableName]
  | values rows rowKeyword rename =>
      have hrows :=
        effects_rows (g := fun row =>
          .textIf rowKeyword "ROW" ++ Layout.valueRow row)
        (fun ds es hds => by simp [Layout.valueRow_congr hds, h.effect]) hparts
      simp [Node.doc, table, Layout.tableRef, hrows, h.effect, h.asBeforeTableName]
  | subquery q rename =>
      have hq := (hparts _ List.mem_cons_self).doc rfl
      simp only [Node.doc] at hq
      simp [Node.doc, table, Layout.tableRef, hq, h.effect, h.asBeforeTableName]
  | function c rename =>
      have hc := (hparts _ List.mem_cons_self).doc rfl
      simp only [Node.doc] at hc
      simp [Node.doc, table, Layout.tableRef, hc, h.effect, h.asBeforeTableName]
  | paren t =>
      have ht := (hparts _ List.mem_cons_self).doc rfl
      simp only [Node.doc] at ht
      simp [Node.doc, table, Layout.tableRef, ht]

theorem keeps_join {j : Join}
    (hparts : ∀ m ∈ (Node.join j).children, ρ.Keeps σ τ m) :
    ρ.Keeps σ τ (.join j) := by
  obtain ⟨htable, hcondition⟩ := List.forall_mem_cons.1 hparts
  have htable := htable.doc rfl
  have hcondition :=
    Layout.joinCondition_congr h j.kind j.columns (effect?_expr? hcondition)
  refine keeps_of_nodes rfl ?_
  simp only [Node.doc] at htable ⊢
  simp [join, Layout.joinDoc, htable, hcondition]

theorem keeps_cte {c : Cte} (hparts : ∀ m ∈ (Node.cte c).children, ρ.Keeps σ τ m) :
    ρ.Keeps σ τ (.cte c) := by
  have hquery := (hparts _ List.mem_cons_self).doc rfl
  refine keeps_of_nodes rfl ?_
  simp only [Node.doc] at hquery ⊢
  cases hcolumns : c.columns.isEmpty <;>
    simp [cte, Layout.cteDoc, hquery, hcolumns, h.effect]

omit h in
/-- The body of a query is printed alike if its operands are. -/
theorem keeps_body {b : QueryBody}
    (hparts : ∀ m ∈ (Node.body b).children, ρ.Keeps σ τ m) :
    ρ.Keeps σ τ (.body b) := by
  refine keeps_of_nodes rfl ?_
  cases b with
  | select s =>
      have hs := (hparts _ List.mem_cons_self).doc rfl
      simpa only [Node.doc, body, Layout.bodyDoc] using hs
  | combine left op right =>
      simp only [Node.children, List.forall_mem_cons] at hparts
      obtain ⟨hleft, hright, -⟩ := hparts
      have hleft := hleft.doc rfl
      have hright := hright.doc rfl
      simp only [Node.doc] at hleft hright
      simp [Node.doc, body, Layout.bodyDoc, hleft, hright]

omit h in
/-- A grouping modifier is printed alike if its keys are. -/
theorem keeps_modifier {m : GroupModifier}
    (hparts : ∀ n ∈ (Node.modifier m).children, ρ.Keeps σ τ n) :
    ρ.Keeps σ τ (.modifier m) := by
  refine keeps_of_nodes rfl ?_
  cases m with
  | groupingSets sets =>
      have hsets := effects_rows (g := fun keys => .parens (.commas keys))
        (fun ds es hds => by simp [hds]) hparts
      simp [Node.doc, modifier, Layout.keySets, hsets]
  | _ => simp [Node.doc, modifier]

omit h in
/-- The sets of the first modifier that has any. -/
theorem effect?_groupingSets {ms : List GroupModifier}
    (hparts : ∀ n ∈ ms.map .modifier, ρ.Keeps σ τ n) :
    effect? σ (Layout.groupingSets σ (ms.map ρ.modifier)) =
      effect? τ (Layout.groupingSets τ ms) := by
  induction ms with
  | nil => simp [Layout.groupingSets]
  | cons m ms ih =>
      obtain ⟨hm, hms⟩ := List.forall_mem_cons.1 hparts
      cases m with
      | groupingSets sets => exact congrArg some (hm.doc rfl)
      | _ => exact ih hms

omit h in
/-- The kinds of modifiers stay, whatever is in the grouping sets. -/
theorem groupBy_modifiers (ds : List Doc) (ms : List GroupModifier)
    (o : Option Doc) :
    Layout.groupBy σ ds (ms.map ρ.modifier) o = Layout.groupBy σ ds ms o := by
  have hany {g : GroupModifier → Bool} (hg : ∀ m, g (ρ.modifier m) = g m) :
      (ms.map ρ.modifier).any g = ms.any g := by
    simp [Function.comp_def, hg]
  simp only [Layout.groupBy]
  rw [hany (fun m => by cases m <;> rfl), hany (fun m => by cases m <;> rfl)]

/-- An INTO is printed alike in either position. -/
theorem effect_intoAt {o : Option SelectInto} (position : IntoPosition)
    (hparts : ∀ n ∈ Node.into? o, ρ.Keeps σ τ n) :
    (Layout.intoAt σ position (ρ.into? o)).effect σ =
      (Layout.intoAt τ position o).effect τ := by
  rcases o with _ | ⟨wanted, target⟩
  · simp [into?, Layout.intoAt]
  · have htarget : (Layout.intoTarget σ (ρ.into target)).effect σ =
        (Layout.intoTarget τ target).effect τ := by
      cases target with
      | vars vars =>
          have hvars := effects_exprs hparts
          simp [into, Layout.intoTarget, hvars, h.effect]
      | outfile file charset =>
          simp only [into, Layout.intoTarget, ρ.nonEmpty_text]
          cases Text.nonEmpty charset <;> simp [h.effect]
      | _ => simp [into, Layout.intoTarget, h.effect]
    simp only [into?, Layout.intoAt]
    split <;> simp [htarget]

theorem effects_namedWindows {ws : List NamedWindow}
    (hparts : ∀ n ∈ ws.map (Node.window ·.window), ρ.Keeps σ τ n) :
    effects σ (Layout.namedWindows σ (ws.map ρ.namedWindow)) =
      effects τ (Layout.namedWindows τ ws) := by
  have hcons (settings : Settings) (w : NamedWindow) (ws : List NamedWindow) :
      Layout.namedWindows settings (w :: ws) =
        Layout.windowDoc settings w :: Layout.namedWindows settings ws := by
    cases w
    rfl
  induction ws with
  | nil => simp [Layout.namedWindows]
  | cons w ws ih =>
      obtain ⟨hw, hws⟩ := List.forall_mem_cons.1 hparts
      have hw := hw.doc rfl
      simp only [Node.doc] at hw
      simp [hcons, Layout.windowDoc, namedWindow, hw, ih hws, h.effect]

/-- A SELECT is printed alike if its parts are. -/
theorem keeps_select {s : Select}
    (hparts : ∀ m ∈ (Node.select s).children, ρ.Keeps σ τ m) :
    ρ.Keeps σ τ (.select s) := by
  rcases s with ⟨distinct, distinctOn, options, items, into, tables, joins,
    condition, groupBy, groupModifiers, having, windows, orderBy, limit, offset,
    locking⟩
  simp only [Node.children, Node.ofSelect, List.forall_mem_append] at hparts
  obtain ⟨⟨⟨⟨⟨⟨⟨⟨⟨⟨⟨⟨hdistinct, hitems⟩, hinto⟩, htables⟩, hjoins⟩,
    hcondition⟩, hkeys⟩, hmodifiers⟩, hhaving⟩, hwindows⟩, horder⟩, hlimit⟩,
      hoffset⟩ := hparts
  have hitems : effects σ (Layout.selectItems σ (items.map ρ.item)) =
      effects τ (Layout.selectItems τ items) :=
    effects_list (fun _ => rfl) (fun _ _ _ => rfl) (fun _ => rfl) hitems
  have hjoins : effects σ (Layout.joinDocs σ (joins.map ρ.join)) =
      effects τ (Layout.joinDocs τ joins) :=
    effects_list (fun _ => rfl) (fun _ j _ => by cases j; rfl) (fun _ => rfl) hjoins
  have htables : effects σ (Layout.tableRefs σ (tables.map ρ.table)) =
      effects τ (Layout.tableRefs τ tables) :=
    effects_list (fun _ => rfl) (fun _ _ _ => rfl) (fun _ => rfl) htables
  have hdistinct := Layout.ite_congr distinctOn.isEmpty
    (d := .textIf distinct "DISTINCT ") (h.effect (by simp))
    (show (Doc.text "DISTINCT ON " ++ .parens (.commas (Layout.exprs σ
        (distinctOn.map ρ.expr))) ++ .text " ").effect σ =
      (Doc.text "DISTINCT ON " ++ .parens (.commas (Layout.exprs τ distinctOn)) ++
        .text " ").effect τ by simp [effects_exprs hdistinct])
  have hcolumns :=
    Layout.ite_congr items.isEmpty (d := .text "*") (h.effect (by simp))
    (show (Doc.commas (Layout.selectItems σ (items.map ρ.item))).effect σ =
      (Doc.commas (Layout.selectItems τ items)).effect τ by simp [hitems])
  have hfrom := Layout.ite_congr tables.isEmpty (d := .empty) (h.effect (by simp))
    (show (Doc.text " FROM " ++
      Layout.tables (Layout.tableRefs σ (tables.map ρ.table))
        (Layout.joinDocs σ (joins.map ρ.join))).effect σ =
      (Doc.text " FROM " ++ Layout.tables (Layout.tableRefs τ tables)
        (Layout.joinDocs τ joins)).effect τ by simp [Layout.tables_congr htables
          hjoins])
  have hnamed := Layout.ite_congr windows.isEmpty (d := .empty) (h.effect (by simp))
    (show (Doc.text " WINDOW " ++ .commas (Layout.namedWindows σ
        (windows.map ρ.namedWindow))).effect σ =
      (Doc.text " WINDOW " ++ .commas (Layout.namedWindows τ windows)).effect τ by
        simp [effects_namedWindows h hwindows])
  have hgroups := Layout.groupBy_congr h groupModifiers (effects_exprs hkeys)
    (effect?_groupingSets hmodifiers)
  have hlimit := Layout.limit_congr h (effect?_expr? hlimit) (effect?_expr? hoffset)
  have hlocking : (Doc.optional (locking.map Locking.doc)).effect σ =
      (Doc.optional (locking.map Locking.doc)).effect τ := by
    cases locking <;> simp [h.effect]
  have hoptions :
      (Doc.concat ((options.filter (· ≠ "")).map (.word · ++ .text " "))).effect
          σ =
        (Doc.concat ((options.filter (· ≠ "")).map (.word · ++ .text " "))).effect
          τ := by
    refine h.effect ?_
    rw [Doc.BindsNothing, Doc.count_concat]
    exact Doc.total_eq_zero _ _ fun _ => rfl
  refine keeps_of_nodes rfl ?_
  simp only [Node.doc, select, Layout.selectDoc, exprs_eq_map, items_eq_map,
    tables_eq_map, joins_eq_map, expr?_eq_map, modifiers_eq_map, windows_eq_map,
    sortKeys_eq_flatMap, List.isEmpty_map, options_map, groupBy_modifiers,
    Doc.effect_append, Doc.effect_text, Doc.effect_clause, hdistinct, hoptions,
    hcolumns, hfrom, hnamed, hgroups, hlimit, hlocking, effect_intoAt h _ hinto,
    effect?_expr? hcondition, effect?_expr? hhaving, orderBy_sortKeys horder]

end Retouch

end SqlPrinter
