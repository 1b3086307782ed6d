/-
Layouts within layouts.  What a part is printed as stands in what the whole is
printed as, and the layout of a node that is shown is part of the layout of
the node above it.
-/
import SqlPrinter.Proofs.Count.Query
import SqlPrinter.Proofs.Writes

namespace SqlPrinter

namespace Doc

/-- A layout is part of another one. -/
inductive Part (d : Doc) : Doc → Prop where
  | here : Part d d
  | first {e f : Doc} (h : Part d e) : Part d (e ++ f)
  | second {e f : Doc} (h : Part d f) : Part d (e ++ f)
  | isolated {e : Doc} (h : Part d e) : Part d (isolated e)
  | besideFirst {separator : String} {e f : Doc} (h : Part d e) :
      Part d (beside separator e f)
  | besideSecond {separator : String} {e f : Doc} (h : Part d f) :
      Part d (beside separator e f)
  | twice {lead between : String} {error : Error} {e : Doc} (h : Part d e) :
      Part d (twice lead between e error)

variable {settings : Settings} {d e f : Doc} {ds : List Doc} {c c' : Counters}
  {s t : String}

theorem infix_append_left (s t : String) : s.toList <:+: (s ++ t).toList := by
  rw [String.toList_append]
  exact (List.prefix_append _ _).isInfix

theorem infix_append_right (s t : String) : t.toList <:+: (s ++ t).toList := by
  rw [String.toList_append]
  exact (List.suffix_append _ _).isInfix

/-- Both texts stand in what is left of them. -/
theorem infix_joinBeside (separator s t : String) :
    s.toList <:+: (Effect.joinBeside separator s t).toList ∧
      t.toList <:+: (Effect.joinBeside separator s t).toList := by
  unfold Effect.joinBeside
  split
  · next hempty =>
      rw [hempty]
      exact ⟨List.nil_infix, List.infix_rfl⟩
  · split
    · next hempty =>
        rw [hempty]
        exact ⟨List.infix_rfl, List.nil_infix⟩
    · exact ⟨(infix_append_left s separator).trans (infix_append_left _ t),
        infix_append_right _ t⟩

/-- A part is printed wherever the whole is, and its text stands in
the whole text. -/
theorem Part.writes (h : d.Part e) (hwrites : e.Writes settings c s c') :
    ∃ b t b', d.Writes settings b t b' ∧ t.toList <:+: s.toList := by
  induction h generalizing c s c' with
  | here => exact ⟨c, s, c', hwrites, List.infix_rfl⟩
  | first _ ih =>
      obtain ⟨t, _, u, ht, -, rfl⟩ := writes_append_iff.1 hwrites
      obtain ⟨b, v, b', hv, hwithin⟩ := ih ht
      exact ⟨b, v, b', hv, hwithin.trans (infix_append_left t u)⟩
  | second _ ih =>
      obtain ⟨t, _, u, -, hu, rfl⟩ := writes_append_iff.1 hwrites
      obtain ⟨b, v, b', hv, hwithin⟩ := ih hu
      exact ⟨b, v, b', hv, hwithin.trans (infix_append_right t u)⟩
  | isolated _ ih => exact ih (writes_isolated_iff.1 hwrites)
  | besideFirst _ ih =>
      obtain ⟨t, _, u, ht, -, rfl⟩ := writes_beside_iff.1 hwrites
      obtain ⟨b, v, b', hv, hwithin⟩ := ih ht
      exact ⟨b, v, b', hv, hwithin.trans (infix_joinBeside _ t u).1⟩
  | besideSecond _ ih =>
      obtain ⟨t, _, u, -, hu, rfl⟩ := writes_beside_iff.1 hwrites
      obtain ⟨b, v, b', hv, hwithin⟩ := ih hu
      exact ⟨b, v, b', hv, hwithin.trans (infix_joinBeside _ t u).2⟩
  | @twice lead between error e _ ih =>
      obtain ⟨t, _, ht, rfl⟩ := exists_of_writes_twice hwrites
      obtain ⟨b, v, b', hv, hwithin⟩ := ih ht
      exact ⟨b, v, b', hv, hwithin.trans (infix_append_right _ t)⟩

/-- A part of a part is a part. -/
theorem Part.trans (hde : d.Part e) (hef : e.Part f) : d.Part f := by
  induction hef with
  | here => exact hde
  | first _ ih => exact .first ih
  | second _ ih => exact .second ih
  | isolated _ ih => exact .isolated ih
  | besideFirst _ ih => exact .besideFirst ih
  | besideSecond _ ih => exact .besideSecond ih
  | twice _ ih => exact .twice ih

/-- Nothing stands in an empty layout but itself. -/
theorem Part.eq_empty (h : d.Part empty) : d = empty := by
  cases h
  rfl

/-- The layouts that a layout puts one after another. -/
def spine : Doc → List Doc
  | append d e => spine d ++ [e]
  | d => [d]

/-- The spine of a layout ends with what is appended last. -/
@[simp] theorem spine_append (d e : Doc) : (d ++ e).spine = d.spine ++ [e] :=
  rfl

/-- A part of one of several layouts in a row is part of the row. -/
theorem Part.along (h : d.Part e) (he : e ∈ f.spine) : d.Part f := by
  induction f with
  | append first second ihFirst _ =>
      rcases List.mem_append.1 he with he | he
      · exact .first (ihFirst he)
      · exact .second (List.mem_singleton.1 he ▸ h)
  | _ => exact List.mem_singleton.1 he ▸ h

/-- A clause that is left out if a list is empty stands there if the list is not. -/
theorem Part.unlessEmpty {α : Type} {as : List α} (h : d.Part e) (f : Doc)
    (has : ¬as.isEmpty = true) : d.Part (if as.isEmpty then f else e) := by
  rw [if_neg has]
  exact h

/-! ### Several layouts -/

/-- What stands in one layout of a row stands in the row. -/
theorem Part.concat (h : d.Part e) (he : e ∈ ds) : d.Part (concat ds) := by
  induction ds with
  | nil => contradiction
  | cons f ds ih =>
      rcases List.mem_cons.1 he with rfl | he
      · exact .first h
      · exact .second (ih he)

/-- What stands between separators stands in the whole. -/
theorem Part.joined (separator : Doc) (h : d.Part e) (he : e ∈ ds) :
    d.Part (joined separator ds) := by
  cases ds with
  | nil => contradiction
  | cons f ds =>
      rcases List.mem_cons.1 he with rfl | he
      · exact .first h
      · exact .second (.concat (.second h) (List.mem_map_of_mem he))

theorem Part.commas (h : d.Part e) (he : e ∈ ds) : d.Part (commas ds) :=
  h.joined _ he

/-- What stands in one fragment stands in the line of them. -/
theorem Part.fragments {separator : String} (h : d.Part e) (he : e ∈ ds) :
    d.Part (fragments separator ds) := by
  induction ds with
  | nil => contradiction
  | cons f ds ih =>
      rcases List.mem_cons.1 he with rfl | he
      · exact .besideFirst h
      · exact .besideSecond (ih he)

theorem Part.parens (h : d.Part e) : d.Part e.parens :=
  .first (.second h)

theorem Part.optional {o : Option Doc} (h : d.Part e) (he : e ∈ o) :
    d.Part (optional o) := by
  rw [Option.mem_def.1 he]
  exact h

/-- What stands in a clause stands behind its keyword. -/
theorem Part.clause (lead : String) {o : Option Doc} (h : d.Part e) (he : e ∈ o) :
    d.Part (clause lead o) := by
  rw [Option.mem_def.1 he]
  exact .second h

end Doc

namespace Node

variable {settings : Settings} {m : Node}

open Doc

/-! ## Lists of parts -/

/-- The layouts of a list of parts, given the layout of each. -/
theorem doc_mem_list {α : Type} {g : α → Node} {L : List α → List Doc}
    (hcons : ∀ a as, L (a :: as) = (g a).doc settings :: L as) {as : List α}
    (h : m ∈ as.map g) : m.doc settings ∈ L as := by
  induction as with
  | nil => contradiction
  | cons a as ih =>
      rw [hcons]
      rcases List.mem_cons.1 h with rfl | h
      · exact List.mem_cons_self
      · exact List.mem_cons_of_mem _ (ih h)

theorem not_isEmpty_of_mem_map {α : Type} {g : α → Node} {as : List α}
    (h : m ∈ as.map g) : ¬as.isEmpty = true := by
  rw [List.isEmpty_iff]
  rintro rfl
  contradiction

variable (settings)

theorem doc_mem_exprs {es : List Expr} (h : m ∈ exprs es) :
    m.doc settings ∈ Layout.exprs settings es :=
  doc_mem_list (g := expr) (fun _ _ => rfl) h

theorem doc_mem_expr? {e : Option Expr} (h : m ∈ expr? e) :
    m.doc settings ∈ Layout.expr? settings e := by
  cases e with
  | none => contradiction
  | some e =>
      rw [List.mem_singleton.1 h]
      rfl

theorem doc_mem_orderItems {ks : List OrderItem} (h : m ∈ ks.map sortKey) :
    m.doc settings ∈ Layout.orderItems settings ks :=
  doc_mem_list (g := sortKey) (fun k _ => by cases k; rfl) h

theorem doc_mem_selectItems {is : List SelectItem} (h : m ∈ is.map item) :
    m.doc settings ∈ Layout.selectItems settings is :=
  doc_mem_list (g := item) (fun _ _ => rfl) h

theorem doc_mem_tableRefs {ts : List TableRef} (h : m ∈ ts.map table) :
    m.doc settings ∈ Layout.tableRefs settings ts :=
  doc_mem_list (g := table) (fun _ _ => rfl) h

theorem doc_mem_joinDocs {js : List Join} (h : m ∈ js.map join) :
    m.doc settings ∈ Layout.joinDocs settings js :=
  doc_mem_list (g := join) (fun j _ => by cases j; rfl) h

theorem doc_mem_cteDocs {cs : List Cte} (h : m ∈ cs.map cte) :
    m.doc settings ∈ Layout.cteDocs settings cs :=
  doc_mem_list (g := cte) (fun c _ => by cases c; rfl) h

/-- A value stands in its row, whatever is put around a row. -/
theorem part_rows {g : List Doc → Doc}
    (hg : ∀ (ds : List Doc) (d : Doc), d ∈ ds → d.Part (g ds))
    {rs : List (List Expr)} (h : m ∈ exprs rs.flatten) :
    ∃ d ∈ (Layout.rows settings rs).map g, (m.doc settings).Part d := by
  induction rs with
  | nil => contradiction
  | cons r rs ih =>
      simp only [exprs, List.flatten_cons, List.map_append, List.mem_append] at h ih
      rcases h with h | h
      · exact ⟨_, List.mem_cons_self, hg _ _ (doc_mem_exprs _ h)⟩
      · obtain ⟨d, hd, hpart⟩ := ih h
        exact ⟨d, List.mem_cons_of_mem _ hd, hpart⟩

/-- The condition and the result of a branch stand in it. -/
theorem part_branches {bs : List (Expr × Expr)} (h : m ∈ branches bs) :
    ∃ d ∈ Layout.caseBranches settings bs, (m.doc settings).Part d := by
  induction bs with
  | nil => contradiction
  | cons b bs ih =>
      have hsplit : m ∈ [expr b.1, expr b.2] ++ branches bs := h
      rcases List.mem_append.1 hsplit with h | h
      · refine ⟨_, List.mem_cons_self, ?_⟩
        simp only [List.mem_cons, List.not_mem_nil, or_false] at h
        rcases h with rfl | rfl
        · exact .first (.first (.second .here))
        · exact .second .here
      · obtain ⟨d, hd, hpart⟩ := ih h
        exact ⟨d, List.mem_cons_of_mem _ hd, hpart⟩

variable {settings}

/-- A window stands in its OVER clause. -/
theorem part_overDoc {o : Option Over} (h : m ∈ over? o) :
    (m.doc settings).Part (Layout.overDoc settings o) := by
  rcases o with _ | _ | w
  · contradiction
  · contradiction
  · rw [List.mem_singleton.1 h]
    exact .second (.parens .here)

/-- Both bounds stand in their frame. -/
theorem part_windowFrame {o : Option WindowFrame} (h : m ∈ frame? o) :
    (m.doc settings).Part (Layout.windowFrame settings o) := by
  rcases o with _ | ⟨units, first, _ | last⟩
  · contradiction
  · rw [List.mem_singleton.1 h]
    exact .second .here
  · simp only [frame?, Option.toList_some, List.map_cons, List.map_nil,
      List.mem_cons, List.not_mem_nil, or_false] at h
    rcases h with rfl | rfl
    · exact .second (.first (.first (.second .here)))
    · exact .second (.second .here)

/-- A common table expression stands in its WITH clause. -/
theorem part_withDoc {o : Option With} (h : m ∈ with? o) :
    (m.doc settings).Part (Layout.withDoc settings o) := by
  rcases o with _ | ⟨recursive, tables⟩
  · contradiction
  · exact .first (.second (.commas .here (doc_mem_cteDocs _ h)))

/-! ## Kinds of nodes -/

variable (settings) in
/-- The layouts of the parts that are shown are parts of the layout of the node;
only a modifier of a grouping has none. -/
def ShowsParts (n : Node) : Prop :=
  ∀ m ∈ n.shown, m.doc settings ≠ .empty → (m.doc settings).Part (n.doc settings)

/-- An expression shows all the parts it says it shows. -/
theorem expr_showsParts (e : Expr) : (expr e).ShowsParts settings := by
  intro m hm _
  cases e with
  | binary left op right =>
      simp only [shown, children, ofExpr, List.mem_cons, List.not_mem_nil,
        or_false] at hm
      rcases hm with rfl | rfl
      · exact .first (.first (.first (.first (.second .here))))
      · exact .second .here
  | between subject negated low high =>
      simp only [shown, children, ofExpr, List.mem_cons, List.not_mem_nil,
        or_false] at hm
      rcases hm with rfl | rfl | rfl
      · exact .first (.first (.first (.first .here)))
      · exact .first (.first (.second .here))
      · exact .second .here
  | list items => exact .parens (.commas .here (doc_mem_exprs _ hm))
  | case operand bs otherwise =>
      simp only [shown, children, ofExpr, List.mem_append] at hm
      rcases hm with (hm | hm) | hm
      · exact .first
          (.first (.first (.second (.clause _ .here (doc_mem_expr? _ hm)))))
      · obtain ⟨d, hd, hpart⟩ := part_branches _ hm
        exact .first (.first (.second (hpart.concat hd)))
      · exact .first (.second (.clause _ .here (doc_mem_expr? _ hm)))
  | unary op operand =>
      rw [List.mem_singleton.1 hm]
      exact .second .here
  | paren inner =>
      rw [List.mem_singleton.1 hm]
      exact .parens .here
  | function c | aggregate a | cast c | extract x | anyValue a =>
      rw [List.mem_singleton.1 hm]
      exact .isolated .here
  | subquery q =>
      rw [List.mem_singleton.1 hm]
      exact .parens .here
  | collate subject collation =>
      rw [List.mem_singleton.1 hm]
      exact .first (.first .here)
  | fullText columns against mode =>
      rw [List.mem_singleton.1 hm]
      exact .second (.parens (.first .here))
  | interval amount unit =>
      rw [List.mem_singleton.1 hm]
      exact .first (.first (.second .here))
  | column _ | star _ | keyword _ | literal _ | parameter _ | var _ _ =>
      contradiction

/-- The list of arguments stands beside the name or in parentheses after it. -/
theorem part_callHead {name : String} {separator : Option String}
    {argsParentheses : Bool} {args : List Doc} :
    (joined (Layout.argSeparator name separator) args).Part
      (Layout.callHead name separator argsParentheses args) := by
  cases argsParentheses with
  | true => exact .second (.parens .here)
  | false => exact .besideSecond (.besideFirst .here)

/-- What stands in a piece of a call stands in the call. -/
theorem part_functionCall {d : Doc} {name : String} {args : List Expr}
    {argsParentheses : Bool} {separator : Option String} {parentheses : Bool}
    {window : Option Over} {collate : Option KeywordValue} {suffix : Option Expr}
    (h : d.Part (.fragments " "
      [Layout.callHead name separator argsParentheses (Layout.exprs settings args),
        .optional (Layout.expr? settings suffix)])) :
    d.Part (Layout.functionCall settings
      ⟨name, some args, argsParentheses, separator, parentheses, window, collate,
        suffix⟩) := by
  cases parentheses with
  | true => exact .second (.besideFirst (.parens h))
  | false => exact .second (.besideFirst h)

theorem call_showsParts (c : FunctionCall) : (call c).ShowsParts settings := by
  intro m hm _
  rcases c with ⟨name, args, argsParentheses, separator, parentheses, window,
    collate, suffix⟩
  cases args with
  | none => exact .second (.fragments (part_overDoc hm) (by simp))
  | some args =>
      simp only [shown, Option.getD_some, Option.isNone_some, Bool.false_eq_true,
        if_false, List.mem_append] at hm
      rcases hm with (hm | hm) | hm
      · have hargs := Part.joined (Layout.argSeparator name separator) .here
          (doc_mem_exprs settings hm)
        exact part_functionCall (.besideFirst (hargs.trans part_callHead))
      · exact part_functionCall
          (.besideSecond (.besideFirst (.optional .here (doc_mem_expr? _ hm))))
      · exact .second (.besideSecond
          (.besideSecond (.besideFirst (part_overDoc hm))))

theorem part_orderBy {ks : List OrderItem} (h : m ∈ ks.map sortKey) :
    (m.doc settings).Part (Layout.orderBy (Layout.orderItems settings ks)) := by
  have hmem := doc_mem_orderItems settings h
  have hne : ¬(Layout.orderItems settings ks).isEmpty = true := by
    simpa using List.ne_nil_of_mem hmem
  exact Part.unlessEmpty (.second (.commas .here hmem)) .empty hne

theorem aggregate_showsParts (a : Aggregate) :
    (aggregate a).ShowsParts settings := by
  intro m hm _
  rcases a with ⟨name, distinct, args, orderBy, separator, filter, window⟩
  simp only [shown, children, List.mem_append] at hm
  rcases hm with (((hm | hm) | hm) | hm) | hm
  · have hlist := Part.commas .here (doc_mem_exprs settings hm)
    exact .second (.besideFirst
      (.second (.parens (.first (.first (.second hlist))))))
  · exact .second (.besideFirst
      (.second (.parens (.first (.second (part_orderBy hm))))))
  · have hclause := Part.clause " SEPARATOR " .here (doc_mem_expr? settings hm)
    exact .second (.besideFirst (.second (.parens (.second hclause))))
  · cases filter with
    | none => contradiction
    | some condition =>
        rw [List.mem_singleton.1 hm]
        exact .second (.besideSecond
          (.besideFirst (.second (.parens (.second .here)))))
  · exact .second (.besideSecond (.besideSecond (.besideFirst (part_overDoc hm))))

theorem dataType_showsParts (type : DataType) :
    (dataType type).ShowsParts settings := by
  intro m hm _
  rcases type with ⟨name, length, scale, parentheses, quoted, suffix, array, values⟩
  have hmem := doc_mem_exprs settings hm
  have hsize : (m.doc settings).Part (Layout.typeSize
      ⟨name, length, scale, parentheses, quoted, suffix, array, values⟩
      (Layout.exprs settings values)) := by
    unfold Layout.typeSize
    rw [if_pos (by simpa using List.ne_nil_of_mem hmem)]
    exact .parens (.commas .here hmem)
  exact .second (.besideFirst (.first (.second hsize)))

theorem cast_showsParts (c : Cast) : (cast c).ShowsParts settings := by
  intro m hm _
  rcases c with ⟨subject, target, form, keyword, tail, rename, collate⟩
  simp only [shown, children, List.mem_cons] at hm
  rcases hm with rfl | hm
  · cases form with
    | keyword =>
        exact .first (.first (.first (.second (.second
          (.parens (.first (.first (.first .here))))))))
    | doubleColon =>
        exact .first (.first (.first (.second (.first (.first .here)))))
  · rcases tail with _ | ⟨operator, operand⟩
    · contradiction
    · rw [List.mem_singleton.1 hm]
      exact .first (.first (.second (.second .here)))

theorem extract_showsParts (x : Extract) : (extract x).ShowsParts settings := by
  intro m hm _
  rw [List.mem_singleton.1 hm]
  cases x
  exact .second (.parens (.fragments .here (by simp [doc])))

theorem anyValue_showsParts (a : AnyValue) : (anyValue a).ShowsParts settings := by
  intro m hm _
  rcases a with ⟨name, subject, having, window⟩
  simp only [shown, children, List.mem_cons, List.mem_append] at hm
  rcases hm with rfl | hm | hm
  · exact .second (.besideFirst (.second (.parens (.first .here))))
  · rcases having with _ | ⟨bound, other⟩
    · contradiction
    · rw [List.mem_singleton.1 hm]
      exact .second (.besideFirst (.second (.parens (.second (.second .here)))))
  · exact .second (.besideSecond (.besideFirst (part_overDoc hm)))

theorem window_showsParts (w : WindowSpec) : (window w).ShowsParts settings := by
  intro m hm _
  rcases w with ⟨base, partitionBy, orderBy, frame⟩
  simp only [shown, children, List.mem_append] at hm
  rcases hm with (hm | hm) | hm
  · have hlist := Part.commas .here (doc_mem_exprs settings hm)
    exact .besideSecond (.besideFirst
      (.unlessEmpty (.second hlist) .empty (not_isEmpty_of_mem_map hm)))
  · have hlist := Part.commas .here (doc_mem_orderItems settings hm)
    exact .besideSecond (.besideSecond (.besideFirst
      (.unlessEmpty (.second hlist) .empty (not_isEmpty_of_mem_map hm))))
  · exact .besideSecond
      (.besideSecond (.besideSecond (.besideFirst (part_windowFrame hm))))

theorem bound_showsParts (b : FrameBound) : (bound b).ShowsParts settings := by
  intro m hm _
  cases b with
  | preceding e | following e =>
      rw [List.mem_singleton.1 hm]
      exact .first .here
  | unboundedPreceding | currentRow | unboundedFollowing => contradiction

theorem sortKey_showsParts (k : OrderItem) : (sortKey k).ShowsParts settings := by
  intro m hm _
  rw [List.mem_singleton.1 hm]
  change Part _ (Layout.orderItem settings _ _ _)
  unfold Layout.orderItem
  dsimp only
  split
  · exact .first (.twice .here)
  · exact .first (.twice .here)
  · exact .first (.first .here)

/-! ### Queries -/

theorem part_limit {count offset : Option Expr}
    (h : m ∈ expr? count ++ expr? offset) : (m.doc settings).Part
      (Layout.limit settings (Layout.expr? settings count)
        (Layout.expr? settings offset)) := by
  rcases List.mem_append.1 h with h | h
  · have hmem := doc_mem_expr? settings h
    unfold Layout.limit
    split
    · next hcount _ =>
        rw [hcount] at hmem
        rw [← Option.some.inj hmem]
        exact .second .here
    · exact .first (.clause _ .here hmem)
  · have hmem := doc_mem_expr? settings h
    unfold Layout.limit
    split
    · next hoffset =>
        rw [hoffset] at hmem
        rw [← Option.some.inj hmem]
        exact .first (.first (.second .here))
    · exact .second (.clause _ .here hmem)

theorem query_showsParts (q : Query) : (query q).ShowsParts settings := by
  intro m hm _
  rcases q with ⟨ctes, body, orderBy, limit, offset⟩
  simp only [shown, children, List.mem_append, List.mem_cons] at hm
  rcases hm with hm | rfl | (hm | hm) | hm
  · exact .first (.first (.first (part_withDoc hm)))
  · exact .first (.first (.second .here))
  · exact .first (.second (part_orderBy hm))
  · exact .second (part_limit (List.mem_append_left _ hm))
  · exact .second (part_limit (List.mem_append_right _ hm))

theorem body_showsParts (b : QueryBody) : (body b).ShowsParts settings := by
  intro m hm _
  cases b with
  | select s =>
      rw [List.mem_singleton.1 hm]
      exact .here
  | combine left op right =>
      simp only [shown, children, List.mem_cons, List.not_mem_nil, or_false] at hm
      rcases hm with rfl | rfl
      · exact .first (.first .here)
      · exact .second .here

theorem part_keySets {sets : List (List Expr)} (h : m ∈ exprs sets.flatten) :
    (m.doc settings).Part (Layout.keySets settings sets) := by
  obtain ⟨d, hd, hpart⟩ :=
    part_rows settings (g := fun keys => .parens (.commas keys))
      (fun _ _ hd => .parens (.commas .here hd)) h
  exact hpart.commas hd

theorem modifier_showsParts (modifier : GroupModifier) :
    (Node.modifier modifier).ShowsParts settings := by
  intro m hm _
  cases modifier with
  | groupingSets sets => exact part_keySets hm
  | rollup | cube => contradiction

/-- Rows go to one of three places. -/
theorem part_intoTarget {o : Option SelectInto} (h : m ∈ into? o) :
    ∃ position target, o = some ⟨position, target⟩ ∧
      (m.doc settings).Part (Layout.intoTarget settings target) := by
  rcases o with _ | ⟨position, vars | _ | _ | _⟩
  case some.vars =>
    exact ⟨position, .vars vars, rfl, .second (.commas .here (doc_mem_exprs _ h))⟩
  all_goals contradiction

variable (settings) in
theorem part_groups {s : Select} (hm : m ∈ shownGroups s)
    (hne : m.doc settings ≠ .empty) :
    (m.doc settings).Part
      (Layout.groupBy settings (Layout.exprs settings s.groupBy) s.groupModifiers
      (Layout.groupingSets settings s.groupModifiers)) := by
  rw [groupingSets_eq]
  unfold shownGroups at hm
  cases hsets : setsModifier? s.groupModifiers with
  | some k =>
      rw [hsets] at hm
      rw [List.mem_singleton.1 hm]
      exact .second (.parens .here)
  | none =>
      rw [hsets] at hm
      dsimp only at hm
      split at hm
      · contradiction
      rcases List.mem_append.1 hm with hm | hm
      · have hmem := doc_mem_exprs settings hm
        have hnonempty : (Layout.exprs settings s.groupBy).isEmpty = false := by
          simpa using List.ne_nil_of_mem hmem
        simp only [Option.map_none, Layout.groupBy, hnonempty, Bool.false_eq_true,
          if_false]
        have hlist := Part.commas .here hmem
        split
        · exact .second (.parens hlist)
        split
        · split
          · exact .first (.second hlist)
          · exact .second (.parens hlist)
        · exact .second hlist
      · obtain ⟨k, hk, rfl⟩ := List.mem_map.1 hm
        cases k with
        | groupingSets sets =>
            have hnone := List.find?_eq_none.1 hsets _ hk
            simp at hnone
        | rollup | cube => exact absurd rfl hne

variable (settings) in
theorem part_windows {ws : List NamedWindow} (h : m ∈ ws.map (window ·.window)) :
    ∃ d ∈ Layout.namedWindows settings ws, (m.doc settings).Part d := by
  induction ws with
  | nil => contradiction
  | cons w ws ih =>
      cases w
      rcases List.mem_cons.1 h with rfl | h
      · exact ⟨_, List.mem_cons_self, .second (.isolated (.second (.parens .here)))⟩
      · obtain ⟨d, hd, hpart⟩ := ih h
        exact ⟨d, List.mem_cons_of_mem _ hd, hpart⟩

theorem select_showsParts (s : Select) : (select s).ShowsParts settings := by
  intro m hm hne
  have hgroups := part_groups settings (s := s) (m := m)
  rcases s with ⟨distinct, distinctOn, options, items, into, tables, joins,
    condition, groupBy, groupModifiers, having, windows, orderBy, limit, offset,
    locking⟩
  simp only [shown, List.mem_append] at hm
  rcases hm with
    ((((((((((hm | hm) | hm) | hm) | hm) | hm) | hm) | hm) | hm) | hm) | hm) | hm
  · have hlist := Part.commas .here (doc_mem_exprs settings hm)
    have hclause : (m.doc settings).Part (.text "DISTINCT ON " ++
        .parens (.commas (Layout.exprs settings distinctOn)) ++ .text " ") :=
      .first (.second hlist.parens)
    have hkept :=
      hclause.unlessEmpty (.textIf distinct "DISTINCT ") (not_isEmpty_of_mem_map hm)
    exact .along hkept (by simp [doc, Layout.selectDoc])
  · have hlist := Part.commas .here (doc_mem_selectItems settings hm)
    have hkept := hlist.unlessEmpty (.text "*") (not_isEmpty_of_mem_map hm)
    exact .along hkept (by simp [doc, Layout.selectDoc])
  · obtain ⟨position, target, rfl, hpart⟩ := part_intoTarget hm
    have hinto :
        (m.doc settings).Part
          (Layout.intoAt settings position (some ⟨position, target⟩)) := by
      simpa [Layout.intoAt] using .second hpart
    cases position <;> exact .along hinto (by simp [doc, Layout.selectDoc])
  · have hlist := Part.commas .here (doc_mem_tableRefs settings hm)
    have hclause : (m.doc settings).Part (.text " FROM " ++
        Layout.tables (Layout.tableRefs settings tables)
          (Layout.joinDocs settings joins)) :=
      .second (.first hlist)
    have hkept := hclause.unlessEmpty .empty (not_isEmpty_of_mem_map hm)
    exact .along hkept (by simp [doc, Layout.selectDoc])
  · split at hm
    · contradiction
    · next hnonempty =>
        have hmem := doc_mem_joinDocs settings hm
        have hclause : (m.doc settings).Part (.text " FROM " ++
            Layout.tables (Layout.tableRefs settings tables)
              (Layout.joinDocs settings joins)) :=
          .second (.second (.concat (.second .here) (List.mem_map_of_mem hmem)))
        exact .along (hclause.unlessEmpty .empty hnonempty)
          (by simp [doc, Layout.selectDoc])
  · have hclause := Part.clause " WHERE " .here (doc_mem_expr? settings hm)
    exact .along hclause (by simp [doc, Layout.selectDoc])
  · exact .along (hgroups hm hne) (by simp [doc, Layout.selectDoc])
  · have hclause := Part.clause " HAVING " .here (doc_mem_expr? settings hm)
    exact .along hclause (by simp [doc, Layout.selectDoc])
  · obtain ⟨d, hd, hpart⟩ := part_windows settings hm
    have hclause : (m.doc settings).Part (.text " WINDOW " ++
        .commas (Layout.namedWindows settings windows)) :=
      .second (hpart.commas hd)
    have hkept := hclause.unlessEmpty .empty (not_isEmpty_of_mem_map hm)
    exact .along hkept (by simp [doc, Layout.selectDoc])
  · exact .along (part_orderBy hm) (by simp [doc, Layout.selectDoc])
  · have hmem := List.mem_append_left (expr? offset) hm
    exact Part.along (part_limit hmem) (by simp [doc, Layout.selectDoc])
  · have hmem := List.mem_append_right (expr? limit) hm
    exact Part.along (part_limit hmem) (by simp [doc, Layout.selectDoc])

theorem item_showsParts (i : SelectItem) : (item i).ShowsParts settings := by
  intro m hm _
  cases i with
  | star | qualifiedStar table => contradiction
  | expr value rename =>
      rw [List.mem_singleton.1 hm]
      exact .first .here

/-- A table shows its parts, with the alias and the columns around them. -/
theorem table_showsParts (t : TableRef) : (table t).ShowsParts settings := by
  intro m hm _
  cases t with
  | named schema name rename => contradiction
  | subquery q rename =>
      rw [List.mem_singleton.1 hm]
      exact .first (.parens .here)
  | function c rename =>
      rw [List.mem_singleton.1 hm]
      exact .first (.isolated .here)
  | values rows rowKeyword rename =>
      obtain ⟨d, hd, hpart⟩ := part_rows settings
        (g := fun row => .textIf rowKeyword "ROW" ++ Layout.valueRow row)
        (fun _ _ hd => .second (.parens (.joined _ .here hd))) hm
      exact .first (.second (.parens (.second (hpart.commas hd))))
  | paren t =>
      rw [List.mem_singleton.1 hm]
      exact .parens .here

/-- A join shows its table, and its condition where its kind takes one. -/
theorem join_showsParts (j : Join) : (join j).ShowsParts settings := by
  intro m hm _
  rcases j with ⟨kind, table, condition, columns⟩
  rcases List.mem_cons.1 hm with rfl | hm
  · exact .first (.second .here)
  · split at hm
    · next htakes =>
        cases condition with
        | none => contradiction
        | some condition =>
            rw [List.mem_singleton.1 hm]
            refine .second ?_
            unfold Layout.joinCondition
            rw [if_pos htakes]
            exact .second .here
    · contradiction

theorem cte_showsParts (c : Cte) : (cte c).ShowsParts settings := by
  intro m hm _
  rw [List.mem_singleton.1 hm]
  exact .second (.parens .here)

theorem assignment_showsParts (a : Assignment) :
    (assignment a).ShowsParts settings := by
  intro m hm _
  simp only [shown] at hm
  split at hm
  · contradiction
  · next hfrom =>
      rw [List.mem_singleton.1 hm]
      refine .second ?_
      rw [if_neg hfrom]
      exact .here

/-- A column definition shows its default, its checks and its generating
expression. -/
theorem columnDef_showsParts (c : ColumnDef) :
    (columnDef c).ShowsParts settings := by
  intro m hm _
  simp only [shown, children, List.mem_append] at hm
  refine .second ?_
  rcases hm with ((hm | hm) | hm) | hm
  · obtain ⟨type, htype, rfl⟩ := List.mem_map.1 hm
    have hmem :
        Layout.typeDoc settings type ∈ c.dataType.map (Layout.typeDoc settings) :=
      Option.mem_map_of_mem _ (Option.mem_toList.1 htype)
    exact .fragments (.optional .here hmem) (by simp)
  · have hmem := doc_mem_expr? settings hm
    rw [← Layout.map_expr] at hmem
    exact .fragments (.clause "DEFAULT " .here hmem) (by simp)
  · have hmem := doc_mem_expr? settings hm
    rw [← Layout.map_expr] at hmem
    exact .fragments (.clause "ON UPDATE " .here hmem) (by simp)
  · obtain ⟨e, he, rfl⟩ := List.mem_map.1 hm
    have hmem : (Layout.expr settings e).parens ∈
        c.options.check.map (.parens <| Layout.expr settings ·) :=
      Option.mem_map_of_mem _ (Option.mem_toList.1 he)
    exact .fragments (.clause "CHECK " (.parens .here) hmem) (by simp)

theorem constraint_showsParts (c : TableConstraint) :
    (constraint c).ShowsParts settings := by
  intro m hm _
  cases c with
  | check name condition =>
      rw [List.mem_singleton.1 hm]
      exact .second (.parens .here)
  | primaryKey _ _ _ | unique _ _ _ _ _ | foreignKey _ _ _ => contradiction

/-! ## All nodes -/

/-- Every part of the syntax shows the parts it says it shows. -/
theorem showsParts {n : Node} (h : n.isPart = true) : n.ShowsParts settings := by
  cases n with
  | expr e => exact expr_showsParts e
  | call c => exact call_showsParts c
  | aggregate a => exact aggregate_showsParts a
  | dataType type => exact dataType_showsParts type
  | cast c => exact cast_showsParts c
  | extract x => exact extract_showsParts x
  | anyValue a => exact anyValue_showsParts a
  | window w => exact window_showsParts w
  | bound b => exact bound_showsParts b
  | sortKey k => exact sortKey_showsParts k
  | query q => exact query_showsParts q
  | body b => exact body_showsParts b
  | select s => exact select_showsParts s
  | item i => exact item_showsParts i
  | modifier m => exact modifier_showsParts m
  | table t => exact table_showsParts t
  | join j => exact join_showsParts j
  | cte c => exact cte_showsParts c
  | assignment a => exact assignment_showsParts a
  | columnDef c => exact columnDef_showsParts c
  | constraint c => exact constraint_showsParts c
  | index i => exact fun _ hm => absurd hm (List.not_mem_nil)
  | statement s => contradiction

/-- What is printed within a node is part of its layout. -/
theorem part_of_mem_printed {n : Node} (hn : n.isPart = true)
    (hm : m ∈ Walk.printed.nodes n) (hne : m.doc settings ≠ .empty) :
    (m.doc settings).Part (n.doc settings) := by
  induction n using Walk.printed.induction with
  | step n ih =>
      rw [Walk.nodes_eq, List.mem_cons, List.mem_flatMap] at hm
      rcases hm with rfl | ⟨k, hk, hm⟩
      · exact .here
      · have hpart := ih k hk (isPart_of_mem_parts (mem_parts_of_mem_shown hk)) hm
        refine hpart.trans (showsParts hn k hk fun hempty => hne ?_)
        rw [hempty] at hpart
        exact hpart.eq_empty

end Node

end SqlPrinter
