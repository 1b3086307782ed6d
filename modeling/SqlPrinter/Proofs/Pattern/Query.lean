/-
Patterns for expressions and queries: every node of a statement has one if each
of its parts has one.  The parts of a list differ in their sites, since the head
lies below part 0 and the tail below part 1.
-/
import SqlPrinter.Proofs.Pattern.Leaf

namespace SqlPrinter

variable {settings : Settings} {ok : Node.Leaf → Prop}

/-! ## Lists -/

/-- The layouts of the members of a list, given the layout of each. -/
theorem Fits.list {α : Type} {G : Site → α → Filling → Doc}
    {L : Site → List α → Filling → List Doc} {as : List α}
    (hnil : ∀ p, L p [] = fun _ => [])
    (hcons : ∀ p a as, L p (a :: as) = fun f =>
      G (p.part 0) a f :: L (p.part 1) as f)
    (has : ∀ a ∈ as, ∀ p, Fits (Pattern settings ok) p (G p a)) (p : Site) :
    Fits (Patterns settings ok) p (L p as) := by
  induction as generalizing p with
  | nil =>
      rw [hnil]
      exact .const .nil p
  | cons a as ih =>
      have ha := has a List.mem_cons_self (p.part 0)
      have htail := ih (fun b hb => has b (List.mem_cons_of_mem a hb)) (p.part 1)
      rw [hcons]
      exact (Laid.cons ha.laid htail.laid rfl).fits

namespace Layout

/-- A join. -/
def joinDoc (settings : Settings) (j : Join) : Doc :=
  .text j.kind.text ++ tableRef settings j.table ++
    joinCondition j.kind (expr? settings j.condition) j.columns

/-- A common table expression. -/
def cteDoc (settings : Settings) (c : Cte) : Doc :=
  .requireText c.name "cte" "name" ++ .name c.name ++
    (if c.columns.isEmpty then .empty
      else .text " " ++ .parens (.names "cte" "columns" c.columns)) ++
    .text " AS" ++ Materialization.doc? c.materialized ++ .text " " ++
    .parens (queryDoc settings c.query)

/-- A named window. -/
def windowDoc (settings : Settings) (w : NamedWindow) : Doc :=
  .requireText w.name "window" "name" ++
    .isolated (.verbatim w.name ++ .text " AS " ++
      .parens (windowSpec settings w.window))

/-- What stands between the arguments of a call. -/
def argSeparator (name : String) (separator : Option String) : Doc :=
  if name.toUpper = "TRIM" then .text " "
  else match Text.nonEmpty separator with
    | none => .text ", "
    | some s => .verbatim s

/-- The name of a call with its arguments. -/
def callHead (name : String) (separator : Option String) (argsParentheses : Bool)
    (args : List Doc) : Doc :=
  let args := .joined (argSeparator name separator) args
  if argsParentheses then .verbatim name ++ .parens args
  else .fragments " " [.verbatim name, args]

/-- The members of a type, or else its size. -/
def typeSize (type : DataType) (values : List Doc) : Doc :=
  if !values.isEmpty then .parens (.commas values)
  else
    match type.length, type.scale with
    | some length, none => .parens (.number length)
    | some length, some scale =>
        .parens (.number length ++ .text ", " ++ .number scale)
    | none, _ => if type.parentheses then .parens .empty else .empty

/-- Sets of keys, each in parentheses. -/
def keySets (settings : Settings) (sets : List (List Expr)) : Doc :=
  .commas ((rows settings sets).map fun keys => .parens (.commas keys))

theorem map_expr (settings : Settings) (o : Option Expr) :
    o.map (expr settings) = expr? settings o := by
  cases o <;> rfl

end Layout

namespace Node

variable (settings ok) in
/-- The layout of a node has a pattern, under every site. -/
def HasPattern : Node → Prop
  | expr e =>
      ∀ p, Fits (Pattern settings ok) p fun f => Layout.expr settings (f.expr p e)
  | call c => ∀ p, Fits (Pattern settings ok) p fun f =>
      Layout.functionCall settings (f.call p c)
  | aggregate a => ∀ p, Fits (Pattern settings ok) p fun f =>
      Layout.aggregate settings (f.aggregate p a)
  | dataType t => ∀ p, Fits (Pattern settings ok) p fun f =>
      Layout.typeDoc settings (f.dataType p t)
  | cast c => ∀ p, Fits (Pattern settings ok) p fun f =>
      Layout.castExpr settings (f.cast p c)
  | extract x => ∀ p, Fits (Pattern settings ok) p fun f =>
      Layout.extractCall settings (f.extract p x)
  | anyValue a => ∀ p, Fits (Pattern settings ok) p fun f =>
      Layout.anyValue settings (f.anyValue p a)
  | window w => ∀ p, Fits (Pattern settings ok) p fun f =>
      Layout.windowSpec settings (f.window p w)
  | bound b => ∀ p, Fits (Pattern settings ok) p fun f =>
      Layout.frameBound settings (f.bound p b)
  | sortKey k => ∀ p, Fits (Pattern settings ok) p fun f =>
      Layout.orderItem settings (Layout.expr settings (f.sortKey p k).key)
        k.direction k.nulls
  | query q => ∀ p, Fits (Pattern settings ok) p fun f =>
      Layout.queryDoc settings (f.query p q)
  | body b => ∀ p, Fits (Pattern settings ok) p fun f =>
      Layout.bodyDoc settings (f.body p b)
  | select s => ∀ p, Fits (Pattern settings ok) p fun f =>
      Layout.selectDoc settings (f.select p s)
  | item i => ∀ p, Fits (Pattern settings ok) p fun f =>
      Layout.selectItem settings (f.item p i)
  | modifier (.groupingSets sets) => ∀ p, Fits (Pattern settings ok) p fun f =>
      Layout.keySets settings (f.rows p sets)
  | modifier .rollup | modifier .cube => True
  | table t => ∀ p, Fits (Pattern settings ok) p fun f =>
      Layout.tableRef settings (f.table p t)
  | join j => ∀ p, Fits (Pattern settings ok) p fun f =>
      Layout.joinDoc settings (f.join p j)
  | cte c =>
      ∀ p, Fits (Pattern settings ok) p fun f => Layout.cteDoc settings (f.cte p c)
  | assignment a => ∀ inserted p, Fits (Pattern settings ok) p fun f =>
      Layout.assignment settings inserted (f.assignment p a)
  | columnDef c => ∀ p, Fits (Pattern settings ok) p fun f =>
      Layout.columnDef settings (f.columnDef p c)
  | constraint c => ∀ p, Fits (Pattern settings ok) p fun f =>
      Layout.tableConstraint settings (f.constraint p c)
  | index i => Pattern settings ok [] fun f => Layout.indexDef (f.index i)
  | statement s =>
      ∀ p, Fits (Pattern settings ok) p fun f => (f.statement p s).doc settings

/-! ## Lists of parts -/

theorem exprs_fit (es : List Expr) (h : ∀ m ∈ exprs es, m.HasPattern settings ok)
    (p : Site) :
    Fits (Patterns settings ok) p fun f => Layout.exprs settings (f.exprs p es) :=
  Fits.list (L := fun p es f => Layout.exprs settings (f.exprs p es)) (fun _ => rfl)
    (fun _ _ _ => rfl) (fun e he => h (expr e) (List.mem_map_of_mem he)) p

theorem expr?_fits (e : Option Expr) (h : ∀ m ∈ expr? e, m.HasPattern settings ok)
    (p : Site) :
    Fits (PatternOpt settings ok) p fun f =>
      Layout.expr? settings (f.expr? p e) := by
  cases e with
  | none => exact .const .none p
  | some e =>
      have he : (expr e).HasPattern settings ok := h _ (by simp [expr?, exprs])
      exact (he p).lift .some

theorem branches_fit (bs : List (Expr × Expr))
    (h : ∀ m ∈ branches bs, m.HasPattern settings ok) (p : Site) :
    Fits (Patterns settings ok) p fun f =>
      Layout.caseBranches settings (f.branches p bs) := by
  induction bs generalizing p with
  | nil => exact .const .nil p
  | cons b bs ih =>
      have hcondition := h (expr b.1) (by simp [branches]) (p.part 0)
      have hvalue := h (expr b.2) (by simp [branches]) (p.part 1)
      have hrest := ih (fun m hm => h m (by simp_all [branches])) (p.part 2)
      have hlead :=
        (hcondition.laid.text_then (s := " WHEN ") rfl).then_text
          (s := " THEN ") rfl
      exact ((hlead.append hvalue.laid rfl).cons hrest.laid rfl).fits

/-! ## Expressions -/

theorem star_hasPattern {t : Option String}
    (ht : ∀ s ∈ Text.nonEmpty t, ok (.name s)) :
    (expr (.star t)).HasPattern settings ok := by
  intro p
  simp only [Filling.expr, Layout.expr, Filling.nonEmpty_map_name]
  refine .const (Pattern.then_text ?_ (by rfl)) p
  cases hne : Text.nonEmpty t with
  | none => exact .empty
  | some s => exact .then_text (.name (ht s (by simp [hne]))) rfl

theorem var_hasPattern {sigil s : String} (hsigil : ok (.verbatim sigil))
    (hname : ok (.verbatim s)) : (expr (.var sigil s)).HasPattern settings ok := by
  intro p
  refine .const (.then_fixed (.then_fixed ?_ (.verbatim hsigil))
    (.verbatim hname)) p
  exact .requireText _ _ _

theorem binary_hasPattern {left right : Expr} {op : BinaryOp}
    (hleft : (expr left).HasPattern settings ok)
    (hop : ∀ s, op = .other s → ok (.verbatim s))
    (hright : (expr right).HasPattern settings ok) :
    (expr (.binary left op right)).HasPattern settings ok := by
  intro p
  simp only [Filling.expr, Layout.expr]
  exact ((((((hleft (p.part 0)).laid.fixed_then (.require _ _ _)).then_text
    (by rfl)).then_fixed
    (.operator hop)).then_text (by rfl)).append (hright (p.part 1)).laid rfl).fits

theorem unary_hasPattern {op : UnaryOp} {operand : Expr}
    (hoperand : (expr operand).HasPattern settings ok) :
    (expr (.unary op operand)).HasPattern settings ok := by
  intro p
  have hop : IsPlain op.text := by cases op <;> rfl
  exact (hoperand p).lift
    (Pattern.then_fixed (.text hop) (.textIf op.isWord (by rfl))).fixed_then

theorem between_hasPattern {subject low high : Expr} {negated : Bool}
    (hsubject : (expr subject).HasPattern settings ok)
    (hlow : (expr low).HasPattern settings ok)
    (hhigh : (expr high).HasPattern settings ok) :
    (expr (.between subject negated low high)).HasPattern settings ok := by
  intro p
  have hword : IsPlain (if negated then " NOT BETWEEN " else " BETWEEN ") := by
    cases negated <;> rfl
  simp only [Filling.expr, Layout.expr]
  have hlead := (((hsubject (p.part 0)).laid.then_text hword).append
    (hlow (p.part 1)).laid rfl).then_text (s := " AND ") rfl
  exact (hlead.append (hhigh (p.part 2)).laid rfl).fits

theorem case_hasPattern {operand otherwise : Option Expr} {bs : List (Expr × Expr)}
    (hoperand : ∀ m ∈ expr? operand, m.HasPattern settings ok)
    (hbs : ∀ m ∈ branches bs, m.HasPattern settings ok)
    (hotherwise : ∀ m ∈ expr? otherwise, m.HasPattern settings ok) :
    (expr (.case operand bs otherwise)).HasPattern settings ok := by
  intro p
  have hsubject := (expr?_fits operand hoperand (p.part 0)).laid
  have hbranches := (branches_fit bs hbs (p.part 1)).laid
  have helse := (expr?_fits otherwise hotherwise (p.part 2)).laid
  simp only [Filling.expr, Layout.expr, Filling.isEmpty_branches]
  have hword : Pattern settings ok [] fun _ =>
      .require (!bs.isEmpty) "case" "when_then" ++ .text "CASE" :=
    .then_text (.require _ _ _) rfl
  have hlead := ((hsubject.clause (s := " ") rfl).fixed_then hword).append
    (hbranches.lift (·.concat)) rfl
  exact ((hlead.append (helse.clause (s := " ELSE ") rfl) rfl).then_text
    (by rfl)).fits

theorem collate_hasPattern {subject : Expr} {collation : KeywordValue}
    (hsubject : (expr subject).HasPattern settings ok)
    (hcollation : ∀ l ∈ keywordLeaves collation, ok l) :
    (expr (.collate subject collation)).HasPattern settings ok :=
  fun p => (hsubject p).lift fun hF =>
    .then_fixed (hF.then_text rfl) (.keyword hcollation)

theorem fullText_hasPattern {columns : List ColumnRef} {against : Expr}
    {mode : Option String} (hcolumns : ∀ l ∈ columns.flatMap columnLeaves, ok l)
    (hagainst : (expr against).HasPattern settings ok)
    (hmode : ∀ s ∈ Text.nonEmpty mode, ok (.verbatim s)) :
    (expr (.fullText columns against mode)).HasPattern settings ok := by
  intro p
  have hempty (f : Filling) : (columns.map f.column).isEmpty = columns.isEmpty := by
    cases columns <;> rfl
  simp only [Filling.expr, Layout.expr, hempty]
  refine (hagainst p).lift fun hF =>
    .fixed_then (.then_text ?_ rfl) (.parens (hF.then_fixed ?_))
  · exact .then_fixed (.then_text (.require _ _ _) rfl)
      (.parens (Patterns.columnRefs hcolumns).commas)
  · exact (PatternOpt.const _ fun s hs => .word (hmode s hs)).clause rfl

theorem interval_hasPattern {amount : Expr} {unit : String}
    (hamount : (expr amount).HasPattern settings ok) (hunit : ok (.verbatim unit)) :
    (expr (.interval amount unit)).HasPattern settings ok := by
  refine fun p => (hamount p).lift fun hF =>
    .then_fixed (.then_text (.fixed_then ?_ hF) rfl) (.word hunit)
  exact .then_text (.requireText _ _ _) rfl

theorem expr_hasPattern {e : Expr} (hleaves : ∀ l ∈ exprLeaves e, ok l)
    (h : ∀ m ∈ ofExpr e, m.HasPattern settings ok) :
    (expr e).HasPattern settings ok := by
  cases e with
  | column ref => exact fun p => .const (.columnRef hleaves) p
  | star t =>
      refine star_hasPattern fun s hs => hleaves _ ?_
      have hmem := Text.mem_of_mem_nonEmpty hs
      simp_all [exprLeaves, names]
  | keyword word =>
      exact fun p => .const (.then_fixed (.requireText _ _ _)
        (.word (hleaves _ (by simp [exprLeaves])))) p
  | literal v => exact fun p => .const (.literal hleaves) p
  | parameter param => exact fun p => .parameter p hleaves
  | var sigil s =>
      exact var_hasPattern (hleaves _ (by simp [exprLeaves, verbatims]))
        (hleaves _ (by simp [exprLeaves, verbatims]))
  | binary left op right =>
      refine binary_hasPattern (h _ (by simp [ofExpr])) ?_ (h _ (by simp [ofExpr]))
      rintro s rfl
      exact hleaves _ (by simp [exprLeaves])
  | unary op operand => exact unary_hasPattern (h _ (by simp [ofExpr]))
  | between subject negated low high =>
      exact between_hasPattern (h _ (by simp [ofExpr])) (h _ (by simp [ofExpr]))
        (h _ (by simp [ofExpr]))
  | paren inner => exact fun p => (h (expr inner) (by simp [ofExpr]) p).lift .parens
  | list items =>
      exact fun p => (exprs_fit items h p).lift fun hFs => .parens hFs.commas
  | function c => exact fun p => (h (call c) (by simp [ofExpr]) p).lift .isolated
  | aggregate a =>
      exact fun p => (h (Node.aggregate a) (by simp [ofExpr]) p).lift .isolated
  | cast c => exact fun p => (h (Node.cast c) (by simp [ofExpr]) p).lift .isolated
  | extract x =>
      exact fun p => (h (Node.extract x) (by simp [ofExpr]) p).lift .isolated
  | anyValue a =>
      exact fun p => (h (Node.anyValue a) (by simp [ofExpr]) p).lift .isolated
  | case operand bs otherwise =>
      exact case_hasPattern (fun m hm => h m (by simp [ofExpr, hm]))
        (fun m hm => h m (by simp [ofExpr, hm]))
          (fun m hm => h m (by simp [ofExpr, hm]))
  | subquery q => exact fun p => (h (query q) (by simp [ofExpr]) p).lift .parens
  | collate subject collation =>
      exact collate_hasPattern (h _ (by simp [ofExpr])) hleaves
  | fullText columns against mode =>
      refine fullText_hasPattern (fun l hl => hleaves l (by simp_all [exprLeaves]))
        (h _ (by simp [ofExpr])) fun s hs => hleaves _ ?_
      have hmem := Text.mem_of_mem_nonEmpty hs
      simp_all [exprLeaves, verbatims]
  | interval amount unit =>
      exact interval_hasPattern (h _ (by simp [ofExpr]))
        (hleaves _ (by simp [exprLeaves]))

/-! ## Calls -/

theorem over?_fits (o : Option Over) (hleaves : ∀ l ∈ overLeaves o, ok l)
    (h : ∀ m ∈ over? o, m.HasPattern settings ok) (p : Site) :
    Fits (Pattern settings ok) p fun f =>
      Layout.overDoc settings (f.over? p o) := by
  rcases o with _ | s | w
  · exact .const .empty p
  · refine .const (.then_fixed (.then_text (.requireText _ _ _) rfl)
      (.verbatim ?_)) p
    exact hleaves _ (by simp [overLeaves])
  · have hwindow := h (window w) (by simp [over?]) p
    exact hwindow.lift fun hF => .text_then hF.parens rfl

theorem keyword?_pattern {kv : Option KeywordValue}
    (hkv : ∀ l ∈ keywordLeaves? kv, ok l) :
    PatternOpt settings ok [] fun _ => kv.map KeywordValue.doc := by
  refine .const kv fun a ha => .keyword fun l hl => hkv l ?_
  simp_all [keywordLeaves?]

theorem argSeparator_pattern (name : String) {separator : Option String}
    (h : ∀ s ∈ Text.nonEmpty separator, ok (.verbatim s)) :
    Pattern settings ok [] fun _ => Layout.argSeparator name separator := by
  unfold Layout.argSeparator
  split
  · exact .text rfl
  · cases hne : Text.nonEmpty separator with
    | none => exact .text rfl
    | some s => exact .verbatim (h s (by simp [hne]))

/-- The name of a call with its arguments, which stand side by side
without parentheses. -/
theorem callHead_laid {p : Site} {name : String} (hname : ok (.verbatim name))
    {separator : Option String} (argsParentheses : Bool)
    (hseparator : ∀ s ∈ Text.nonEmpty separator, ok (.verbatim s))
    {Fs : Filling → List Doc} (hFs : Laid (Patterns settings ok) p [0] Fs) :
    Laid (Pattern settings ok) p [0] fun f =>
      Layout.callHead name separator argsParentheses (Fs f) := by
  have hjoined := hFs.lift (·.joined (argSeparator_pattern name hseparator))
  cases argsParentheses with
  | true => exact hjoined.parens.fixed_then (.verbatim hname)
  | false =>
      have hverbatim : Laid (Pattern settings ok) p [] fun _ => .verbatim name :=
        .const (.verbatim hname) p
      exact (hverbatim.cons (hjoined.cons (.const .nil p) rfl) rfl).fragments

theorem call_hasPattern {c : FunctionCall} (hleaves : ∀ l ∈ (call c).leaves, ok l)
    (h : ∀ m ∈ (call c).children, m.HasPattern settings ok) :
    (call c).HasPattern settings ok := by
  intro p
  rcases c with ⟨name, args, argsParentheses, separator, parentheses, window,
    collate, suffix⟩
  have hname : ok (.verbatim name) := hleaves _ (by simp [leaves, verbatims])
  have hnil : Laid (Patterns settings ok) p [] fun _ => [] := .const .nil p
  have hwindow := (over?_fits window (fun l hl => hleaves l (by simp [leaves, hl]))
    (fun m hm => h m (by simp [children, hm])) (p.part 2)).laid
  have hsuffix := (expr?_fits suffix (fun m hm => h m (by simp [children, hm]))
    (p.part 1)).laid.optional
  have hcollate : PatternOpt settings ok [] fun _ => collate.map KeywordValue.doc :=
    keyword?_pattern fun l hl => hleaves l (by simp [leaves, hl])
  cases args with
  | none =>
      have hverbatim : Laid (Pattern settings ok) p [] fun _ => .verbatim name :=
        .const (.verbatim hname) p
      have hall := (hverbatim.cons (hwindow.cons hnil rfl) rfl).fragments
      exact (hall.fixed_then (.requireText name "function" "name")).fits
  | some args =>
      have hargs :=
        (exprs_fit args (fun m hm => h m (by simp [children, hm])) (p.part 0)).laid
      have hseparator : ∀ s ∈ Text.nonEmpty separator, ok (.verbatim s) := by
        refine fun s hs => hleaves _ ?_
        have hmem := Text.mem_of_mem_nonEmpty hs
        simp_all [leaves, verbatims]
      have hhead := callHead_laid hname argsParentheses hseparator hargs
      have hsuffixed := (hhead.cons (hsuffix.cons hnil rfl) rfl).fragments
      have htail :=
        (Laid.const hcollate.optional p).cons (hwindow.cons hnil rfl) rfl
      cases parentheses with
      | true =>
          have hall := (hsuffixed.parens.cons htail rfl).fragments
          exact (hall.fixed_then (.requireText name "function" "name")).fits
      | false =>
          have hall := (hsuffixed.cons htail rfl).fragments
          exact (hall.fixed_then (.requireText name "function" "name")).fits

theorem sortKeys_fit (ks : List OrderItem)
    (h : ∀ k ∈ ks, (sortKey k).HasPattern settings ok) (p : Site) :
    Fits (Patterns settings ok) p fun f =>
      Layout.orderItems settings (f.sortKeys p ks) :=
  Fits.list (L := fun p ks f => Layout.orderItems settings (f.sortKeys p ks))
    (fun _ => rfl)
    (fun _ k _ => by cases k; rfl) h p

/-- Sort keys in a clause that is left out if there are none. -/
theorem orderBy_fits (ks : List OrderItem)
    (h : ∀ k ∈ ks, (sortKey k).HasPattern settings ok) (p : Site) :
    Fits (Pattern settings ok) p fun f =>
      Layout.orderBy (Layout.orderItems settings (f.sortKeys p ks)) :=
  (sortKeys_fit ks h p).lift fun hFs => hFs.orEmpty (hFs.commas.text_then rfl)

/-- The condition of an aggregate. -/
theorem filter_fits (filter : Option Expr)
    (h : ∀ m ∈ expr? filter, m.HasPattern settings ok) (p : Site) :
    Fits (Pattern settings ok) p fun f =>
      match Layout.expr? settings (f.expr? p filter) with
      | none => .empty
      | some condition =>
          .text "FILTER " ++ .parens (.text "WHERE " ++ condition) := by
  cases filter with
  | none => exact .const .empty p
  | some e =>
      have he := h (expr e) (by simp [expr?, exprs]) p
      exact he.lift fun hF => .text_then (.parens (hF.text_then rfl)) rfl

theorem aggregate_hasPattern {a : Aggregate}
    (hleaves : ∀ l ∈ (aggregate a).leaves, ok l)
    (h : ∀ m ∈ (aggregate a).children, m.HasPattern settings ok) :
    (aggregate a).HasPattern settings ok := by
  intro p
  rcases a with ⟨name, distinct, args, orderBy, separator, filter, window⟩
  have hname : ok (.verbatim name) := hleaves _ (by simp [leaves])
  have hargs := exprs_fit args (fun m hm => h m (by simp [children, hm])) (p.part 0)
  have horder := orderBy_fits orderBy
    (fun k hk => h (sortKey k) (by simp [children, hk])) (p.part 1)
  have hseparator :=
    expr?_fits separator (fun m hm => h m (by simp [children, hm])) (p.part 2)
  have hcondition :=
    filter_fits filter (fun m hm => h m (by simp [children, hm])) (p.part 3)
  have hwindow := over?_fits window (fun l hl => hleaves l (by simp [leaves, hl]))
    (fun m hm => h m (by simp [children, hm])) (p.part 4)
  have hinner :=
    ((hargs.laid.commas.fixed_then (.textIf distinct (s := "DISTINCT ") rfl)).append
    horder.laid rfl).append (hseparator.laid.clause (s := " SEPARATOR ") rfl) rfl
  have hhead := hinner.parens.fixed_then (.word hname)
  have htail := hcondition.laid.cons (hwindow.laid.cons (.const .nil p) rfl) rfl
  have hall := (hhead.cons htail rfl).fragments
  exact (hall.fixed_then (.requireText name "aggregate" "name")).fits

theorem typeSize_pattern (t : DataType) {l : List Site} {Fs : Filling → List Doc}
    (hFs : Patterns settings ok l Fs) :
    Pattern settings ok l fun f => Layout.typeSize t (Fs f) := by
  cases hFs with
  | cons hF hFs => exact .parens (Patterns.commas (.cons hF hFs))
  | nil =>
      simp only [Layout.typeSize, List.isEmpty_nil, Bool.not_true,
        Bool.false_eq_true, if_false]
      split
      · exact .parens (.number _)
      · exact .parens (.then_fixed (.then_text (.number _) rfl) (.number _))
      · split
        · exact .parens .empty
        · exact .empty

theorem dataType_hasPattern {t : DataType} (hleaves : ∀ l ∈ typeLeaves t, ok l)
    (h : ∀ m ∈ exprs t.values, m.HasPattern settings ok) :
    (dataType t).HasPattern settings ok := by
  intro p
  have hsuffix : Pattern settings ok [] fun _ => .words t.suffix :=
    .words fun s hs => hleaves _ (by simp [typeLeaves, verbatims, hs])
  have hvalues := exprs_fit t.values h p
  have hname : Pattern settings ok [] fun _ => Layout.typeName t :=
    .typeName hleaves
  cases t with
  | mk name length scale parentheses quoted suffix array values =>
  refine hvalues.lift fun hFs => .fixed_then (.requireText name _ _) ?_
  have hhead := hname.fixed_then
    (typeSize_pattern ⟨name, length, scale, parentheses, quoted, suffix, array,
      values⟩ hFs)
  exact (Patterns.cons_fixed (hhead.then_fixed (.dimensions array))
    (.cons_fixed hsuffix .nil)).fragments

/-- What follows a cast, if anything does. -/
theorem castTail_laid (tail : Option CastTail)
    (hleaves : ∀ t ∈ tail, ok (.verbatim t.operator))
    (h : ∀ t ∈ tail, (expr t.operand).HasPattern settings ok) (p : Site) :
    Laid (Pattern settings ok) p [2] fun f =>
      Layout.castTailDoc settings (f.castTail (p.part 2) tail) := by
  rcases tail with _ | ⟨operator, operand⟩
  · exact (Fits.const .empty _).laid
  · have hoperator : ok (.verbatim operator) := hleaves ⟨operator, operand⟩ rfl
    exact (h ⟨operator, operand⟩ rfl (p.part 2)).laid.fixed_then
      (.then_text (.then_fixed (.then_text (.require _ _ _) rfl)
        (.verbatim hoperator)) rfl)

theorem cast_hasPattern {c : Cast} (hleaves : ∀ l ∈ (cast c).leaves, ok l)
    (h : ∀ m ∈ (cast c).children, m.HasPattern settings ok) :
    (cast c).HasPattern settings ok := by
  intro p
  rcases c with ⟨subject, target, form, keyword, tail, rename, collate⟩
  have hsubject := (h (expr subject) (by simp [children]) (p.part 0)).laid
  have htype : Pattern settings ok [] fun _ => Layout.castType target :=
    .castType fun l hl => hleaves l (by simp [leaves, hl])
  have hrename : ∀ s ∈ rename, ok (.name s) := by
    intro s hs
    apply hleaves
    simp_all [leaves, names]
  have hcollate : PatternOpt settings ok [] fun _ => collate.map KeywordValue.doc :=
    keyword?_pattern fun l hl => hleaves l (by simp [leaves, hl])
  have htail :=
    castTail_laid tail (fun t ht => hleaves _ (by simp_all [leaves, verbatims]))
    (fun t ht => h (expr t.operand) (by simp_all [children, exprs])) p
  have htarget (f : Filling) : Layout.castType (f.dataType (p.part 1) target) =
      Layout.castType target := by
    cases target
    rfl
  have hname (f : Filling) : (f.dataType (p.part 1) target).name = target.name := by
    cases target
    rfl
  have hfinish {F : Filling → Doc} (hF : Laid (Pattern settings ok) p [0] F) :=
    (((hF.fixed_then (.requireText target.name "cast" "data_type")).append htail
      rfl).then_fixed
      (.rename true hrename)).then_fixed (hcollate.clause (s := " ") rfl)
  simp only [Filling.cast, Layout.castExpr, Layout.cast, htarget, hname]
  cases form with
  | keyword =>
      have hkeyword : ok (.verbatim (keyword.getD "")) :=
        hleaves _ (by simp [leaves, verbatims])
      have hinner := ((hsubject.then_fixed (.requireText (keyword.getD "") "cast"
        "keyword")).then_text (s := " AS ") rfl).then_fixed htype
      exact (hfinish (hinner.parens.fixed_then (.word hkeyword))).fits
  | doubleColon =>
      exact (hfinish ((hsubject.then_text (s := "::") rfl).then_fixed htype)).fits

theorem extract_hasPattern {x : Extract} (hleaves : ∀ l ∈ (extract x).leaves, ok l)
    (h : ∀ m ∈ (extract x).children, m.HasPattern settings ok) :
    (extract x).HasPattern settings ok := by
  intro p
  rcases x with ⟨name, field, castType, source⟩
  have hsource := h (expr source) (by simp [children]) p
  have hname : ok (.verbatim name) := hleaves _ (by simp [leaves, verbatims])
  have hfield : ok (.verbatim field) := hleaves _ (by simp [leaves, verbatims])
  have htype : PatternOpt settings ok [] fun _ => castType.map Doc.word := by
    refine .const castType fun s hs => .word (hleaves _ ?_)
    simp_all [leaves, verbatims]
  refine hsource.lift fun hF =>
    .fixed_then (.then_fixed (.then_fixed (.requireText _ _ _)
    (.requireText _ _ _)) (.word hname)) (.parens ?_)
  exact Patterns.fragments
    (.cons (.word hfield) (.cons (.text (by rfl)) (.cons htype.optional
    (.cons_fixed hF .nil))))

theorem anyValue_hasPattern {a : AnyValue}
    (hleaves : ∀ l ∈ (anyValue a).leaves, ok l)
    (h : ∀ m ∈ (anyValue a).children, m.HasPattern settings ok) :
    (anyValue a).HasPattern settings ok := by
  intro p
  rcases a with ⟨name, subject, having, window⟩
  have hname : ok (.verbatim name) := hleaves _ (by simp [leaves, verbatims])
  have hsubject := (h (expr subject) (by simp [children]) (p.part 0)).laid
  have hwindow := (over?_fits window (fun l hl => hleaves l (by simp [leaves, hl]))
    (fun m hm => h m (by simp [children, hm])) (p.part 2)).laid
  have hhaving : Laid (Pattern settings ok) p [1] fun f =>
      Layout.anyValueHaving settings (f.anyValueHaving (p.part 1) having) := by
    rcases having with _ | ⟨bound, other⟩
    · exact (Fits.const .empty _).laid
    · have hother := (h (expr other) (by simp [children, exprs]) (p.part 1)).laid
      have hbound : ok (.verbatim bound) := hleaves _ (by simp [leaves, verbatims])
      exact hother.fixed_then
        (.then_text (.then_fixed (.then_text (.requireText _ _ _) rfl)
        (.word hbound)) rfl)
  have hhead := (hsubject.append hhaving rfl).parens.fixed_then (.word hname)
  have hall := (hhead.cons (hwindow.cons (.const .nil p) rfl) rfl).fragments
  exact (hall.fixed_then (.requireText name "any_value" "name")).fits

/-! ## Windows and sort keys -/

theorem bound_hasPattern {b : FrameBound}
    (h : ∀ m ∈ (bound b).children, m.HasPattern settings ok) :
    (bound b).HasPattern settings ok := by
  intro p
  cases b with
  | preceding distance =>
      exact (h (expr distance) (by simp [children]) p).lift fun hF =>
        hF.then_text rfl
  | following distance =>
      exact (h (expr distance) (by simp [children]) p).lift fun hF =>
        hF.then_text rfl
  | unboundedPreceding => exact .const (.text rfl) p
  | currentRow => exact .const (.text rfl) p
  | unboundedFollowing => exact .const (.text rfl) p

theorem frame?_fits (o : Option WindowFrame)
    (h : ∀ m ∈ frame? o, m.HasPattern settings ok) (p : Site) :
    Fits (Pattern settings ok) p fun f =>
      Layout.windowFrame settings (f.frame? p o) := by
  rcases o with _ | ⟨units, first, last⟩
  · exact .const .empty p
  · have hunits : IsPlain units.text := by cases units <;> rfl
    have hlead : Pattern settings ok [] fun _ => .text units.text ++ .text " " :=
      .then_text (.text hunits) rfl
    have hfirst := (h (bound first) (by simp [frame?]) (p.part 0)).laid
    cases last with
    | none => exact (hfirst.fixed_then hlead).fits
    | some last =>
        have hlast := (h (bound last) (by simp [frame?]) (p.part 1)).laid
        have hbetween :=
          (hfirst.text_then (s := "BETWEEN ") rfl).then_text (s := " AND ") rfl
        exact ((hbetween.append hlast rfl).fixed_then hlead).fits

theorem window_hasPattern {w : WindowSpec} (hleaves : ∀ l ∈ (window w).leaves, ok l)
    (h : ∀ m ∈ (window w).children, m.HasPattern settings ok) :
    (window w).HasPattern settings ok := by
  intro p
  rcases w with ⟨base, partitionBy, orderBy, frame⟩
  have hbase : PatternOpt settings ok [] fun _ => base.map Doc.verbatim := by
    refine .const base fun s hs => .verbatim (hleaves _ ?_)
    simp_all [leaves, verbatims]
  have hpartition :=
    exprs_fit partitionBy (fun m hm => h m (by simp [children, hm])) (p.part 0)
  have horder :=
    sortKeys_fit orderBy (fun k hk => h (sortKey k) (by simp [children, hk]))
    (p.part 1)
  have hframe :=
    frame?_fits frame (fun m hm => h m (by simp [children, hm])) (p.part 2)
  simp only [Filling.window, Layout.windowSpec, Filling.isEmpty_exprs,
    Filling.isEmpty_sortKeys]
  have hpartitionBy :=
    (hpartition.laid.commas.text_then (s := "PARTITION BY ") rfl).unless
    partitionBy.isEmpty
  have horderBy :=
    (horder.laid.commas.text_then (s := "ORDER BY ") rfl).unless orderBy.isEmpty
  have hclauses :=
    hpartitionBy.cons (horderBy.cons (hframe.laid.cons (.const .nil p) rfl) rfl) rfl
  exact ((Laid.const hbase.optional p).cons hclauses rfl).fragments.fits

theorem sortKey_hasPattern {k : OrderItem}
    (h : ∀ m ∈ (sortKey k).children, m.HasPattern settings ok) :
    (sortKey k).HasPattern settings ok := by
  intro p
  have hkey := h (expr k.key) (by simp [children])
  rcases k with ⟨key, direction, _ | nulls⟩
  · have hplain : Fits (Pattern settings ok) p fun f =>
        Layout.expr settings (f.expr p key) ++ Direction.doc? direction ++
          NullsOrder.doc? none :=
      (hkey p).lift fun hF => .then_fixed (hF.then_fixed (.direction _)) (.nulls _)
    cases hemulates : settings.nullsByKey with
    | false =>
        simp only [Layout.orderItem, hemulates]
        exact hplain
    | true =>
        simp only [Layout.orderItem, hemulates]
        exact hplain
  · obtain ⟨l, hF, hnodup, hbelow⟩ := hkey (.nullsKey :: p)
    refine ⟨l, ?_, hnodup, fun b hb => (List.suffix_cons _ _).trans (hbelow b hb)⟩
    have hmem : ∀ b ∈ l, Step.nullsKey ∈ b :=
      fun b hb => (hbelow b hb).mem List.mem_cons_self
    cases hemulates : settings.nullsByKey with
    | false =>
        simp only [Filling.sortKey, Layout.orderItem, hemulates]
        exact .then_fixed (hF.then_fixed (.direction _)) (.nulls _)
    | true =>
        cases nulls with
        | first =>
            simp only [Filling.sortKey, Layout.orderItem, hemulates]
            exact .then_fixed (.twice hemulates (Or.inr rfl) hmem hF) (.direction _)
        | last =>
            simp only [Filling.sortKey, Layout.orderItem, hemulates]
            exact .then_fixed (.twice hemulates (Or.inl rfl) hmem hF) (.direction _)

/-! ## Queries -/

/-- The row limit, whichever of its two forms it takes. -/
theorem limit_laid {p : Site} {i j : Nat} {C O : Filling → Option Doc}
    (hC : Laid (PatternOpt settings ok) p [i] C)
    (hO : Laid (PatternOpt settings ok) p [j] O) (hij : i ≠ j) :
    Laid (Pattern settings ok) p [i, j] fun f =>
      Layout.limit settings (C f) (O f) := by
  have hclauses : Laid (Pattern settings ok) p [i, j] fun f =>
      .clause " LIMIT " (C f) ++ .clause " OFFSET " (O f) :=
    (hC.clause (by rfl)).append (hO.clause rfl) (.singletons hij)
  rcases hC.optional_cases with rfl | ⟨F, rfl, hF⟩
  · cases hl : settings.mysqlLimit <;> cases hd : settings.dialect.isMysqlFamily <;>
      simpa only [Layout.limit, hl, hd] using hclauses
  · rcases hO.optional_cases with rfl | ⟨G, rfl, hG⟩
    · cases hl : settings.mysqlLimit <;>
        cases hd : settings.dialect.isMysqlFamily <;>
        simpa only [Layout.limit, hl, hd] using hclauses
    · cases hl : settings.mysqlLimit <;> cases hd : settings.dialect.isMysqlFamily
      case offsetCommaLimit.true =>
          have hoffset :=
            (hG.text_then (s := " LIMIT ") rfl).then_text (s := ", ") rfl
          have hswapped := hoffset.append hF (.singletons hij.symm)
          simpa only [Layout.limit, hl, hd] using hswapped.mono (by simp)
      all_goals simpa only [Layout.limit, hl, hd] using hclauses

theorem ctes_fit (cs : List Cte) (h : ∀ c ∈ cs, (cte c).HasPattern settings ok)
    (p : Site) :
    Fits (Patterns settings ok) p fun f => Layout.cteDocs settings (f.ctes p cs) :=
  Fits.list (L := fun p cs f => Layout.cteDocs settings (f.ctes p cs))
    (fun _ => rfl)
    (fun _ c _ => by cases c; rfl) h p

theorem with?_fits (o : Option With) (h : ∀ m ∈ with? o, m.HasPattern settings ok)
    (p : Site) :
    Fits (Pattern settings ok) p fun f =>
      Layout.withDoc settings (f.with? p o) := by
  rcases o with _ | ⟨recursive, cs⟩
  · exact .const .empty p
  · have hctes := ctes_fit cs (fun c hc => h _ (List.mem_map_of_mem hc)) p
    simp only [Filling.with?, Layout.withDoc, Filling.isEmpty_ctes]
    refine hctes.lift fun hFs =>
      .then_text (.fixed_then (.then_text (.then_fixed ?_ ?_) rfl) hFs.commas) rfl
    · exact .then_text (.require _ _ _) rfl
    · exact .textIf recursive rfl

theorem query_hasPattern {q : Query}
    (h : ∀ m ∈ (query q).children, m.HasPattern settings ok) :
    (query q).HasPattern settings ok := by
  intro p
  rcases q with ⟨ctes, body, orderBy, limit, offset⟩
  have hctes :=
    with?_fits ctes (fun m hm => h m (by simp [children, hm])) (p.part 0)
  have hbody := h (.body body) (by simp [children]) (p.part 1)
  have horder :=
    orderBy_fits orderBy (fun k hk => h (sortKey k) (by simp [children, hk]))
    (p.part 2)
  have hlimit :=
    expr?_fits limit (fun m hm => h m (by simp [children, hm])) (p.part 3)
  have hoffset :=
    expr?_fits offset (fun m hm => h m (by simp [children, hm])) (p.part 4)
  exact (((hctes.laid.append hbody.laid rfl).append horder.laid rfl).append
    (limit_laid hlimit.laid hoffset.laid (by decide)) rfl).fits

theorem body_hasPattern {b : QueryBody}
    (h : ∀ m ∈ (body b).children, m.HasPattern settings ok) :
    (body b).HasPattern settings ok := by
  intro p
  cases b with
  | select s => exact h (select s) (by simp [children]) p
  | combine left op right =>
      have hop : IsPlain op.text := by cases op <;> rfl
      have hleft := (h (body left) (by simp [children]) (p.part 0)).laid
      have hright := (h (body right) (by simp [children]) (p.part 1)).laid
      exact ((hleft.then_text hop).append hright rfl).fits

theorem item_hasPattern {i : SelectItem} (hleaves : ∀ l ∈ (item i).leaves, ok l)
    (h : ∀ m ∈ (item i).children, m.HasPattern settings ok) :
    (item i).HasPattern settings ok := by
  intro p
  cases i with
  | star => exact .const (.text rfl) p
  | qualifiedStar table =>
      have htable : ok (.name table) := hleaves _ (by simp [leaves])
      simp only [Filling.item, Layout.selectItem, Filling.requireText_name]
      exact .const (.then_text
        (.then_fixed (.requireText _ _ _) (.name htable)) rfl) p
  | expr value rename =>
      have hvalue := h (expr value) (by simp [children]) p
      have hrename : ∀ s ∈ rename, ok (.name s) := by
        intro s hs
        apply hleaves
        simp_all [leaves, names]
      exact hvalue.lift fun hF => hF.then_fixed (.rename _ hrename)

/-! ## The clauses of a SELECT -/

theorem items_fit (is : List SelectItem)
    (h : ∀ i ∈ is, (item i).HasPattern settings ok) (p : Site) :
    Fits (Patterns settings ok) p fun f =>
      Layout.selectItems settings (f.items p is) :=
  Fits.list (L := fun p is f => Layout.selectItems settings (f.items p is))
    (fun _ => rfl)
    (fun _ _ _ => rfl) h p

theorem tables_fit (ts : List TableRef)
    (h : ∀ t ∈ ts, (table t).HasPattern settings ok) (p : Site) :
    Fits (Patterns settings ok) p fun f =>
      Layout.tableRefs settings (f.tables p ts) :=
  Fits.list (L := fun p ts f => Layout.tableRefs settings (f.tables p ts))
    (fun _ => rfl)
    (fun _ _ _ => rfl) h p

theorem joins_fit (js : List Join) (h : ∀ j ∈ js, (join j).HasPattern settings ok)
    (p : Site) :
    Fits (Patterns settings ok) p fun f =>
      Layout.joinDocs settings (f.joins p js) :=
  Fits.list (L := fun p js f => Layout.joinDocs settings (f.joins p js))
    (fun _ => rfl)
    (fun _ j _ => by cases j; rfl) h p

/-- Tables with the joins after them. -/
theorem tables_laid {p : Site} {i j : Nat} {T J : Filling → List Doc}
    (hT : Laid (Patterns settings ok) p [i] T)
    (hJ : Laid (Patterns settings ok) p [j] J) (hij : i ≠ j) :
    Laid (Pattern settings ok) p [i, j] fun f => Layout.tables (T f) (J f) :=
  hT.commas.append (hJ.lift fun hJ =>
    (hJ.map fun hF => .text_then hF (by rfl)).concat)
    (.singletons hij)

theorem windows_fit (ws : List NamedWindow)
    (hleaves : ∀ w ∈ ws, ok (.verbatim w.name))
    (h : ∀ w ∈ ws, (window w.window).HasPattern settings ok) (p : Site) :
    Fits (Patterns settings ok) p fun f =>
      Layout.namedWindows settings (f.windows p ws) := by
  have hwindow (w : NamedWindow) (hw : w ∈ ws) (p : Site) :
      Fits (Pattern settings ok) p fun f =>
      Layout.windowDoc settings ⟨w.name, f.window p w.window⟩ :=
    (h w hw p).lift fun hF => .fixed_then (.requireText _ _ _) (.isolated
      (.fixed_then (.then_text (.verbatim (hleaves w hw)) rfl) hF.parens))
  exact Fits.list (L := fun p ws f => Layout.namedWindows settings (f.windows p ws))
    (fun _ => rfl) (fun _ w _ => by cases w; rfl) hwindow p

/-- Rows of expressions, each laid out in one way. -/
theorem rows_fit (rs : List (List Expr)) {g : List Doc → Doc}
    (hg : ∀ {l Fs}, Patterns settings ok l Fs → Pattern settings ok l fun f =>
      g (Fs f))
    (h : ∀ m ∈ exprs rs.flatten, m.HasPattern settings ok) (p : Site) :
    Fits (Patterns settings ok) p fun f =>
      (Layout.rows settings (f.rows p rs)).map g := by
  have hrow (r : List Expr) (hr : r ∈ rs) (p : Site) :
      Fits (Pattern settings ok) p fun f =>
      g (Layout.exprs settings (f.exprs p r)) := by
    refine (exprs_fit r (fun m hm => h m ?_) p).lift hg
    obtain ⟨e, he, rfl⟩ := List.mem_map.1 hm
    exact List.mem_map_of_mem (List.mem_flatten.2 ⟨r, hr, he⟩)
  exact Fits.list (L := fun p rs f => (Layout.rows settings (f.rows p rs)).map g)
    (fun _ => rfl) (fun _ _ _ => rfl) hrow p

theorem modifier_hasPattern {m : GroupModifier}
    (h : ∀ n ∈ (modifier m).children, n.HasPattern settings ok) :
    (modifier m).HasPattern settings ok := by
  cases m with
  | groupingSets sets =>
      intro p
      exact (rows_fit sets (fun hFs => .parens hFs.commas) h p).lift fun hFs =>
        hFs.commas
  | _ => trivial

theorem groupingSets_fits (ms : List GroupModifier)
    (h : ∀ m ∈ ms, (modifier m).HasPattern settings ok) (p : Site) :
    Fits (PatternOpt settings ok) p fun f =>
      Layout.groupingSets settings (f.modifiers p ms) := by
  induction ms with
  | nil => exact .const .none p
  | cons m ms ih =>
      have hrest := ih fun n hn => h n (List.mem_cons_of_mem m hn)
      cases m with
      | rollup => exact hrest
      | cube => exact hrest
      | groupingSets sets =>
          have hsets := h (.groupingSets sets) List.mem_cons_self (p.part 0)
          exact (hsets.lift .some).laid.fits

/-- The grouping of a query, by its keys or by grouping sets. -/
theorem groupBy_laid {p : Site} {i j : Nat} {K : Filling → List Doc}
    {S : Filling → Option Doc} (ms : List GroupModifier)
    (hK : Laid (Patterns settings ok) p [i] K)
    (hS : Laid (PatternOpt settings ok) p [j] S) :
    Laid (Pattern settings ok) p [i, j] fun f =>
      Layout.groupBy settings (K f) (f.modifiers (p.part j) ms) (S f) := by
  rcases hS.optional_cases with rfl | ⟨F, rfl, hF⟩
  · simp only [Layout.groupBy, Filling.any_modifiers, implies_true]
    refine (hK.lift fun hFs => hFs.orEmpty ?_).mono (by simp)
    split
    · exact .text_then hFs.commas.parens rfl
    · split
      · split
        · exact .then_text (.text_then hFs.commas rfl) rfl
        · exact .text_then hFs.commas.parens rfl
      · exact .text_then hFs.commas rfl
  · exact (hF.parens.text_then (by rfl)).mono (by simp)

theorem into_fits {t : IntoTarget} {position : IntoPosition}
    (hleaves : ∀ l ∈ intoLeaves (some ⟨position, t⟩), ok l)
    (h : ∀ m ∈ into? (some ⟨position, t⟩), m.HasPattern settings ok) (p : Site) :
    Fits (Pattern settings ok) p fun f =>
      Layout.intoTarget settings (f.into p t) := by
  cases t with
  | vars vars =>
      simp only [Filling.into, Layout.intoTarget, Filling.isEmpty_exprs]
      exact (exprs_fit vars h p).lift fun hFs =>
        .fixed_then (.require _ _ _) hFs.commas
  | outfile file charset =>
      have hfile : ok (.string file) := hleaves _ (by simp [intoLeaves])
      have hcharset : PatternOpt settings ok [] fun _ =>
          (Text.nonEmpty charset).map Doc.verbatim := by
        refine .const _ fun s hs => .verbatim (hleaves _ ?_)
        have hmem := Text.mem_of_mem_nonEmpty hs
        simp_all [intoLeaves, verbatims]
      exact .const (.then_fixed (.text_then (.string hfile) rfl)
        (hcharset.clause rfl)) p
  | dumpfile file =>
      exact .const (.text_then (.string (hleaves _ (by simp [intoLeaves]))) rfl) p
  | table s => exact .const (.name (hleaves _ (by simp [intoLeaves]))) p

/-- The INTO clause at one of its places: it is printed at one of them only. -/
theorem intoAt_laid (o : Option SelectInto) (hleaves : ∀ l ∈ intoLeaves o, ok l)
    (h : ∀ m ∈ into? o, m.HasPattern settings ok) (p : Site)
    (position : IntoPosition) :
    Laid (Pattern settings ok) p [position.part] fun f =>
      Layout.intoAt settings position (f.into? p o) := by
  rcases o with _ | ⟨wanted, target⟩
  · exact (Fits.const .empty _).laid
  · by_cases hwanted : wanted = position
    · subst hwanted
      simp only [Filling.into?, Layout.intoAt, if_true]
      exact (into_fits hleaves h _).laid.text_then rfl
    · simp only [Filling.into?, Layout.intoAt, hwanted, if_false]
      exact (Fits.const .empty _).laid

/-- DISTINCT, or the keys of DISTINCT ON. -/
theorem distinct_laid (distinct : Bool) (keys : List Expr)
    (h : ∀ m ∈ exprs keys, m.HasPattern settings ok) (p : Site) :
    Laid (Pattern settings ok) p [0] fun f =>
      if keys.isEmpty then .textIf distinct "DISTINCT "
      else .text "DISTINCT ON " ++
        .parens (.commas (Layout.exprs settings (f.exprs (p.part 0) keys))) ++
        .text " " := by
  split
  · exact (Fits.const (.textIf distinct rfl) _).laid
  · exact ((exprs_fit keys h _).laid.commas.parens.text_then (by rfl)).then_text rfl

theorem selectOptions_pattern {options : List String}
    (h : ∀ s ∈ options, ok (.verbatim s)) : Pattern settings ok [] fun _ =>
      .concat ((options.filter (· ≠ "")).map (.word · ++ .text " ")) := by
  refine (Patterns.const _ fun s hs => ?_).concat
  exact .then_text (.word (h s (List.mem_filter.1 hs).1)) rfl

/-- The result columns, or a star if there are none. -/
theorem columns_laid (is : List SelectItem)
    (h : ∀ i ∈ is, (item i).HasPattern settings ok) (p : Site) :
    Laid (Pattern settings ok) p [1] fun f =>
      if is.isEmpty then .text "*"
      else .commas (Layout.selectItems settings (f.items (p.part 1) is)) := by
  split
  · exact (Fits.const (.text rfl) _).laid
  · exact (items_fit is h _).laid.commas

/-- The FROM clause.  Joins without a table before them are not printed. -/
theorem sources_laid (ts : List TableRef) (js : List Join)
    (hts : ∀ t ∈ ts, (table t).HasPattern settings ok)
    (hjs : ∀ j ∈ js, (join j).HasPattern settings ok) (p : Site) :
    Laid (Pattern settings ok) p [2, 3] fun f =>
      if ts.isEmpty then .empty
      else .text " FROM " ++
        Layout.tables (Layout.tableRefs settings (f.tables (p.part 2) ts))
        (Layout.joinDocs settings (f.joins (p.part 3) js)) := by
  have hlisted := tables_laid (tables_fit ts hts (p.part 2)).laid
    (joins_fit js hjs (p.part 3)).laid (by decide)
  exact (hlisted.text_then (by rfl)).unless ts.isEmpty

/-- The WINDOW clause. -/
theorem namedWindows_laid (ws : List NamedWindow)
    (hleaves : ∀ w ∈ ws, ok (.verbatim w.name))
    (h : ∀ w ∈ ws, (window w.window).HasPattern settings ok) (p : Site) :
    Laid (Pattern settings ok) p [8] fun f =>
      if ws.isEmpty then .empty
      else .text " WINDOW " ++
        .commas (Layout.namedWindows settings (f.windows (p.part 8) ws)) :=
  ((windows_fit ws hleaves h _).laid.commas.text_then (by rfl)).unless ws.isEmpty

theorem select_hasPattern {s : Select} (hleaves : ∀ l ∈ (select s).leaves, ok l)
    (h : ∀ m ∈ (select s).children, m.HasPattern settings ok) :
    (select s).HasPattern settings ok := by
  intro p
  rcases s with ⟨distinct, distinctOn, options, items, into, tables, joins,
    condition, groupBy, groupModifiers, having, windows, orderBy, limit, offset,
    locking⟩
  simp only [children, ofSelect, List.forall_mem_append, List.forall_mem_map] at h
  obtain ⟨⟨⟨⟨⟨⟨⟨⟨⟨⟨⟨⟨hkeys, hitems⟩, hinto⟩, htables⟩, hjoins⟩, hwhere⟩, hgroups⟩,
    hmodifiers⟩, hhaving⟩, hwindows⟩, horder⟩, hlimit⟩, hoffset⟩ := h
  have hplaced :=
    intoAt_laid into (fun l hl => hleaves l (by simp [leaves, hl])) hinto p
  have hcondition := (expr?_fits condition hwhere (p.part 4)).laid
  have hgroupBy :=
    groupBy_laid groupModifiers (exprs_fit groupBy hgroups (p.part 5)).laid
    (groupingSets_fits groupModifiers hmodifiers (p.part 6)).laid
  have hfilter := (expr?_fits having hhaving (p.part 7)).laid
  have horderBy := (orderBy_fits orderBy horder (p.part 9)).laid
  have hcount := limit_laid (expr?_fits limit hlimit (p.part 10)).laid
    (expr?_fits offset hoffset (p.part 11)).laid (by decide)
  have hlocking : Pattern settings ok [] fun f =>
      .optional ((locking.map f.locking).map Locking.doc) :=
    .locking fun l hl => hleaves l (by simp [leaves, hl])
  have hoptions : ∀ s ∈ options, ok (.verbatim s) := fun s hs =>
    hleaves _ (by simp [leaves, verbatims, hs])
  have hnames : ∀ w ∈ windows, ok (.verbatim w.name) := fun w hw =>
    hleaves _ (by simp [leaves, verbatims]; grind)
  simp only [Filling.select, Layout.selectDoc, Filling.isEmpty_exprs,
    Filling.isEmpty_items, Filling.isEmpty_tables, Filling.isEmpty_windows]
  have hhead := ((((distinct_laid distinct distinctOn hkeys p).text_then
    (s := "SELECT ") rfl).then_fixed (selectOptions_pattern hoptions)).append
    (columns_laid items hitems p) rfl).append (hplaced .afterColumns) rfl
  have hsources := hhead.append (sources_laid tables joins htables hjoins p) rfl
  have hgrouped :=
    ((hsources.append (hcondition.clause (s := " WHERE ") rfl) rfl).append
    hgroupBy rfl).append (hfilter.clause (s := " HAVING ") rfl) rfl
  have hrows :=
    ((hgrouped.append (namedWindows_laid windows hnames hwindows p) rfl).append
    horderBy rfl).append hcount rfl
  exact (((hrows.append (hplaced .beforeLock) rfl).then_fixed hlocking).append
    (hplaced .atEnd) rfl).fits

/-! ## Sources of rows -/

theorem valueRow_pattern {l : List Site} {Fs : Filling → List Doc}
    (hFs : Patterns settings ok l Fs) :
    Pattern settings ok l fun f => Layout.valueRow (Fs f) :=
  .parens (hFs.joined (.text rfl))

theorem table_hasPattern {t : TableRef} (hleaves : ∀ l ∈ (table t).leaves, ok l)
    (h : ∀ m ∈ (table t).children, m.HasPattern settings ok) :
    (table t).HasPattern settings ok := by
  intro p
  cases t with
  | named schema name rename =>
      have hpath : ∀ s ∈ (Text.nonEmpty schema).toList ++ [name], ok (.name s) := by
        intro s hs
        apply hleaves
        simp only [List.mem_append, Option.mem_toList, List.mem_singleton] at hs
        rcases hs with hs | rfl
        · have hmem := Text.mem_of_mem_nonEmpty hs
          simp_all [leaves, names]
        · simp [leaves, names]
      have hrename : ∀ s ∈ rename, ok (.name s) := by
        intro s hs
        apply hleaves
        simp_all [leaves, names]
      have hparts (f : Filling) :
          (Text.nonEmpty (schema.map f.name)).toList ++ [f.name name] =
          ((Text.nonEmpty schema).toList ++ [name]).map f.name := by
        cases hschema : Text.nonEmpty schema <;> simp [hschema]
      simp only [Filling.table, Layout.tableRef, Filling.requireText_name, hparts]
      exact .const (.then_fixed (.then_fixed (.requireText _ _ _) (.path hpath))
        (.rename _ hrename)) p
  | subquery q rename =>
      have hrename : ∀ s ∈ rename, ok (.name s) := fun s hs =>
        hleaves _ (by simp_all [leaves, names])
      have hquery := h (query q) (by simp [children]) p
      exact hquery.lift fun hF => hF.parens.then_fixed (.rename _ hrename)
  | function c rename =>
      have hrename : ∀ s ∈ rename, ok (.name s) := fun s hs =>
        hleaves _ (by simp_all [leaves, names])
      have hcall := h (call c) (by simp [children]) p
      exact hcall.lift fun hF => hF.isolated.then_fixed (.rename _ hrename)
  | values values rowKeyword rename =>
      have hrename : ∀ s ∈ rename, ok (.name s) := fun s hs =>
        hleaves _ (by simp_all [leaves, names])
      have hrows : Fits (Patterns settings ok) p fun f =>
          (Layout.rows settings (f.rows p values)).map
          fun row => .textIf rowKeyword "ROW" ++ Layout.valueRow row :=
        rows_fit values
          (fun hFs => .fixed_then (.textIf rowKeyword (by rfl))
            (valueRow_pattern hFs)) h p
      simp only [Filling.table, Layout.tableRef, Filling.isEmpty_rows]
      exact hrows.lift fun hFs => .then_fixed (.fixed_then (.require _ _ _)
        (.parens (hFs.commas.text_then rfl))) (.rename _ hrename)
  | paren t => exact (h (table t) (by simp [children]) p).lift .parens

theorem join_hasPattern {j : Join} (hleaves : ∀ l ∈ (join j).leaves, ok l)
    (h : ∀ m ∈ (join j).children, m.HasPattern settings ok) :
    (join j).HasPattern settings ok := by
  intro p
  rcases j with ⟨kind, t, condition, columns⟩
  have hkind : IsPlain kind.text := by cases kind <;> rfl
  have htable := (h (table t) (by simp [children]) (p.part 0)).laid
  have hcondition :=
    expr?_fits condition (fun m hm => h m (by simp [children, hm])) (p.part 1)
  have hrest : Laid (Pattern settings ok) p [1] fun f =>
      Layout.joinCondition kind
        (Layout.expr? settings (f.expr? (p.part 1) condition))
        (columns.map (·.map f.name)) := by
    cases htakes : kind.takesCondition with
    | false =>
        simp only [Layout.joinCondition, htakes]
        exact (Fits.const .empty _).laid
    | true =>
        simp only [Layout.joinCondition, htakes, if_true]
        rcases hcondition.laid.optional_cases with hO | ⟨F, hO, hF⟩
        · simp only [congrFun hO]
          cases columns with
          | none => exact (Fits.const .empty _).laid
          | some columns =>
              have hcolumns : ∀ s ∈ columns, ok (.name s) := fun s hs =>
                hleaves _ (by simp [leaves, names, hs])
              exact (Fits.const (.text_then (.parens (.names _ _ hcolumns))
                rfl) _).laid
        · simp only [congrFun hO]
          exact hF.text_then rfl
  exact ((htable.text_then hkind).append hrest rfl).fits

theorem cte_hasPattern {c : Cte} (hleaves : ∀ l ∈ (cte c).leaves, ok l)
    (h : ∀ m ∈ (cte c).children, m.HasPattern settings ok) :
    (cte c).HasPattern settings ok := by
  intro p
  rcases c with ⟨name, columns, wish, q⟩
  have hname : ok (.name name) := hleaves _ (by simp [leaves, names])
  have hcolumns : ∀ s ∈ columns, ok (.name s) := fun s hs =>
    hleaves _ (by simp [leaves, names, hs])
  have hquery := h (query q) (by simp [children]) p
  simp only [Filling.cte, Layout.cteDoc, Filling.requireText_name]
  refine hquery.lift fun hF =>
    .fixed_then (.then_text (.then_fixed (.then_text ?_ rfl)
    (.materialization wish)) rfl) hF.parens
  exact .then_fixed (.then_fixed (.requireText _ _ _) (.name hname))
    (.namesInParens _ _ hcolumns)

end Node

end SqlPrinter
