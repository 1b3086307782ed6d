/-
How the parts with expressions are laid out under a rule of spacing.  Between most
parts there is a fixed text.  The few places without one, the joints, have to be
looked at by themselves, and so do the nodes that leave a fixed space beside a
part without a text.
-/
import SqlPrinter.Proofs.Spacing.Leaf

namespace SqlPrinter

namespace Node

/-! ## Joints -/

/-- The name of a type between its marks. -/
def markedNames (type : DataType) : List Doc :=
  type.quoted.toList.map fun mark => Layout.markedName mark type.name

/-- The arguments of a call with a separator of its own. -/
def separatedArgs (settings : Settings) (c : FunctionCall) : List Doc :=
  if c.name.toUpper = "TRIM" then []
  else
    (Text.nonEmpty c.separator).toList.flatMap fun s =>
      c.args.toList.map fun args =>
        .joined (.verbatim s) (Layout.exprs settings args)

/-- The layouts within a node that put texts side by side with no fixed text between
them: a minus sign and its operand, the sigil and the name of a variable, arguments
with a separator of their own, and the name of a type between its marks. -/
def joints (settings : Settings) : Node → List Doc
  | expr (.unary .neg operand) => [Layout.expr settings (.unary .neg operand)]
  | expr (.var sigil name) => [Layout.expr settings (.var sigil name)]
  | call c => separatedArgs settings c
  | dataType type => markedNames type
  | cast c => markedNames c.target
  | _ => []

/-- The node has a fixed space beside a part that prints nothing: a constant of a
kind without a name, a collation without a word, the list of an aggregate without
arguments, empty words after the type of a cast, or an attribute of a column
without a name. -/
def IsLoose : Node → Prop
  | expr (.literal (.typed kind _)) => kind = ""
  | expr (.collate _ collation) => collation.IsBlank
  | aggregate a =>
      a.args = [] ∧ (a.distinct = true ∨ a.orderBy ≠ [] ∨ a.separator ≠ none)
  | cast c =>
      (c.target.suffix ≠ [] ∧ ∀ s ∈ c.target.suffix, s = "") ∨
        ∃ collation, c.collate = some collation ∧ collation.IsBlank
  | columnDef c => c.options.characterSet = some "" ∨ c.options.collate = some ""
  | _ => False

end Node

variable {S : Spacing} {settings : Settings}

open Doc

namespace Node

variable (S settings) in
/-- Whatever the node is printed as, it keeps to the rule.  An empty window and a
modifier of a grouping are printed as nothing, and the nodes that stand in
statements only are left out. -/
def IsLaid (n : Node) : Prop :=
  match n with
  | assignment _ | constraint _ | index _ | statement _ => True
  | window _ | modifier _ => Lays? S settings .word .word (n.doc settings)
  | _ => Lays S settings .word .word (n.doc settings)

variable (S settings) in
/-- A node keeps to the rule if its own texts, its joints and its parts do. -/
def IsLaidByParts (n : Node) : Prop :=
  (∀ l ∈ n.leaves, l.IsSpaced S settings) →
    (∀ d ∈ n.joints settings, Lays? S settings .word .word d) →
      (S.Empty ∨ ¬n.IsLoose) → (∀ m ∈ n.shown, m.IsLaid S settings) →
      n.IsLaid S settings

/-! ## Lists of parts -/

section

variable {α : Type} {g : α → Node} {L : List α → List Doc}

/-- The layouts of a list of parts, given the layout of each. -/
theorem lays_list (hnil : L [] = [])
    (hcons : ∀ a as, L (a :: as) = (g a).doc settings :: L as)
    (hg : ∀ a, (g a).IsLaid S settings →
      Lays S settings .word .word ((g a).doc settings)) {as : List α}
    (h : ∀ m ∈ as.map g, m.IsLaid S settings) :
    ∀ d ∈ L as, Lays S settings .word .word d := by
  induction as with
  | nil => simp [hnil]
  | cons a as ih =>
      obtain ⟨ha, has⟩ := List.forall_mem_cons.1 h
      rw [hcons]
      exact List.forall_mem_cons.2 ⟨hg a ha, ih has⟩

/-- A list of laid out nodes makes a word with commas. -/
theorem lays_commas_list (hnil : L [] = [])
    (hcons : ∀ a as, L (a :: as) = (g a).doc settings :: L as)
    (hg : ∀ a, (g a).IsLaid S settings →
      Lays S settings .word .word ((g a).doc settings)) {as : List α}
    (h : ∀ m ∈ as.map g, m.IsLaid S settings) (hne : as ≠ []) :
    Lays S settings .word .word (.commas (L as)) := by
  refine lays_commas (lays_list hnil hcons hg h) ?_
  obtain ⟨a, as, rfl⟩ := List.exists_cons_of_ne_nil hne
  rw [hcons]
  exact List.cons_ne_nil _ _

end

theorem lays_exprs {es : List Expr} (h : ∀ m ∈ exprs es, m.IsLaid S settings) :
    ∀ d ∈ Layout.exprs settings es, Lays S settings .word .word d :=
  lays_list (g := expr) rfl (fun _ _ => rfl) (fun _ h => h) h

theorem lays_commas_exprs {es : List Expr} (h : ∀ m ∈ exprs es, m.IsLaid S settings)
    (hne : es ≠ []) :
    Lays S settings .word .word (.commas (Layout.exprs settings es)) :=
  lays_commas_list (g := expr) rfl (fun _ _ => rfl) (fun _ h => h) h hne

theorem lays_expr? {e : Option Expr} (h : ∀ m ∈ expr? e, m.IsLaid S settings) :
    ∀ d ∈ Layout.expr? settings e, Lays S settings .word .word d := by
  cases e with
  | none => exact nofun
  | some e =>
      intro d hd
      obtain rfl := Option.some.inj hd
      exact h (expr e) List.mem_cons_self

theorem lays_orderItems {ks : List OrderItem}
    (h : ∀ m ∈ ks.map sortKey, m.IsLaid S settings) :
    ∀ d ∈ Layout.orderItems settings ks, Lays S settings .word .word d :=
  lays_list (g := sortKey) rfl (fun k _ => by cases k; rfl) (fun _ h => h) h

theorem lays_commas_orderItems {ks : List OrderItem}
    (h : ∀ m ∈ ks.map sortKey, m.IsLaid S settings) (hne : ks ≠ []) :
    Lays S settings .word .word (.commas (Layout.orderItems settings ks)) :=
  lays_commas_list (g := sortKey) rfl (fun k _ => by cases k; rfl)
    (fun _ h => h) h hne

theorem lays_commas_selectItems {is : List SelectItem}
    (h : ∀ m ∈ is.map item, m.IsLaid S settings) (hne : is ≠ []) :
    Lays S settings .word .word (.commas (Layout.selectItems settings is)) :=
  lays_commas_list (g := item) rfl (fun _ _ => rfl) (fun _ h => h) h hne

theorem lays_commas_tableRefs {ts : List TableRef}
    (h : ∀ m ∈ ts.map table, m.IsLaid S settings) (hne : ts ≠ []) :
    Lays S settings .word .word (.commas (Layout.tableRefs settings ts)) :=
  lays_commas_list (g := table) rfl (fun _ _ => rfl) (fun _ h => h) h hne

theorem lays_joinDocs {js : List Join}
    (h : ∀ m ∈ js.map join, m.IsLaid S settings) :
    ∀ d ∈ Layout.joinDocs settings js, Lays S settings .word .word d :=
  lays_list (g := join) rfl (fun j _ => by cases j; rfl) (fun _ h => h) h

theorem lays_commas_cteDocs {cs : List Cte}
    (h : ∀ m ∈ cs.map cte, m.IsLaid S settings) (hne : cs ≠ []) :
    Lays S settings .word .word (.commas (Layout.cteDocs settings cs)) :=
  lays_commas_list (g := cte) rfl (fun c _ => by cases c; rfl) (fun _ h => h) h hne

/-- Rows of expressions, each laid out in one way. -/
theorem lays_rows {g : List Doc → Doc}
    (hg : ∀ ds, (∀ d ∈ ds, Lays S settings .word .word d) →
      Lays S settings .word .word (g ds))
    {rs : List (List Expr)} (h : ∀ m ∈ exprs rs.flatten, m.IsLaid S settings) :
    ∀ d ∈ (Layout.rows settings rs).map g, Lays S settings .word .word d := by
  induction rs with
  | nil => exact nofun
  | cons r rs ih =>
      simp only [exprs, List.flatten_cons, List.map_append,
        List.forall_mem_append] at h ih
      exact List.forall_mem_cons.2 ⟨hg _ (lays_exprs h.1), ih h.2⟩

theorem lays?_keySets {sets : List (List Expr)}
    (h : ∀ m ∈ exprs sets.flatten, m.IsLaid S settings) :
    Lays? S settings .word .word (Layout.keySets settings sets) :=
  lays?_commas (lays_rows (fun _ hds => (lays?_commas hds).parens) h)

theorem lays?_caseBranches {bs : List (Expr × Expr)}
    (h : ∀ m ∈ branches bs, m.IsLaid S settings) :
    ∀ d ∈ Layout.caseBranches settings bs, Lays? S settings .gap .word d := by
  induction bs with
  | nil => exact nofun
  | cons b bs ih =>
      have hparts :
          ∀ m ∈ [expr b.1, expr b.2] ++ branches bs, m.IsLaid S settings := h
      rw [List.forall_mem_append] at hparts
      have hcondition : Lays S settings .word .word (Layout.expr settings b.1) :=
        hparts.1 (expr b.1) (by simp)
      have hvalue : Lays S settings .word .word (Layout.expr settings b.2) :=
        hparts.1 (expr b.2) (by simp)
      refine List.forall_mem_cons.2 ⟨?_, ih hparts.2⟩
      exact ((((lays_text (q := .gap) rfl).append hcondition).append
        (lays_text (q := .gap) rfl)).append hvalue).lays?

theorem lays?_overDoc {o : Option Over}
    (hleaves : ∀ l ∈ overLeaves o, l.IsSpaced S settings)
    (h : ∀ m ∈ over? o, m.IsLaid S settings) :
    Lays? S settings .word .word (Layout.overDoc settings o) := by
  rcases o with _ | name | w
  · exact lays?_empty
  · refine meets_of_not_shows fun hshows => ?_
    have hne : name ≠ "" := by
      rintro rfl
      simp at hshows
    exact ((lays?_require.append_lays (lays_text (q := .gap) rfl)).append
      (lays_verbatim_of_ne (hleaves _ List.mem_cons_self) hne)).lays?
  · have hw : Lays? S settings .word .word (Layout.windowSpec settings w) :=
      h (window w) List.mem_cons_self
    exact ((lays_text (q := .gap) rfl).append hw.parens).lays?

theorem lays?_windowFrame {o : Option WindowFrame}
    (h : ∀ m ∈ frame? o, m.IsLaid S settings) :
    Lays? S settings .word .word (Layout.windowFrame settings o) := by
  rcases o with _ | ⟨units, first, last⟩
  · exact lays?_empty
  have hfirst : Lays S settings .word .word (Layout.frameBound settings first) :=
    h (bound first) List.mem_cons_self
  have hunits : Lays S settings .word .word (.text units.text) := by
    cases units <;> exact lays_text rfl
  have hlead : Lays S settings .word .gap (.text units.text ++ .text " ") :=
    hunits.append (lays_text rfl)
  cases last with
  | none => exact (hlead.append hfirst).lays?
  | some last =>
      have hlast : Lays S settings .word .word (Layout.frameBound settings last) :=
        h (bound last) (by simp [frame?])
      exact (hlead.append ((((lays_text (q := .gap) rfl).append hfirst).append
        (lays_text (q := .gap) rfl)).append hlast)).lays?

theorem lays?_withDoc {o : Option With} (h : ∀ m ∈ with? o, m.IsLaid S settings) :
    Lays? S settings .word .gap (Layout.withDoc settings o) := by
  rcases o with _ | ⟨recursive, tables⟩
  · exact lays?_empty
  refine meets_of_not_shows fun hshows => ?_
  have hne : tables ≠ [] := by
    rintro rfl
    simp at hshows
  have hwords :
      Lays S settings .word .gap (.require (!tables.isEmpty) "with" "ctes" ++
      .text "WITH" ++ .textIf recursive " RECURSIVE" ++ .text " ") :=
    ((lays?_require.append_lays (lays_text (q := .word) rfl)).append_lays?
      (lays?_textIf rfl)).append (lays_text rfl)
  exact ((hwords.append (lays_commas_cteDocs h hne)).append (lays_text rfl)).lays?

/-! ## Kinds of nodes -/

/-- A unary operator and its operand make a word, where a symbol may stand before
it. -/
theorem unary_isLaidByParts (op : UnaryOp) (operand : Expr) :
    (expr (.unary op operand)).IsLaidByParts S settings := by
  intro _ hjoints _ hparts
  have hoperand : Lays S settings .word .word (Layout.expr settings operand) :=
    hparts (expr operand) List.mem_cons_self
  cases op with
  | neg =>
      refine (hjoints _ List.mem_cons_self).lays fun c s c' hwrites => ?_
      obtain ⟨_, _, t, hsign, -, rfl⟩ := writes_append_iff.1 hwrites
      obtain ⟨u, -, rfl⟩ := writes_text_append_iff.1 hsign
      simp [String.append_eq_empty_iff, UnaryOp.text]
  | not | binary | existential =>
      exact ((lays_text (q := .word) rfl).append (lays_text (q := .gap) rfl)).append
        hoperand
  | plus | bitNot | bang =>
      exact ((lays_text (q := .gap) rfl).append_lays? lays?_empty).append hoperand

theorem var_isLaidByParts (sigil name : String) :
    (expr (.var sigil name)).IsLaidByParts S settings := by
  intro _ hjoints _ _
  refine meets_of_not_shows fun hshows => ?_
  have hne : name ≠ "" := by
    rintro rfl
    simp [doc, Layout.expr] at hshows
  refine (hjoints _ List.mem_cons_self).lays fun c s c' hwrites => ?_
  obtain ⟨_, _, _, -, hname, rfl⟩ := writes_append_iff.1 hwrites
  rw [(writes_verbatim_iff.1 hname).1]
  simp [String.append_eq_empty_iff, hne]

theorem binary_isLaidByParts (left : Expr) (op : BinaryOp) (right : Expr) :
    (expr (.binary left op right)).IsLaidByParts S settings := by
  intro hleaves _ _ hparts
  refine meets_of_not_shows fun hshows => ?_
  have hprintable : op.isPrintable = true := by
    by_contra h
    simp [doc, Layout.expr, h] at hshows
  have hop : Lays S settings .word .word op.doc := by
    refine BinaryOp.lays_doc (fun s hs => hleaves _ ?_) hprintable
    rw [hs]
    exact List.mem_cons_self
  have hleft : Lays S settings .word .word (Layout.expr settings left) :=
    hparts (expr left) (by simp [shown, ofExpr])
  have hright : Lays S settings .word .word (Layout.expr settings right) :=
    hparts (expr right) (by simp [shown, ofExpr])
  have hspace : Lays S settings .gap .gap (.text " ") := lays_text rfl
  exact ((((lays?_require.append_lays hleft).append hspace).append hop).append
    hspace).append hright

theorem case_isLaidByParts (operand : Option Expr) (bs : List (Expr × Expr))
    (otherwise : Option Expr) :
    (expr (.case operand bs otherwise)).IsLaidByParts S settings := by
  intro _ _ _ hparts
  have hoperand : ∀ m ∈ expr? operand, m.IsLaid S settings := fun m hm =>
    hparts m (by simp [shown, ofExpr, hm])
  have hbranches : ∀ m ∈ branches bs, m.IsLaid S settings := fun m hm =>
    hparts m (by simp [shown, ofExpr, hm])
  have hotherwise : ∀ m ∈ expr? otherwise, m.IsLaid S settings := fun m hm =>
    hparts m (by simp [shown, ofExpr, hm])
  have hhead :
      Lays S settings .word .word (.require (!bs.isEmpty) "case" "when_then" ++
      .text "CASE" ++ .clause " " (Layout.expr? settings operand)) :=
    (lays?_require.append_lays (lays_text rfl)).append_lays?
      (lays?_clause rfl (lays_expr? hoperand))
  exact ((hhead.append_lays?
    (lays?_concat (lays?_caseBranches hbranches))).append_lays?
    (lays?_clause rfl (lays_expr? hotherwise))).append (q := .word) (lays_text rfl)

theorem fullText_isLaidByParts (columns : List ColumnRef) (against : Expr)
    (mode : Option String) :
    (expr (.fullText columns against mode)).IsLaidByParts S settings := by
  intro hleaves _ _ hparts
  have hagainst : Lays S settings .word .word (Layout.expr settings against) :=
    hparts (expr against) List.mem_cons_self
  have hcolumns :
      Lays? S settings .word .word (.commas (columns.map ColumnRef.doc)) := by
    refine lays?_commas fun d hd => ?_
    obtain ⟨ref, href, rfl⟩ := List.mem_map.1 hd
    refine ColumnRef.lays_doc fun l hl => hleaves l ?_
    exact List.mem_append_left _ (List.mem_flatMap.2 ⟨ref, href, hl⟩)
  have hmode :
      Lays? S settings .gap .word
        (.clause " " ((Text.nonEmpty mode).map .word)) := by
    refine lays?_clause rfl fun d hd => ?_
    obtain ⟨s, hs, rfl⟩ := Option.mem_map.1 hd
    have hmem : s ∈ mode := Text.mem_of_mem_nonEmpty hs
    refine lays_word (hleaves _ ?_) (Or.inr (Text.ne_empty_of_nonEmpty hs))
    simp [exprLeaves, verbatims, Option.mem_def.1 hmem]
  have hhead :
      Lays S settings .word .gap
        (.require (!columns.isEmpty) "full_text" "columns" ++
      .text "MATCH " ++ .parens (.commas (columns.map ColumnRef.doc)) ++
      .text " AGAINST ") :=
    ((lays?_require.append_lays (lays_text (q := .gap) rfl)).append
      hcolumns.parens).append
      (lays_text rfl)
  exact hhead.append (hagainst.append_lays? hmode).lays?.parens

theorem collate_isLaidByParts (subject : Expr) (collation : KeywordValue) :
    (expr (.collate subject collation)).IsLaidByParts S settings := by
  intro hleaves _ htight hparts
  have hsubject : Lays S settings .word .word (Layout.expr settings subject) :=
    hparts (expr subject) List.mem_cons_self
  exact (hsubject.append (lays_text (q := .gap) rfl)).append
    (KeywordValue.lays_doc hleaves htight)

theorem interval_isLaidByParts (amount : Expr) (unit : String) :
    (expr (.interval amount unit)).IsLaidByParts S settings := by
  intro hleaves _ _ hparts
  refine meets_of_not_shows fun hshows => ?_
  have hne : unit ≠ "" := by
    rintro rfl
    simp [doc, Layout.expr] at hshows
  have hamount : Lays S settings .word .word (Layout.expr settings amount) :=
    hparts (expr amount) List.mem_cons_self
  have hunit : Lays S settings .word .word (.word unit) :=
    lays_word (hleaves _ List.mem_cons_self) (Or.inr hne)
  exact (((lays?_require.append_lays (lays_text (q := .gap) rfl)).append
    hamount).append
    (lays_text (q := .gap) rfl)).append hunit

theorem between_isLaidByParts (subject : Expr) (negated : Bool) (low high : Expr) :
    (expr (.between subject negated low high)).IsLaidByParts S settings := by
  intro _ _ _ hparts
  have hsubject : Lays S settings .word .word (Layout.expr settings subject) :=
    hparts (expr subject) (by simp [shown, ofExpr])
  have hlow : Lays S settings .word .word (Layout.expr settings low) :=
    hparts (expr low) (by simp [shown, ofExpr])
  have hhigh : Lays S settings .word .word (Layout.expr settings high) :=
    hparts (expr high) (by simp [shown, ofExpr])
  have hwords : Lays S settings .gap .gap
      (.text (if negated then " NOT BETWEEN " else " BETWEEN ")) := by
    cases negated <;> exact lays_text rfl
  exact (((hsubject.append hwords).append hlow).append
    (lays_text (q := .gap) rfl)).append hhigh

theorem star_isLaidByParts (table : Option String) :
    (expr (.star table)).IsLaidByParts S settings := by
  intro hleaves _ _ _
  refine Lays?.append_lays ?_ (lays_text rfl)
  split
  · exact lays?_empty
  · next s htable =>
      have hmem : s ∈ table := Text.mem_of_mem_nonEmpty htable
      have hleaf :=
        hleaves (.name s) (by simp [exprLeaves, names, Option.mem_def.1 hmem])
      exact ((lays_name hleaf).append (lays_text rfl)).lays?

theorem keyword_isLaidByParts (s : String) :
    (expr (.keyword s)).IsLaidByParts S settings := by
  intro hleaves _ _ _
  refine meets_of_not_shows fun hshows => ?_
  have hne : s ≠ "" := by
    rintro rfl
    simp [doc, Layout.expr] at hshows
  exact lays?_require.append_lays
    (lays_word (hleaves _ List.mem_cons_self) (Or.inr hne))

theorem literal_isLaidByParts (value : Literal) :
    (expr (.literal value)).IsLaidByParts S settings := by
  intro hleaves _ htight _
  refine meets_of_not_shows fun hshows => ?_
  refine Literal.lays_doc hleaves (htight.imp_right fun h s => ?_) ?_
  · rintro rfl
    exact h rfl
  · rintro rfl
    simp [doc, Layout.expr] at hshows

/-- An expression is well spaced if its parts are. -/
theorem expr_isLaidByParts (e : Expr) : (expr e).IsLaidByParts S settings := by
  cases e with
  | unary op operand => exact unary_isLaidByParts op operand
  | var sigil name => exact var_isLaidByParts sigil name
  | binary left op right => exact binary_isLaidByParts left op right
  | case operand bs otherwise => exact case_isLaidByParts operand bs otherwise
  | fullText columns against mode =>
      exact fullText_isLaidByParts columns against mode
  | collate subject collation => exact collate_isLaidByParts subject collation
  | interval amount unit => exact interval_isLaidByParts amount unit
  | column ref => exact fun hleaves _ _ _ => ColumnRef.lays_doc hleaves
  | star table => exact star_isLaidByParts table
  | keyword s => exact keyword_isLaidByParts s
  | literal value => exact literal_isLaidByParts value
  | parameter p => exact fun hleaves _ _ _ => Parameter.lays_doc hleaves
  | between subject negated low high =>
      exact between_isLaidByParts subject negated low high
  | paren inner =>
      intro _ _ _ hparts
      have hinner : Lays S settings .word .word (Layout.expr settings inner) :=
        hparts (expr inner) List.mem_cons_self
      exact hinner.lays?.parens
  | list items =>
      exact fun _ _ _ hparts => (lays?_commas (lays_exprs hparts)).parens
  | function c =>
      exact fun _ _ _ hparts => Lays.isolated (hparts (call c) List.mem_cons_self)
  | aggregate a =>
      exact fun _ _ _ hparts =>
        Lays.isolated (hparts (aggregate a) List.mem_cons_self)
  | cast c =>
      exact fun _ _ _ hparts => Lays.isolated (hparts (cast c) List.mem_cons_self)
  | extract x =>
      exact fun _ _ _ hparts =>
        Lays.isolated (hparts (extract x) List.mem_cons_self)
  | anyValue a =>
      exact fun _ _ _ hparts =>
        Lays.isolated (hparts (anyValue a) List.mem_cons_self)
  | subquery q =>
      intro _ _ _ hparts
      have hquery : Lays S settings .word .word (Layout.queryDoc settings q) :=
        hparts (query q) List.mem_cons_self
      exact hquery.lays?.parens

/-- Arguments are separated by a fixed text, or else they are a joint of the
call. -/
theorem lays?_args (c : FunctionCall)
    (hjoints : ∀ d ∈ separatedArgs settings c, Lays? S settings .word .word d)
    (hargs : ∀ m ∈ exprs (c.args.getD []), m.IsLaid S settings) :
    ∀ ds ∈ Layout.exprs? settings c.args,
      Lays? S settings .word .word
        (.joined (Layout.argSeparator c.name c.separator) ds) := by
  rcases c with ⟨name, args, argsParentheses, separator, parentheses, window,
    collate, suffix⟩
  cases args with
  | none => exact nofun
  | some es =>
      intro ds hds
      obtain rfl := Option.some.inj hds
      simp only [separatedArgs] at hjoints
      unfold Layout.argSeparator
      split
      · exact lays?_joined (lays_text rfl) (lays_exprs hargs)
      · next hname =>
          simp only [hname, if_false] at hjoints
          cases hseparator : Text.nonEmpty separator with
          | none => exact lays?_joined (lays_text rfl) (lays_exprs hargs)
          | some s => exact hjoints _ (by simp [hseparator])

/-- A call is well spaced if its parts are. -/
theorem call_isLaidByParts (c : FunctionCall) :
    (call c).IsLaidByParts S settings := by
  intro hleaves hjoints _ hparts
  have hargs := lays?_args c hjoints fun m hm => hparts m (by simp [shown, hm])
  have hwindow : Lays? S settings .word .word (Layout.overDoc settings c.window) :=
    lays?_overDoc (fun l hl => hleaves l (by simp [hl])) fun m hm =>
      hparts m (by simp [shown, hm])
  have hsuffix (hsome : c.args.isNone = false) :
      ∀ d ∈ Layout.expr? settings c.suffix, Lays S settings .word .word d :=
    lays_expr? fun m hm => hparts m (by simp [shown, hsome, hm])
  have hcollate : ∀ kv ∈ c.collate, ∀ l ∈ keywordLeaves kv, l.IsSpaced S settings :=
    fun kv hkv l hl =>
      hleaves l (by simp [keywordLeaves?, Option.mem_def.1 hkv, hl])
  have hname (hne : c.name ≠ "") : Lays S settings .word .word (.verbatim c.name) :=
    lays_verbatim_of_ne (hleaves (.verbatim c.name) (by simp [verbatims])) hne
  rcases c with ⟨name, args, argsParentheses, separator, parentheses, window,
    collate, suffix⟩
  refine Layout.lays_call argsParentheses parentheses hname hargs hwindow hcollate
    fun hne => ?_
  refine lays?_optional fun d hd => (hsuffix ?_ d hd).lays?
  cases args with
  | none => exact absurd rfl hne
  | some es => rfl

/-- What stands in the parentheses of an aggregate: without arguments only what
would have nothing before it is left out. -/
theorem lays?_aggregated (a : Aggregate) (htight : S.Empty ∨ ¬(aggregate a).IsLoose)
    (hargs : ∀ m ∈ exprs a.args, m.IsLaid S settings)
    (horder : ∀ m ∈ a.orderBy.map sortKey, m.IsLaid S settings)
    (hseparator : ∀ m ∈ expr? a.separator, m.IsLaid S settings) :
    Lays? S settings .word .word
      (.textIf a.distinct "DISTINCT " ++ .commas (Layout.exprs settings a.args) ++
        Layout.orderBy (Layout.orderItems settings a.orderBy) ++
        .clause " SEPARATOR " (Layout.expr? settings a.separator)) := by
  have horderBy := Layout.lays?_orderBy (lays_orderItems horder)
  have hclause : Lays? S settings .gap .word
      (.clause " SEPARATOR " (Layout.expr? settings a.separator)) :=
    lays?_clause rfl (lays_expr? hseparator)
  have hdistinct : Lays? S settings .word .gap (.textIf a.distinct "DISTINCT ") :=
    lays?_textIf rfl
  have hlist := lays?_commas (lays_exprs hargs)
  by_cases hfull : S.Empty ∨ a.args ≠ []
  · have hcommas : Lays S settings .word .word
        (.commas (Layout.exprs settings a.args)) := by
      rcases hfull with hempty | hne
      · exact fun _ _ _ hwrites => (hlist _ _ _ hwrites).piece (Or.inl hempty)
      · exact lays_commas_exprs hargs hne
    exact (((hdistinct.append_lays hcommas).append_lays? horderBy).append_lays?
      hclause).lays?
  · rw [not_or, not_not] at hfull
    have hloose := htight.resolve_left hfull.1
    simp only [IsLoose, hfull.2, true_and, not_or, Bool.not_eq_true, not_not]
      at hloose
    rw [hfull.2, hloose.1, hloose.2.1, hloose.2.2]
    exact lays?_empty.of_effect_eq (by
      simp [textIf, Layout.exprs, Layout.orderBy, Layout.orderItems, Layout.expr?,
        Effect.joined, Effect.clause])

/-- An aggregate is well spaced if its parts are. -/
theorem aggregate_isLaidByParts (a : Aggregate) :
    (aggregate a).IsLaidByParts S settings := by
  intro hleaves _ htight hparts
  refine meets_of_not_shows fun hshows => ?_
  have hargs : ∀ m ∈ exprs a.args, m.IsLaid S settings := fun m hm =>
    hparts m (by simp [shown, hm])
  have horder : ∀ m ∈ a.orderBy.map sortKey, m.IsLaid S settings := fun m hm =>
    hparts m (by simp only [shown, children, List.mem_append]; tauto)
  have hseparator : ∀ m ∈ expr? a.separator, m.IsLaid S settings := fun m hm =>
    hparts m (by simp [shown, hm])
  have hfilter :
      ∀ d ∈ Layout.expr? settings a.filter, Lays S settings .word .word d :=
    lays_expr? fun m hm => hparts m (by simp [shown, hm])
  have hwindow : Lays? S settings .word .word (Layout.overDoc settings a.window) :=
    lays?_overDoc (fun l hl => hleaves l (by simp [hl])) fun m hm =>
      hparts m (by simp [shown, hm])
  have hlist := lays?_aggregated a htight hargs horder hseparator
  have hname (hne : a.name ≠ "") : Lays S settings .word .word (.word a.name) :=
    lays_word (hleaves (.verbatim a.name) (by simp)) (Or.inr hne)
  rcases a with ⟨name, distinct, args, orderBy, separator, filter, window⟩
  have hne : name ≠ "" := by
    rintro rfl
    simp [doc, Layout.aggregate] at hshows
  have hhead := (hname hne).append (q := .word) hlist.parens
  refine lays?_require.append_lays
    (lays_fragments ?_ ⟨_, List.mem_cons_self, hhead⟩)
  refine List.forall_mem_cons.2 ⟨hhead.lays?, List.forall_mem_cons.2 ⟨?_, ?_⟩⟩
  · cases filter with
    | none => exact lays?_empty
    | some condition =>
        have hcondition := hfilter _ rfl
        exact ((lays_text (q := .gap) rfl).append
          ((lays_text (q := .gap) rfl).append hcondition).lays?.parens).lays?
  · exact List.forall_mem_singleton.2 hwindow

theorem dataType_isLaidByParts (type : DataType) :
    (dataType type).IsLaidByParts S settings := by
  intro hleaves hjoints _ hparts
  have hmarked : ∀ mark ∈ type.quoted,
      Lays? S settings .word .word (Layout.markedName mark type.name) :=
    fun mark hmark => hjoints _ (List.mem_map_of_mem (Option.mem_toList.2 hmark))
  have hvalues := lays_exprs hparts
  cases type
  exact Layout.lays_dataType hleaves hmarked hvalues

/-- A cast is well spaced if its parts are. -/
theorem cast_isLaidByParts (c : Cast) : (cast c).IsLaidByParts S settings := by
  intro hleaves hjoints htight hparts
  have hsubject : Lays S settings .word .word (Layout.expr settings c.subject) :=
    hparts (expr c.subject) List.mem_cons_self
  have hmarked : ∀ mark ∈ c.target.quoted,
      Lays? S settings .word .word (Layout.markedName mark c.target.name) :=
    fun mark hmark => hjoints _ (List.mem_map_of_mem (Option.mem_toList.2 hmark))
  have hsuffix :
      S.Empty ∨ c.target.suffix = [] ∨ ∃ s ∈ c.target.suffix, s ≠ "" := by
    refine htight.imp_right fun h => ?_
    simp only [IsLoose, not_or, not_and, not_forall] at h
    exact or_iff_not_imp_left.2 fun hne => by simpa using h.1 hne
  have htarget (hne : c.target.name ≠ "") :
      Lays S settings .word .word (Layout.castType c.target) :=
    Layout.lays_castType hne (fun l hl => hleaves l (by simp [hl])) hmarked hsuffix
  have hkeyword : (Leaf.verbatim (c.keyword.getD "")).IsSpaced S settings :=
    hleaves _ (by simp [verbatims])
  have hrename : ∀ s ∈ c.rename, (Leaf.name s).IsSpaced S settings := fun s hs =>
    hleaves _ (by simp [names, Option.mem_def.1 hs])
  have hcollate : ∀ kv ∈ c.collate, Lays S settings .word .word kv.doc :=
    fun kv hkv => by
    refine KeywordValue.lays_doc (fun l hl => hleaves l ?_)
      (htight.imp_right fun h hblank => ?_)
    · simp [keywordLeaves?, Option.mem_def.1 hkv, hl]
    · exact h (Or.inr ⟨kv, hkv, hblank⟩)
  have htail :
      Lays? S settings .gap .word (Layout.castTailDoc settings c.tail) := by
    cases htail : c.tail with
    | none => exact lays?_empty
    | some tail =>
        have hoperand : Lays S settings .word .word
            (Layout.expr settings tail.operand) :=
          hparts (expr tail.operand) (by simp [shown, exprs, htail])
        have hoperator :=
          hleaves (.verbatim tail.operator) (by simp [verbatims, htail])
        cases tail
        exact (Layout.lays_castTail hoperator hoperand).lays?
  cases c
  exact Layout.lays_cast hsubject htarget hkeyword htail hrename hcollate

theorem extract_isLaidByParts (x : Extract) :
    (extract x).IsLaidByParts S settings := by
  intro hleaves _ _ hparts
  have hsource : Lays S settings .word .word (Layout.expr settings x.source) :=
    hparts (expr x.source) List.mem_cons_self
  have hname := hleaves (.verbatim x.name) (by simp [verbatims])
  have hfield := hleaves (.verbatim x.field) (by simp [verbatims])
  have htype : ∀ s ∈ x.castType, (Leaf.verbatim s).IsSpaced S settings :=
    fun s hs =>
    hleaves _ (by simp [verbatims, Option.mem_def.1 hs])
  cases x
  exact Layout.lays_extract hname hfield htype hsource

theorem lays?_anyValueHaving {o : Option AnyValueHaving}
    (hleaves : ∀ h ∈ o, (Leaf.verbatim h.bound).IsSpaced S settings)
    (h : ∀ m ∈ exprs (o.toList.map (·.subject)), m.IsLaid S settings) :
    Lays? S settings .gap .word (Layout.anyValueHaving settings o) := by
  rcases o with _ | ⟨bound, subject⟩
  · exact lays?_empty
  refine meets_of_not_shows fun hshows => ?_
  have hne : bound ≠ "" := by
    rintro rfl
    simp [Layout.anyValueHaving] at hshows
  have hbound := lays_word (hleaves _ rfl) (Or.inr hne)
  have hsubject : Lays S settings .word .word (Layout.expr settings subject) :=
    h (expr subject) List.mem_cons_self
  have hlead : Lays S settings .gap .gap
      (.requireText bound "any_value" "having.prefix" ++ .text " HAVING ") :=
    lays?_require.append_lays (lays_text rfl)
  exact (((hlead.append hbound).append (lays_text (q := .gap) rfl)).append
    hsubject).lays?

theorem anyValue_isLaidByParts (a : AnyValue) :
    (anyValue a).IsLaidByParts S settings := by
  intro hleaves _ _ hparts
  refine meets_of_not_shows fun hshows => ?_
  have hsubject : Lays S settings .word .word (Layout.expr settings a.subject) :=
    hparts (expr a.subject) List.mem_cons_self
  have hhaving : Lays? S settings .gap .word
      (Layout.anyValueHaving settings a.having) :=
    lays?_anyValueHaving
      (fun h hh => hleaves _ (by simp [verbatims, Option.mem_def.1 hh]))
      fun m hm => hparts m (by simp [shown, hm])
  have hwindow : Lays? S settings .word .word (Layout.overDoc settings a.window) :=
    lays?_overDoc (fun l hl => hleaves l (by simp [hl])) fun m hm =>
      hparts m (by simp [shown, hm])
  have hname (hne : a.name ≠ "") : Lays S settings .word .word (.word a.name) :=
    lays_word (hleaves (.verbatim a.name) (by simp [verbatims])) (Or.inr hne)
  rcases a with ⟨name, subject, having, window⟩
  have hne : name ≠ "" := by
    rintro rfl
    simp [doc, Layout.anyValue] at hshows
  have hhead :=
    (hname hne).append (q := .word) (hsubject.append_lays? hhaving).lays?.parens
  refine lays?_require.append_lays
    (lays_fragments ?_ ⟨_, List.mem_cons_self, hhead⟩)
  exact List.forall_mem_cons.2 ⟨hhead.lays?, List.forall_mem_singleton.2 hwindow⟩

theorem window_isLaidByParts (w : WindowSpec) :
    (window w).IsLaidByParts S settings := by
  intro hleaves _ _ hparts
  have hbase : ∀ s ∈ w.base, (Leaf.verbatim s).IsSpaced S settings := fun s hs =>
    hleaves _ (by simp [verbatims, Option.mem_def.1 hs])
  have hpartition : ∀ m ∈ exprs w.partitionBy, m.IsLaid S settings := fun m hm =>
    hparts m (by simp [shown, hm])
  have horder : ∀ m ∈ w.orderBy.map sortKey, m.IsLaid S settings := fun m hm =>
    hparts m (by simp only [shown, children, List.mem_append]; tauto)
  have hframe :
      Lays? S settings .word .word (Layout.windowFrame settings w.frame) :=
    lays?_windowFrame fun m hm => hparts m (by simp [shown, hm])
  rcases w with ⟨base, partitionBy, orderBy, frame⟩
  refine lays?_fragments (List.forall_mem_cons.2 ⟨?_, List.forall_mem_cons.2 ⟨?_,
    List.forall_mem_cons.2 ⟨?_, List.forall_mem_singleton.2 hframe⟩⟩⟩)
  · refine lays?_optional fun d hd => ?_
    obtain ⟨s, hs, rfl⟩ := Option.mem_map.1 hd
    exact lays?_verbatim (hbase s hs).1
  · split
    · exact lays?_empty
    · next hne =>
        exact ((lays_text (q := .gap) rfl).append
          (lays_commas_exprs hpartition (by simpa using hne))).lays?
  · split
    · exact lays?_empty
    · next hne =>
        exact ((lays_text (q := .gap) rfl).append
          (lays_commas_orderItems horder (by simpa using hne))).lays?

theorem bound_isLaidByParts (b : FrameBound) :
    (bound b).IsLaidByParts S settings := by
  intro _ _ _ hparts
  cases b with
  | preceding e | following e =>
      have he : Lays S settings .word .word (Layout.expr settings e) :=
        hparts (expr e) List.mem_cons_self
      exact he.append (q := .word) (lays_text rfl)
  | unboundedPreceding | currentRow | unboundedFollowing => exact lays_text rfl

theorem sortKey_isLaidByParts (k : OrderItem) :
    (sortKey k).IsLaidByParts S settings :=
  fun _ _ _ hparts =>
    Layout.lays_orderItem k.direction k.nulls
      (hparts (expr k.key) List.mem_cons_self)

end Node

end SqlPrinter
