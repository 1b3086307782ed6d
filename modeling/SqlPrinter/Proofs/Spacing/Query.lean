/-
How queries are laid out under a rule of spacing, and the columns of a table.  What
is said of one node by its parts holds of every node that is printed.
-/
import SqlPrinter.Proofs.Spacing.Expr

namespace SqlPrinter

variable {S : Spacing} {settings : Settings}

open Doc

namespace Node

/-! ## Queries -/

/-- A query is well spaced if its parts are: each clause brings its own space. -/
theorem query_isLaidByParts (q : Query) : (query q).IsLaidByParts S settings := by
  intro _ _ _ hparts
  have hctes : ∀ m ∈ with? q.ctes, m.IsLaid S settings := fun m hm =>
    hparts m (by simp [shown, hm])
  have hbody : Lays S settings .word .word (Layout.bodyDoc settings q.body) :=
    hparts (body q.body) (by simp [shown])
  have horder : ∀ m ∈ q.orderBy.map sortKey, m.IsLaid S settings := fun m hm =>
    hparts m (by simp only [shown, children, List.mem_append, List.mem_cons]; tauto)
  have hlimit : ∀ m ∈ expr? q.limit, m.IsLaid S settings := fun m hm =>
    hparts m (by simp [shown, hm])
  have hoffset : ∀ m ∈ expr? q.offset, m.IsLaid S settings := fun m hm =>
    hparts m (by simp [shown, hm])
  cases q
  exact (((lays?_withDoc hctes).append_lays hbody).append_lays?
    (Layout.lays?_orderBy (lays_orderItems horder))).append_lays?
      (Layout.lays?_limit (lays_expr? hlimit) (lays_expr? hoffset))

theorem body_isLaidByParts (b : QueryBody) : (body b).IsLaidByParts S settings := by
  intro _ _ _ hparts
  cases b with
  | select s => exact hparts (select s) List.mem_cons_self
  | combine left op right =>
      have hleft : Lays S settings .word .word (Layout.bodyDoc settings left) :=
        hparts (body left) (by simp [shown])
      have hright : Lays S settings .word .word (Layout.bodyDoc settings right) :=
        hparts (body right) (by simp [shown])
      have hop : Lays S settings .gap .gap (.text op.text) := by
        cases op <;> exact lays_text rfl
      exact (hleft.append hop).append hright

theorem item_isLaidByParts (i : SelectItem) :
    (item i).IsLaidByParts S settings := by
  intro hleaves _ _ hparts
  cases i with
  | star => exact lays_text rfl
  | qualifiedStar table =>
      exact (lays?_require.append_lays
        (lays_name (hleaves _ List.mem_cons_self))).append
        (q := .word) (lays_text rfl)
  | expr value rename =>
      have hvalue : Lays S settings .word .word (Layout.expr settings value) :=
        hparts (expr value) List.mem_cons_self
      refine hvalue.append_lays? (lays?_rename fun s hs => hleaves _ ?_)
      simp [names, Option.mem_def.1 hs]

theorem modifier_isLaidByParts (m : GroupModifier) :
    (modifier m).IsLaidByParts S settings := by
  intro _ _ _ hparts
  cases m with
  | groupingSets sets => exact lays?_keySets hparts
  | rollup | cube => exact lays?_empty

/-- A table is well spaced if its parts are. -/
theorem table_isLaidByParts (t : TableRef) :
    (table t).IsLaidByParts S settings := by
  intro hleaves _ _ hparts
  cases t with
  | named schema name rename =>
      have hpath : Lays S settings .word .word (.requireText name "table" "name" ++
          .path ((Text.nonEmpty schema).toList ++ [name])) := by
        refine lays?_require.append_lays
          (lays_path (fun s hs => hleaves _ ?_) (by simp))
        simp only [List.mem_append, Option.mem_toList, List.mem_singleton] at hs
        rcases hs with hs | rfl
        · simp [names, Option.mem_def.1 (Text.mem_of_mem_nonEmpty hs)]
        · simp [names]
      refine hpath.append_lays? (lays?_rename fun s hs => hleaves _ ?_)
      simp [names, Option.mem_def.1 hs]
  | subquery q rename =>
      have hquery : Lays S settings .word .word (Layout.queryDoc settings q) :=
        hparts (query q) List.mem_cons_self
      refine hquery.lays?.parens.append_lays?
        (lays?_rename fun s hs => hleaves _ ?_)
      simp [names, Option.mem_def.1 hs]
  | function c rename =>
      have hcall : Lays S settings .word .word (Layout.functionCall settings c) :=
        hparts (call c) List.mem_cons_self
      refine hcall.isolated.append_lays? (lays?_rename fun s hs => hleaves _ ?_)
      simp [names, Option.mem_def.1 hs]
  | values rows rowKeyword rename =>
      refine meets_of_not_shows fun hshows => ?_
      have hne : rows ≠ [] := by
        rintro rfl
        simp [doc, Layout.tableRef] at hshows
      have hrows : ∀ d ∈ (Layout.rows settings rows).map
          fun row => .textIf rowKeyword "ROW" ++ Layout.valueRow row,
          Lays S settings .word .word d :=
        lays_rows (fun _ hds =>
          (lays?_textIf rfl).append_lays (Layout.lays_valueRow hds)) hparts
      have hlist := lays_commas hrows (by
        obtain ⟨r, rs, rfl⟩ := List.exists_cons_of_ne_nil hne
        exact List.cons_ne_nil _ _)
      have hwords : Lays S settings .word .gap (.text "VALUES ") := lays_text rfl
      have hparens := (hwords.append hlist).lays?.parens (p := .word)
      refine (lays?_require.append_lays hparens).append_lays?
        (lays?_rename fun s hs => hleaves _ ?_)
      simp [names, Option.mem_def.1 hs]
  | paren t =>
      have htable : Lays S settings .word .word (Layout.tableRef settings t) :=
        hparts (table t) List.mem_cons_self
      exact htable.lays?.parens

theorem join_isLaidByParts (j : Join) : (join j).IsLaidByParts S settings := by
  intro hleaves _ _ hparts
  have htable : Lays S settings .word .word (Layout.tableRef settings j.table) :=
    hparts (table j.table) (by simp [shown])
  have hkind : Lays S settings .word .gap (.text j.kind.text) := by
    cases j.kind <;> exact lays_text rfl
  refine (hkind.append htable).append_lays?
    (Layout.lays?_joinCondition j.kind ?_ ?_)
  · exact fun htakes => lays_expr? fun m hm =>
      hparts m (by simp [shown, htakes, hm])
  · exact fun s hs => hleaves _ (List.mem_map_of_mem hs)

theorem cte_isLaidByParts (c : Cte) : (cte c).IsLaidByParts S settings := by
  intro hleaves _ _ hparts
  have hquery : Lays S settings .word .word (Layout.queryDoc settings c.query) :=
    hparts (query c.query) List.mem_cons_self
  have hname : Lays S settings .word .word (.name c.name) :=
    lays_name (hleaves _ List.mem_cons_self)
  have hcolumns : Lays? S settings .gap .word (if c.columns.isEmpty then .empty
      else .text " " ++ .parens (.names "cte" "columns" c.columns)) :=
    lays?_namesInParens fun s hs =>
      hleaves _ (List.mem_map_of_mem (List.mem_cons_of_mem _ hs))
  have hhead :
      Lays S settings .word .word
        (.requireText c.name "cte" "name" ++ .name c.name ++
      (if c.columns.isEmpty then .empty
        else .text " " ++ .parens (.names "cte" "columns" c.columns))) :=
    (lays?_require.append_lays hname).append_lays? hcolumns
  exact (((hhead.append (lays_text (q := .word) rfl)).append_lays?
    (Materialization.lays?_doc? c.materialized)).append (lays_text
      (q := .gap) rfl)).append
      hquery.lays?.parens

/-! ### SELECT -/

theorem lays_namedWindows {ws : List NamedWindow}
    (hleaves : ∀ w ∈ ws, (Leaf.verbatim w.name).IsSpaced S settings)
    (h : ∀ m ∈ ws.map (window ·.window), m.IsLaid S settings) :
    ∀ d ∈ Layout.namedWindows settings ws, Lays S settings .word .word d := by
  induction ws with
  | nil => exact nofun
  | cons w ws ih =>
      obtain ⟨hleaf, hrest⟩ := List.forall_mem_cons.1 hleaves
      obtain ⟨hw, hws⟩ := List.forall_mem_cons.1 h
      have hspec :
          Lays? S settings .word .word (Layout.windowSpec settings w.window) :=
        hw
      have hone : Lays S settings .word .word (Layout.windowDoc settings w) := by
        refine meets_of_not_shows fun hshows => ?_
        have hne : w.name ≠ "" :=
          fun hempty => hshows (by simp [Layout.windowDoc, hempty])
        exact lays?_require.append_lays (((lays_verbatim_of_ne hleaf hne).append
          (lays_text (q := .gap) rfl)).append hspec.parens).isolated
      cases w
      exact List.forall_mem_cons.2 ⟨hone, ih hrest hws⟩

/-- The target of an INTO is a word. -/
theorem lays_intoTarget {position : IntoPosition} {target : IntoTarget}
    (hleaves : ∀ l ∈ intoLeaves (some ⟨position, target⟩), l.IsSpaced S settings)
    (h : ∀ m ∈ into? (some ⟨position, target⟩), m.IsLaid S settings) :
    Lays S settings .word .word (Layout.intoTarget settings target) := by
  cases target with
  | vars vars =>
      refine meets_of_not_shows fun hshows => ?_
      have hne : vars ≠ [] := by
        rintro rfl
        simp [Layout.intoTarget] at hshows
      exact lays?_require.append_lays (lays_commas_exprs h hne)
  | outfile file charset =>
      refine ((lays_text (q := .gap) rfl).append
        (lays_string (hleaves _ List.mem_cons_self))).append_lays?
          (lays?_clause rfl ?_)
      intro d hd
      obtain ⟨s, hs, rfl⟩ := Option.mem_map.1 hd
      refine lays_verbatim_of_ne (hleaves _ ?_) (Text.ne_empty_of_nonEmpty hs)
      simp [intoLeaves, verbatims, Option.mem_def.1 (Text.mem_of_mem_nonEmpty hs)]
  | dumpfile file =>
      exact (lays_text (q := .gap) rfl).append
        (lays_string (hleaves _ List.mem_cons_self))
  | table s => exact lays_name (hleaves _ List.mem_cons_self)

/-- Rows go to one place, and elsewhere nothing is printed. -/
theorem lays?_intoAt (position : IntoPosition) {o : Option SelectInto}
    (hleaves : ∀ l ∈ intoLeaves o, l.IsSpaced S settings)
    (h : ∀ m ∈ into? o, m.IsLaid S settings) :
    Lays? S settings .gap .word (Layout.intoAt settings position o) := by
  rcases o with _ | ⟨wanted, target⟩
  · exact lays?_empty
  rw [Layout.intoAt]
  split
  · exact ((lays_text (q := .gap) rfl).append (lays_intoTarget hleaves h)).lays?
  · exact lays?_empty

/-- The grouping is well spaced if the keys or the sets that it shows are. -/
theorem lays?_groups {s : Select} (h : ∀ m ∈ shownGroups s, m.IsLaid S settings) :
    Lays? S settings .gap .word (Layout.groupBy settings
      (Layout.exprs settings s.groupBy) s.groupModifiers
      (Layout.groupingSets settings s.groupModifiers)) := by
  rw [groupingSets_eq]
  unfold shownGroups at h
  cases hsets : setsModifier? s.groupModifiers with
  | some m =>
      rw [hsets] at h
      refine Layout.lays?_groupBy s.groupModifiers nofun fun d hd => ?_
      obtain rfl := Option.some.inj hd
      exact h (modifier m) List.mem_cons_self
  | none =>
      rw [hsets] at h
      refine Layout.lays?_groupBy s.groupModifiers
        (fun _ => lays_exprs fun m hm => ?_) nofun
      refine h m ?_
      cases hkeys : s.groupBy with
      | nil => simp [exprs, hkeys] at hm
      | cons e es => simpa [hkeys] using Or.inl (hkeys ▸ hm)

/-- SELECT, its options and its items make a word. -/
theorem lays_selectHead {s : Select}
    (hoptions : ∀ t ∈ s.options, (Leaf.verbatim t).IsSpaced S settings)
    (hdistinct : ∀ m ∈ exprs s.distinctOn, m.IsLaid S settings)
    (hitems : ∀ m ∈ s.items.map item, m.IsLaid S settings) :
    Lays S settings .word .word (.text "SELECT " ++
      (if s.distinctOn.isEmpty then .textIf s.distinct "DISTINCT "
        else .text "DISTINCT ON " ++
          .parens (.commas (Layout.exprs settings s.distinctOn)) ++ .text " ") ++
      .concat ((s.options.filter (· ≠ "")).map (.word · ++ .text " ")) ++
      (if s.items.isEmpty then .text "*"
        else .commas (Layout.selectItems settings s.items))) := by
  refine (((lays_text (q := .gap) rfl).append_lays? ?_).append_lays?
    (lays?_concat ?_)).append ?_
  · split
    · exact lays?_textIf rfl
    · have hlist := (lays?_commas (lays_exprs hdistinct)).parens (p := .word)
      exact (((lays_text (q := .gap) rfl).append hlist).append
        (lays_text rfl)).lays?
  · intro d hd
    obtain ⟨t, ht, rfl⟩ := List.mem_map.1 hd
    obtain ⟨ht, hne⟩ := List.mem_filter.1 ht
    exact ((lays_word (hoptions t ht) (Or.inr (by simpa using hne))).append
      (lays_text rfl)).lays?
  · split
    · exact lays_text rfl
    · next hne => exact lays_commas_selectItems hitems (by simpa using hne)

/-- FROM and the joins follow with a space of their own, or nothing is there. -/
theorem lays?_selectSources {s : Select}
    (htables : ∀ m ∈ s.tables.map table, m.IsLaid S settings)
    (hjoins : s.tables.isEmpty = false →
      ∀ m ∈ s.joins.map join, m.IsLaid S settings) :
    Lays? S settings .gap .word (if s.tables.isEmpty then .empty
      else .text " FROM " ++ Layout.tables (Layout.tableRefs settings s.tables)
        (Layout.joinDocs settings s.joins)) := by
  split
  · exact lays?_empty
  · next hne =>
      have hlist := lays_commas_tableRefs htables (by simpa using hne)
      exact ((lays_text (q := .gap) rfl).append
        (Layout.lays_tables hlist
          (lays_joinDocs (hjoins (by simpa using hne))))).lays?

theorem lays?_selectWindows {s : Select}
    (hleaves : ∀ w ∈ s.windows, (Leaf.verbatim w.name).IsSpaced S settings)
    (h : ∀ m ∈ s.windows.map (window ·.window), m.IsLaid S settings) :
    Lays? S settings .gap .word (if s.windows.isEmpty then .empty
      else .text " WINDOW " ++
        .commas (Layout.namedWindows settings s.windows)) := by
  split
  · exact lays?_empty
  · next hne =>
      have hlist := lays_commas (lays_namedWindows hleaves h) fun hnil => hne ?_
      · exact ((lays_text (q := .gap) rfl).append hlist).lays?
      · rcases hwindows : s.windows with _ | ⟨⟨_, _⟩, _⟩
        · rfl
        · rw [hwindows] at hnil
          contradiction

/-- A SELECT is well spaced if its parts are. -/
theorem select_isLaidByParts (s : Select) :
    (select s).IsLaidByParts S settings := by
  intro hleaves _ _ hparts
  have hverbatim {t : String} (ht : t ∈ s.options ++ s.windows.map (·.name)) :
      (Leaf.verbatim t).IsSpaced S settings :=
    hleaves _ (List.mem_append_left _
      (List.mem_append_left _ (List.mem_map_of_mem ht)))
  have hhead := lays_selectHead (s := s)
    (fun t ht => hverbatim (List.mem_append_left _ ht))
    (fun m hm => hparts m (by simp [shown, hm]))
    (fun m hm => hparts m (by simp only [shown, List.mem_append]; tauto))
  have hinto (position : IntoPosition) := lays?_intoAt position (o := s.into)
    (fun l hl => hleaves l (by simp [hl]))
      (fun m hm => hparts m (by simp [shown, hm]))
  have hsources := lays?_selectSources (s := s)
    (fun m hm => hparts m (by simp only [shown, List.mem_append]; tauto))
    (fun hne m hm => hparts m (by simp only [shown, List.mem_append, hne]; tauto))
  have hcondition :=
    lays_expr? (e := s.condition) fun m hm => hparts m (by simp [shown, hm])
  have hgroups := lays?_groups (s := s) fun m hm => hparts m (by simp [shown, hm])
  have hhaving :=
    lays_expr? (e := s.having) fun m hm => hparts m (by simp [shown, hm])
  have hwindows := lays?_selectWindows (s := s)
    (fun w hw => hverbatim (List.mem_append_right _ (List.mem_map_of_mem hw)))
    (fun m hm => hparts m (by simp only [shown, List.mem_append]; tauto))
  have horder : ∀ m ∈ s.orderBy.map sortKey, m.IsLaid S settings := fun m hm =>
    hparts m (by simp only [shown, List.mem_append]; tauto)
  have hlimit :=
    lays_expr? (e := s.limit) fun m hm => hparts m (by simp [shown, hm])
  have hoffset :=
    lays_expr? (e := s.offset) fun m hm => hparts m (by simp [shown, hm])
  have hlocking :
      Lays? S settings .gap .word (.optional (s.locking.map Locking.doc)) := by
    refine lays?_optional fun d hd => ?_
    obtain ⟨lock, hlock, rfl⟩ := Option.mem_map.1 hd
    refine (Locking.lays_doc fun t ht => hleaves (.name t) ?_).lays?
    simp [lockLeaves, names, Option.mem_def.1 hlock, ht]
  cases s
  exact ((((((((((hhead.append_lays? (hinto .afterColumns)).append_lays?
    hsources).append_lays? (lays?_clause rfl hcondition)).append_lays?
      hgroups).append_lays?
    (lays?_clause rfl hhaving)).append_lays? hwindows).append_lays?
    (Layout.lays?_orderBy (lays_orderItems horder))).append_lays?
    (Layout.lays?_limit hlimit hoffset)).append_lays?
      (hinto .beforeLock)).append_lays?
    hlocking).append_lays? (hinto .atEnd)

/-! ## Columns -/

theorem lays_reference {r : Reference}
    (h : ∀ l ∈ referenceLeaves r, l.IsSpaced S settings) :
    Lays S settings .word .word (Layout.reference r) := by
  have htable : Lays S settings .word .word r.table.doc :=
    ObjectName.lays_doc fun l hl => h l (List.mem_append_left _ hl)
  have hcolumns : Lays? S settings .gap .word (if r.columns.isEmpty then .empty
      else .text " " ++ .parens (.names "reference" "columns" r.columns)) :=
    lays?_namesInParens fun s hs =>
      h _ (List.mem_append_right _ (List.mem_map_of_mem hs))
  have haction (o : Option RefAction) : ∀ d ∈ o.map (Doc.text ·.text),
      Lays S settings .word .word d := by
    intro d hd
    obtain ⟨action, -, rfl⟩ := Option.mem_map.1 hd
    cases action <;> exact lays_text rfl
  exact ((((lays_text (q := .gap) rfl).append htable).append_lays?
    hcolumns).append_lays?
    (lays?_clause rfl (haction r.onDelete))).append_lays? (lays?_clause rfl
      (haction r.onUpdate))

/-- A word after a fixed text, unless it is empty. -/
theorem lays?_attribute {lead : String} {o : Option String}
    (hlead : isFixed .word .gap lead = true)
    (hleaves : ∀ s ∈ o, (Leaf.verbatim s).IsSpaced S settings)
    (hfull : S.Empty ∨ o ≠ some "") :
    Lays? S settings .word .word (.clause lead (o.map .word)) := by
  refine lays?_clause hlead fun d hd => ?_
  obtain ⟨s, hs, rfl⟩ := Option.mem_map.1 hd
  refine lays_word (hleaves s hs) (hfull.imp_right fun hne hempty => hne ?_)
  rw [Option.mem_def.1 hs, hempty]

theorem lays?_nullable (o : Option Bool) :
    Lays? S settings .word .word (Layout.nullable o) := by
  rcases o with _ | _ | _
  · exact lays?_empty
  · exact (lays_text rfl).lays?
  · exact (lays_text rfl).lays?

theorem lays?_references {o : Option Reference}
    (h : ∀ l ∈ o.toList.flatMap referenceLeaves, l.IsSpaced S settings) :
    Lays? S settings .word .word (.optional (o.map Layout.reference)) := by
  refine lays?_optional fun d hd => ?_
  obtain ⟨r, hr, rfl⟩ := Option.mem_map.1 hd
  exact (lays_reference fun l hl => h l (by simp [Option.mem_def.1 hr, hl])).lays?

theorem lays_checks {o : Option Expr} (h : ∀ m ∈ expr? o, m.IsLaid S settings) :
    ∀ d ∈ o.map (.parens <| Layout.expr settings ·),
      Lays S settings .word .word d := by
  intro d hd
  obtain ⟨e, he, rfl⟩ := Option.mem_map.1 hd
  have hlays := lays_expr? h (Layout.expr settings e)
    (by simp [Option.mem_def.1 he, Layout.expr?])
  exact hlays.lays?.parens

/-- A column definition is well spaced if its parts are. -/
theorem columnDef_isLaidByParts (c : ColumnDef) :
    (columnDef c).IsLaidByParts S settings := by
  intro hleaves _ htight hparts
  have hname : Lays S settings .word .word (.name c.name) :=
    lays_name (hleaves _ List.mem_cons_self)
  have htype : Lays? S settings .word .word
      (.optional (c.dataType.map (Layout.typeDoc settings))) := by
    refine lays?_optional fun d hd => ?_
    obtain ⟨type, ht, rfl⟩ := Option.mem_map.1 hd
    have htype : (dataType type).IsLaid S settings :=
      hparts (dataType type) (by simp [shown, Option.mem_def.1 ht])
    exact htype.lays?
  have hdefault :=
    lays_expr? (e := c.options.default) fun m hm => hparts m (by simp [shown, hm])
  have hupdate :=
    lays_expr? (e := c.options.onUpdate) fun m hm => hparts m (by simp [shown, hm])
  have hchecks :=
    lays_checks (o := c.options.check) fun m hm => hparts m (by simp [shown, hm])
  have hcounting : Lays? S settings .word .word
      (.textIf c.options.autoIncrement settings.dialect.autoIncrement) := by
    cases settings.dialect <;> exact lays?_textIf rfl
  have hcomment :
      ∀ d ∈ c.options.comment.map Doc.string, Lays S settings .word .word d := by
    intro d hd
    obtain ⟨s, hs, rfl⟩ := Option.mem_map.1 hd
    exact lays_string (hleaves (.string s)
      (by simp [attributeLeaves, Option.mem_def.1 hs]))
  have hcharset : Lays? S settings .word .word
      (.clause "CHARACTER SET " (c.options.characterSet.map .word)) := by
    refine lays?_attribute rfl (fun s hs => hleaves _ ?_)
      (htight.imp_right fun h => ?_)
    · simp [attributeLeaves, verbatims, Option.mem_def.1 hs]
    · exact fun hempty => h (Or.inl hempty)
  have hcollate : Lays? S settings .word .word
      (.clause "COLLATE " (c.options.collate.map .word)) := by
    refine lays?_attribute rfl (fun s hs => hleaves _ ?_)
      (htight.imp_right fun h => ?_)
    · simp [attributeLeaves, verbatims, Option.mem_def.1 hs]
    · exact fun hempty => h (Or.inr hempty)
  have hreferences := lays?_references (o := c.options.references) fun l hl =>
    hleaves l (by simp only [leaves, attributeLeaves, List.mem_cons,
      List.mem_append]; tauto)
  refine lays?_require.append_lays
    (lays_fragments ?_ ⟨_, List.mem_cons_self, hname⟩)
  simp only [Layout.map_expr, List.forall_mem_cons, List.not_mem_nil, false_implies,
    implies_true, and_true]
  exact ⟨hname.lays?, htype, lays?_nullable _, lays?_clause rfl hdefault,
    lays?_clause rfl hupdate, hcounting, lays?_textIf rfl, lays?_textIf rfl,
    lays?_clause rfl hcomment, hcharset, hcollate, lays?_clause rfl hchecks,
    hreferences⟩

/-! ## All nodes -/

/-- Every node is well spaced if the parts that it prints are. -/
theorem isLaidByParts (n : Node) : n.IsLaidByParts S settings := by
  cases n with
  | expr e => exact expr_isLaidByParts e
  | call c => exact call_isLaidByParts c
  | aggregate a => exact aggregate_isLaidByParts a
  | dataType type => exact dataType_isLaidByParts type
  | cast c => exact cast_isLaidByParts c
  | extract x => exact extract_isLaidByParts x
  | anyValue a => exact anyValue_isLaidByParts a
  | window w => exact window_isLaidByParts w
  | bound b => exact bound_isLaidByParts b
  | sortKey k => exact sortKey_isLaidByParts k
  | query q => exact query_isLaidByParts q
  | body b => exact body_isLaidByParts b
  | select s => exact select_isLaidByParts s
  | item i => exact item_isLaidByParts i
  | modifier m => exact modifier_isLaidByParts m
  | table t => exact table_isLaidByParts t
  | join j => exact join_isLaidByParts j
  | cte c => exact cte_isLaidByParts c
  | columnDef c => exact columnDef_isLaidByParts c
  | assignment _ | constraint _ | index _ | statement _ =>
      exact fun _ _ _ _ => trivial

/-- A node keeps to a rule if the texts in all nodes that are printed do, if the
joints between laid parts do, and if no fixed space stands beside nothing. -/
theorem isLaid {n : Node}
    (hleaves : ∀ m ∈ Walk.printed.nodes n, ∀ l ∈ m.leaves, l.IsSpaced S settings)
    (hjoints : ∀ m ∈ Walk.printed.nodes n, (∀ k ∈ m.shown, k.IsLaid S settings) →
      ∀ d ∈ m.joints settings, Lays? S settings .word .word d)
    (htight : ∀ m ∈ Walk.printed.nodes n, S.Empty ∨ ¬m.IsLoose) :
    n.IsLaid S settings := by
  induction n using Walk.printed.induction with
  | step n ih =>
      rw [Walk.forall_nodes_iff] at hleaves hjoints htight
      have hparts : ∀ k ∈ n.shown, k.IsLaid S settings := fun k hk =>
        ih k hk (hleaves.2 k hk) (hjoints.2 k hk) (htight.2 k hk)
      exact n.isLaidByParts hleaves.1 (hjoints.1 hparts) htight.1 hparts

end Node

end SqlPrinter
