/-
Patterns for the statements about tables.
-/
import SqlPrinter.Proofs.Pattern.Query

namespace SqlPrinter.Node

variable {settings : Settings} {ok : Leaf → Prop}

/-! ## Columns -/

theorem reference_pattern {r : Reference}
    (hleaves : ∀ l ∈ referenceLeaves r, ok l) :
    Pattern settings ok [] fun f => Layout.reference (f.reference r) := by
  have htable : ∀ l ∈ objectLeaves r.table, ok l := fun l hl =>
    hleaves l (by simp [referenceLeaves, hl])
  have hcolumns : ∀ s ∈ r.columns, ok (.name s) := fun s hs =>
    hleaves _ (by simp [referenceLeaves, names, hs])
  have haction (o : Option RefAction) : PatternOpt settings ok [] fun _ =>
      o.map (.text ·.text) :=
    .const o fun a _ => .text (by cases a <;> rfl)
  have hhead : Pattern settings ok [] fun f =>
      .text "REFERENCES " ++ (f.object r.table).doc :=
    .text_then (.objectName htable) rfl
  have hnamed := hhead.then_fixed (.namesInParens "reference" "columns" hcolumns)
  have hdeleted :=
    hnamed.then_fixed ((haction r.onDelete).clause (s := " ON DELETE ") rfl)
  exact hdeleted.then_fixed ((haction r.onUpdate).clause rfl)

theorem nullable_pattern (o : Option Bool) :
    Pattern settings ok [] fun _ => Layout.nullable o := by
  rcases o with _ | _ | _
  · exact .empty
  · exact .text rfl
  · exact .text rfl

theorem columnDef_hasPattern {c : ColumnDef}
    (hleaves : ∀ l ∈ (columnDef c).leaves, ok l)
    (h : ∀ m ∈ (columnDef c).children, m.HasPattern settings ok) :
    (columnDef c).HasPattern settings ok := by
  intro p
  rcases c with ⟨name, type,
    ⟨nullable, default, onUpdate, autoIncrement, unique, primaryKey, comment,
      characterSet, collate, check, references⟩⟩
  have hname : ok (.name name) := hleaves _ (by simp [leaves])
  have htype : Fits (PatternOpt settings ok) (p.part 0) fun f =>
      (type.map (f.dataType (p.part 0))).map (Layout.typeDoc settings) := by
    cases type with
    | none => exact .const .none _
    | some t => exact (h (dataType t) (by simp [children]) (p.part 0)).lift .some
  have hdefault :=
    expr?_fits default (fun m hm => h m (by simp [children, hm])) (p.part 1)
  have hupdate :=
    expr?_fits onUpdate (fun m hm => h m (by simp [children, hm])) (p.part 2)
  have hcheck :=
    expr?_fits check (fun m hm => h m (by simp [children, hm])) (p.part 3)
  have hcounting : Pattern settings ok [] fun _ =>
      .textIf autoIncrement settings.dialect.autoIncrement := by
    cases autoIncrement
    · exact .empty
    · exact .counting
  have hcomment : PatternOpt settings ok [] fun f =>
      (comment.map f.string).map .string :=
    .string fun s hs => hleaves _ (by simp_all [leaves, attributeLeaves])
  have hcharset : PatternOpt settings ok [] fun _ => characterSet.map Doc.word :=
    .const _ fun s hs =>
      .word (hleaves _ (by simp_all [leaves, attributeLeaves, verbatims]))
  have hcollate : PatternOpt settings ok [] fun _ => collate.map Doc.word :=
    .const _ fun s hs =>
      .word (hleaves _ (by simp_all [leaves, attributeLeaves, verbatims]))
  have hreferences : PatternOpt settings ok [] fun f =>
      (references.map f.reference).map Layout.reference := by
    cases references with
    | none => exact .none
    | some r =>
        refine .some (reference_pattern fun l hl => hleaves l ?_)
        simp [leaves, attributeLeaves, hl]
  have hcondition : Fits (PatternOpt settings ok) (p.part 3) fun f =>
      (Layout.expr? settings (f.expr? (p.part 3) check)).map .parens :=
    hcheck.lift (·.map .parens)
  have hparens (o : Option Expr) :
      o.map (fun e => Doc.parens (Layout.expr settings e)) =
        (Layout.expr? settings o).map .parens := by
    cases o <;> rfl
  -- The attributes from the back to the front; those without a parameter have no
  -- part.
  have hnil : Laid (Patterns settings ok) p [] fun _ => [] := .const .nil p
  have hlast := (hcondition.laid.clause (s := "CHECK ") rfl).cons
    ((Laid.const hreferences.optional p).cons hnil rfl) rfl
  have hwords := (Laid.const (hcomment.clause (s := "COMMENT ") rfl) p).cons
    ((Laid.const (hcharset.clause (s := "CHARACTER SET ") rfl) p).cons
      ((Laid.const (hcollate.clause (s := "COLLATE ") rfl) p).cons hlast rfl)
        rfl) rfl
  have hkeys := (Laid.const hcounting p).cons
    ((Laid.const (Pattern.textIf unique (s := "UNIQUE") rfl) p).cons
      ((Laid.const (Pattern.textIf primaryKey (s := "PRIMARY KEY") rfl) p).cons
        hwords rfl) rfl) rfl
  have hvalues := (hdefault.laid.clause (s := "DEFAULT ") rfl).cons
    ((hupdate.laid.clause (s := "ON UPDATE ") rfl).cons hkeys rfl) rfl
  have hall := (Laid.const (.name hname) p).cons (htype.laid.optional.cons
    ((Laid.const (nullable_pattern nullable) p).cons hvalues rfl) rfl) rfl
  simp only [Filling.columnDef, Layout.columnDef, Filling.requireText_name,
    Layout.map_expr, hparens]
  exact (hall.fragments.fixed_then (.requireText name _ _)).fits

/-! ## Constraints and indexes -/

theorem indexColumn_pattern {c : IndexColumn} (hc : ok (.name c.column)) :
    Pattern settings ok [] fun f => Layout.indexColumn (f.indexColumn c) := by
  have hlength : PatternOpt settings ok [] fun _ =>
      c.length.map (.parens <| .number ·) :=
    .const c.length fun n _ => .parens (.number n)
  exact .then_fixed (.then_fixed (.name hc) hlength.optional) (.direction c.order)

theorem forall_indexLeaves_cons {c : IndexColumn} {cs : List IndexColumn} :
    (∀ l ∈ indexLeaves (c :: cs), ok l) ↔ ok (.name c.column) ∧
      ∀ l ∈ indexLeaves cs, ok l :=
  List.forall_mem_cons

/-- The columns after the first one, each with a comma before it. -/
theorem laterIndexColumns_pattern {cs : List IndexColumn}
    (hleaves : ∀ l ∈ indexLeaves cs, ok l) :
    Patterns settings ok [] fun f => (cs.map f.indexColumn).map fun c =>
      .requireText c.column "index" "column" ++ .text ", " ++
        Layout.indexColumn c := by
  induction cs with
  | nil => exact .nil
  | cons c cs ih =>
      obtain ⟨hc, hcs⟩ := forall_indexLeaves_cons.1 hleaves
      have hfirst : Pattern settings ok [] fun f =>
          .requireText c.column "index" "column" ++ .text ", " ++
            Layout.indexColumn (f.indexColumn c) :=
        .then_fixed (.then_text (.requireText _ _ _) rfl) (indexColumn_pattern hc)
      simp only [List.map_cons, Filling.indexColumn, Filling.requireText_name]
      exact .cons hfirst (ih hcs)

theorem indexColumns_pattern {cs : List IndexColumn}
    (hleaves : ∀ l ∈ indexLeaves cs, ok l) :
    Pattern settings ok [] fun f => Layout.indexColumns (cs.map f.indexColumn) := by
  cases cs with
  | nil => exact .fail _
  | cons c cs =>
      obtain ⟨hc, hcs⟩ := forall_indexLeaves_cons.1 hleaves
      have hfirst : Pattern settings ok [] fun f =>
          .requireText c.column "index" "column" ++
            Layout.indexColumn (f.indexColumn c) :=
        .then_fixed (.requireText _ _ _) (indexColumn_pattern hc)
      have hall := hfirst.then_fixed (laterIndexColumns_pattern hcs).concat
      simp only [List.map_cons, Layout.indexColumns]
      simpa [Filling.indexColumn] using hall.parens

theorem indexMethod_pattern (method : Option IndexType) :
    Pattern settings ok [] fun _ => Layout.indexMethod method := by
  rcases method with _ | _ | _
  · exact .empty
  · exact .text rfl
  · exact .text rfl

theorem constraintName_pattern {o : Option String} (ho : ∀ s ∈ o, ok (.name s)) :
    Pattern settings ok [] fun f => Layout.constraintName (o.map f.name) := by
  simp only [Layout.constraintName, Filling.nonEmpty_map_name]
  cases hne : Text.nonEmpty o with
  | none => exact .empty
  | some s =>
      exact .then_text (.text_then (.name (ho s (Text.mem_of_mem_nonEmpty hne)))
        rfl) rfl

theorem indexName_pattern {o : Option String} (ho : ∀ s ∈ o, ok (.name s)) :
    Pattern settings ok [] fun f => Layout.indexName (o.map f.name) := by
  simp only [Layout.indexName, Filling.nonEmpty_map_name]
  exact (PatternOpt.name fun s hs => ho s (Text.mem_of_mem_nonEmpty hs)).clause rfl

theorem constraint_hasPattern {c : TableConstraint}
    (hleaves : ∀ l ∈ constraintLeaves c, ok l)
    (h : ∀ m ∈ (constraint c).children, m.HasPattern settings ok) :
    (constraint c).HasPattern settings ok := by
  intro p
  cases c with
  | primaryKey s columns method =>
      have hs : ∀ t ∈ s, ok (.name t) := fun t ht =>
        hleaves _ (by simp_all [constraintLeaves, names])
      have hcolumns : Pattern settings ok [] fun f =>
          Layout.indexColumns (columns.map f.indexColumn) :=
        indexColumns_pattern fun l hl => hleaves l (by simp [constraintLeaves, hl])
      have hhead : Pattern settings ok [] fun f =>
          Layout.constraintName (s.map f.name) ++ .text "PRIMARY KEY " :=
        (constraintName_pattern hs).then_text rfl
      exact .const ((hhead.then_fixed hcolumns).then_fixed
        (indexMethod_pattern method)) p
  | unique s keyword name columns method =>
      have hs : ∀ t ∈ s, ok (.name t) := fun t ht =>
        hleaves _ (by simp_all [constraintLeaves, names])
      have hname : ∀ t ∈ name, ok (.name t) := fun t ht =>
        hleaves _ (by simp_all [constraintLeaves, names])
      have hcolumns : Pattern settings ok [] fun f =>
          Layout.indexColumns (columns.map f.indexColumn) :=
        indexColumns_pattern fun l hl => hleaves l (by simp [constraintLeaves, hl])
      have hhead : Pattern settings ok [] fun f =>
          Layout.constraintName (s.map f.name) ++ .text "UNIQUE" :=
        (constraintName_pattern hs).then_text rfl
      have hnamed {d : Doc} (hd : Pattern settings ok [] fun _ => d) :=
        ((hhead.then_fixed hd).then_fixed (indexName_pattern hname)).then_text
          (s := " ") rfl
      refine .const (((hnamed ?_).then_fixed hcolumns).then_fixed
        (indexMethod_pattern method)) p
      rcases keyword with _ | _ | _
      · exact .empty
      · exact .text rfl
      · exact .text rfl
  | foreignKey s columns references =>
      have hs : ∀ t ∈ s, ok (.name t) := fun t ht =>
        hleaves _ (by simp_all [constraintLeaves, names])
      have hcolumns : ∀ t ∈ columns, ok (.name t) := fun t ht =>
        hleaves _ (by simp_all [constraintLeaves, names])
      have hreference : Pattern settings ok [] fun f =>
          Layout.reference (f.reference references) :=
        reference_pattern fun l hl => hleaves l (by simp [constraintLeaves, hl])
      have hempty (f : Filling) :
          (columns.map f.name).isEmpty = columns.isEmpty := by
        cases columns <;> rfl
      have hname : Pattern settings ok [] fun f =>
          Layout.constraintName (s.map f.name) :=
        constraintName_pattern hs
      have hhead :=
        ((Pattern.require (!columns.isEmpty) "foreign key" "columns").then_fixed
        hname).then_text (s := "FOREIGN KEY ") rfl
      have hnames :=
        hhead.then_fixed (.parens (.names "foreign key" "columns" hcolumns))
      simp only [Filling.constraint, Layout.tableConstraint, hempty]
      exact .const ((hnames.then_text (s := " ") rfl).then_fixed hreference) p
  | check s condition =>
      have hs : ∀ t ∈ s, ok (.name t) := fun t ht =>
        hleaves _ (by simp_all [constraintLeaves, names])
      have hcondition := h (expr condition) (by simp [children]) p
      have hhead : Pattern settings ok [] fun f =>
          Layout.constraintName (s.map f.name) ++ .text "CHECK " :=
        (constraintName_pattern hs).then_text rfl
      exact hcondition.lift fun hF => hhead.fixed_then hF.parens

theorem index_hasPattern {i : IndexDef} (hleaves : ∀ l ∈ (index i).leaves, ok l) :
    (index i).HasPattern settings ok := by
  rcases i with ⟨kind, name, columns, method⟩
  have hname : ∀ t ∈ name, ok (.name t) :=
    fun t ht => hleaves _ (by simp_all [leaves, names])
  have hcolumns : Pattern settings ok [] fun f =>
      Layout.indexColumns (columns.map f.indexColumn) :=
    indexColumns_pattern fun l hl => hleaves l (by simp [leaves, hl])
  have hkind : ∀ {s : String}, IsPlain s → Pattern settings ok [] fun f =>
      .text s ++ Layout.indexName (name.map f.name) ++ .text " " ++
        Layout.indexColumns (columns.map f.indexColumn) ++
        Layout.indexMethod method :=
    fun hs => .then_fixed
      (.then_fixed (.then_text (.text_then (indexName_pattern hname) hs) rfl)
      hcolumns) (indexMethod_pattern method)
  cases kind <;> exact hkind rfl

/-! ## Options and elements -/

theorem tableOption_pattern {o : TableOption}
    (hleaves : ∀ l ∈ optionLeaves [o], ok l) :
    Pattern settings ok [] fun _ => Layout.tableOption o := by
  have hkeyword : ok (.verbatim o.keyword) :=
    hleaves _ (by simp [optionLeaves, verbatims])
  have hvalue : ok (.verbatim o.value) :=
    hleaves _ (by simp [optionLeaves, verbatims])
  have hhead : Pattern settings ok [] fun _ =>
      .requireText o.keyword "table option" "keyword" ++ .word o.keyword ++
        .text " = " :=
    .then_text (.then_fixed (.requireText _ _ _) (.word hkeyword)) rfl
  refine hhead.then_fixed ?_
  split
  · exact .word hvalue
  · exact .verbatim hvalue

theorem tableOptions_pattern {options : List TableOption}
    (hleaves : ∀ l ∈ optionLeaves options, ok l) :
    Pattern settings ok [] fun _ => Layout.tableOptions options := by
  have hoption : ∀ o ∈ options,
      Pattern settings ok [] fun _ => .text " " ++ Layout.tableOption o := by
    intro o ho
    refine .text_then (tableOption_pattern fun l hl => hleaves l ?_) rfl
    simp only [optionLeaves, List.mem_flatMap, List.mem_singleton] at hl ⊢
    obtain ⟨o', rfl, hl⟩ := hl
    exact ⟨o', ho, hl⟩
  exact (Patterns.const options hoption).concat

theorem element_fits {e : TableElement} (he : (ofElement e).HasPattern settings ok)
    (p : Site) :
    Fits (Pattern settings ok) p fun f =>
      Layout.tableElement settings (f.element p e) := by
  cases e with
  | column c => exact (he p).lift .isolated
  | constraint c => exact he p
  | index i => exact .const he p

theorem elements_fit (es : List TableElement)
    (h : ∀ e ∈ es, (ofElement e).HasPattern settings ok) (p : Site) :
    Fits (Patterns settings ok) p fun f =>
      (f.elements p es).map (Layout.tableElement settings) :=
  Fits.list (L := fun p es f =>
    (f.elements p es).map (Layout.tableElement settings))
    (fun _ => rfl) (fun _ _ _ => rfl) (fun e he => element_fits (h e he)) p

theorem action_fits {a : AlterAction} (hleaves : ∀ l ∈ actionLeaves a, ok l)
    (h : ∀ m ∈ ofAction a, m.HasPattern settings ok) (p : Site) :
    Fits (Pattern settings ok) p fun f =>
      Layout.alterAction settings (f.action p a) := by
  have hverb (verb : String) (word : Bool) (hs : IsPlain verb) :
      Pattern settings ok [] fun _ => Layout.columnVerb verb word :=
    .then_text (.then_fixed (.text hs) (.textIf word rfl)) rfl
  cases a with
  | addColumn word c =>
      have hc := h (columnDef c) (by simp [ofAction]) p
      exact hc.lift fun hF => (hverb "ADD" word rfl).fixed_then hF.isolated
  | dropColumn word s =>
      have hs : ok (.name s) := hleaves _ (by simp [actionLeaves])
      simp only [Filling.action, Layout.alterAction, Filling.requireText_name]
      exact .const (.then_fixed
        (.then_fixed (.requireText _ _ _) (hverb "DROP" word rfl))
        (.name hs)) p
  | modifyColumn word c =>
      have hc := h (columnDef c) (by simp [ofAction]) p
      exact hc.lift fun hF => (hverb "MODIFY" word rfl).fixed_then hF.isolated
  | changeColumn word old c =>
      have hold : ok (.name old) := hleaves _ (by simp [actionLeaves])
      have hc := h (columnDef c) (by simp [ofAction]) p
      simp only [Filling.action, Layout.alterAction, Filling.requireText_name]
      exact hc.lift fun hF => .fixed_then (.then_text (.then_fixed (.then_fixed
        (.requireText _ _ _) (hverb "CHANGE" word rfl))
          (.name hold)) rfl) hF.isolated
  | renameColumn old new =>
      have hold : ok (.name old) := hleaves _ (by simp [actionLeaves, names])
      have hnew : ok (.name new) := hleaves _ (by simp [actionLeaves, names])
      simp only [Filling.action, Layout.alterAction, Filling.requireText_name]
      exact .const (.then_fixed (.then_text (.then_fixed (.then_text (.then_fixed
        (.requireText _ _ _) (.requireText _ _ _)) rfl) (.name hold)) rfl)
          (.name hnew)) p
  | addConstraint c =>
      exact (h (constraint c) (by simp [ofAction]) p).lift fun hF =>
        .text_then hF rfl
  | addIndex i =>
      have hi : (index i).HasPattern settings ok := h (index i) (by simp [ofAction])
      exact .const (Pattern.text_then hi (by rfl)) p
  | dropIndex s =>
      have hs : ok (.name s) := hleaves _ (by simp [actionLeaves])
      simp only [Filling.action, Layout.alterAction, Filling.requireText_name]
      exact .const (.then_fixed (.then_text (.requireText _ _ _) rfl) (.name hs)) p
  | dropPrimaryKey => exact .const (.text rfl) p
  | renameTable o =>
      exact .const (Pattern.text_then (.objectName hleaves) (by rfl)) p
  | setOption o => exact .const (tableOption_pattern hleaves) p

/-! ## Statements -/

theorem objects_pattern {os : List ObjectName}
    (hleaves : ∀ l ∈ os.flatMap objectLeaves, ok l) :
    Pattern settings ok [] fun f =>
      .commas ((os.map f.object).map ObjectName.doc) := by
  suffices hall : Patterns settings ok [] fun f =>
      (os.map f.object).map ObjectName.doc by
    exact hall.commas
  induction os with
  | nil => exact .nil
  | cons o os ih =>
      have ho : ∀ l ∈ objectLeaves o, ok l := fun l hl => hleaves l (by simp [hl])
      have hrest := ih fun l hl => hleaves l (by simp_all)
      exact .cons (.objectName ho) hrest

theorem createTable_fits {t : CreateTable}
    (hleaves : ∀ l ∈ statementLeaves (.createTable t), ok l)
    (h : ∀ m ∈ ofStatement (.createTable t), m.HasPattern settings ok) (p : Site) :
    Fits (Pattern settings ok) p fun f =>
      (f.statement p (.createTable t)).doc settings := by
  rcases t with ⟨temporary, ifNotExists, name, elements, options, query, like⟩
  have hname : ∀ l ∈ objectLeaves name, ok l := fun l hl =>
    hleaves l (by simp [statementLeaves, hl])
  have hoptions : ∀ l ∈ optionLeaves options, ok l := fun l hl =>
    hleaves l (by simp [statementLeaves, hl])
  have helements := elements_fit elements
    (fun e he => h (ofElement e) (by
      simp only [ofStatement, List.mem_append]
      exact Or.inl (List.mem_map_of_mem he)))
    (p.part 0)
  have hquery : Fits (PatternOpt settings ok) (p.part 1) fun f =>
      (query.map (f.query (p.part 1))).map (Layout.queryDoc settings) := by
    cases query with
    | none => exact .const .none _
    | some q =>
        exact (h (Node.query q) (by simp [ofStatement]) (p.part 1)).lift .some
  have hcount (f : Filling) :
      (f.elements (p.part 0) elements).isEmpty = elements.isEmpty := by
    cases elements <;> rfl
  have hlead : Pattern settings ok [] fun f =>
      .require (!elements.isEmpty || like.isSome || query.isSome) "create table"
        "definitions" ++
        .text "CREATE " ++ .textIf temporary "TEMPORARY " ++ .text "TABLE " ++
        .textIf ifNotExists "IF NOT EXISTS " ++ (f.object name).doc :=
    .then_fixed (.then_fixed
      (.then_text (.then_fixed (.then_text (.require _ _ _) rfl)
      (.textIf temporary rfl)) rfl) (.textIf ifNotExists rfl)) (.objectName hname)
  simp only [Filling.statement, Statement.doc, Layout.createTable, hcount,
    Option.isSome_map]
  cases like with
  | some source =>
      have hsource : ∀ l ∈ objectLeaves source, ok l := fun l hl =>
        hleaves l (by simp [statementLeaves, hl])
      exact .const (hlead.then_fixed (.text_then (.objectName hsource) (by rfl))) p
  | none =>
      have hlist :=
        (helements.laid.commas.parens.text_then (s := " ") rfl).unless
          elements.isEmpty
      have hbody := (hlist.then_fixed (tableOptions_pattern hoptions)).append
        (hquery.laid.clause (s := " AS ") rfl) rfl
      exact (hbody.fixed_then hlead).fits

theorem drop_pattern {d : Drop} (hleaves : ∀ l ∈ statementLeaves (.drop d), ok l)
    (p : Site) :
    Pattern settings ok [] fun f => (f.statement p (.drop d)).doc settings := by
  rcases d with ⟨kind, ifExists, os, table⟩
  have hos : ∀ l ∈ os.flatMap objectLeaves, ok l := fun l hl =>
    hleaves l (by simp_all [statementLeaves])
  have htable : PatternOpt settings ok [] fun f =>
      (table.map f.object).map ObjectName.doc := by
    cases table with
    | none => exact .none
    | some o =>
        exact .some (.objectName fun l hl =>
          hleaves l (by simp [statementLeaves, hl]))
  have hcount (f : Filling) : (os.map f.object).isEmpty = os.isEmpty := by
    cases os <;> rfl
  have hkind : ∀ {s : String}, IsPlain s → Pattern settings ok [] fun f =>
      .require (!os.isEmpty) "drop" "names" ++ .text s ++
        .textIf ifExists "IF EXISTS " ++
        .commas ((os.map f.object).map ObjectName.doc) ++
        .clause " ON " ((table.map f.object).map ObjectName.doc) :=
    fun hs => .then_fixed (.then_fixed (.then_fixed (.then_text (.require _ _ _) hs)
      (.textIf ifExists rfl)) (objects_pattern hos)) (htable.clause rfl)
  simp only [Filling.statement, Statement.doc, Layout.drop, hcount]
  cases kind <;> exact hkind rfl

theorem list_pattern {target : Show} (hleaves : ∀ l ∈ showLeaves target, ok l) :
    Pattern settings ok [] fun f => Layout.list (f.listed target) := by
  cases target with
  | tables database =>
      refine .text_then ((PatternOpt.name fun s hs => hleaves _ ?_).clause rfl) rfl
      simp_all [showLeaves, names]
  | databases => exact .text rfl
  | columns o => exact .text_then (.objectName hleaves) rfl
  | index o => exact .text_then (.objectName hleaves) rfl
  | create kind o =>
      refine .text_then (.objectName hleaves) ?_
      cases kind <;> rfl

theorem alterTable_fits {t : AlterTable}
    (hleaves : ∀ l ∈ statementLeaves (.alterTable t), ok l)
    (h : ∀ m ∈ ofStatement (.alterTable t), m.HasPattern settings ok) (p : Site) :
    Fits (Pattern settings ok) p fun f =>
      (f.statement p (.alterTable t)).doc settings := by
  rcases t with ⟨name, actions⟩
  have hname : ∀ l ∈ objectLeaves name, ok l := fun l hl =>
    hleaves l (by simp [statementLeaves, hl])
  have haction : ∀ a ∈ actions, ∀ p, Fits (Pattern settings ok) p fun f =>
      Layout.alterAction settings (f.action p a) := by
    intro a ha
    refine action_fits (fun l hl => hleaves l ?_) (fun m hm => h m ?_)
    · simp only [statementLeaves, List.mem_append, List.mem_flatMap]
      exact Or.inr ⟨a, ha, hl⟩
    · exact List.mem_flatMap.2 ⟨a, ha, hm⟩
  have hactions : Fits (Patterns settings ok) p fun f =>
      (f.actions p actions).map (Layout.alterAction settings) :=
    Fits.list (L := fun p as f =>
      (f.actions p as).map (Layout.alterAction settings))
      (fun _ => rfl) (fun _ _ _ => rfl) haction p
  have hcount (f : Filling) : (f.actions p actions).isEmpty = actions.isEmpty := by
    cases actions <;> rfl
  simp only [Filling.statement, Statement.doc, Layout.alterTable, hcount]
  exact hactions.lift fun hFs => .fixed_then (.then_text (.then_fixed (.then_text
    (.require _ _ _) rfl) (.objectName hname)) rfl) hFs.commas

theorem createDatabase_pattern {d : CreateDatabase}
    (hleaves : ∀ l ∈ statementLeaves (.createDatabase d), ok l) (p : Site) :
    Pattern settings ok [] fun f =>
      (f.statement p (.createDatabase d)).doc settings := by
  rcases d with ⟨keyword, ifNotExists, name, options⟩
  have hname : ok (.name name) := hleaves _ (by simp [statementLeaves])
  have hoptions : ∀ l ∈ optionLeaves options, ok l := fun l hl =>
    hleaves l (by simp [statementLeaves, hl])
  have hkeyword : ∀ {s : String}, IsPlain s → Pattern settings ok [] fun f =>
      .requireText name "create database" "name" ++ .text s ++
        .textIf ifNotExists "IF NOT EXISTS " ++ .name (f.name name) ++
        Layout.tableOptions options :=
    fun hs => .then_fixed
      (.then_fixed (.then_fixed (.then_text (.requireText _ _ _) hs)
      (.textIf ifNotExists rfl)) (.name hname)) (tableOptions_pattern hoptions)
  simp only [Filling.statement, Statement.doc, Layout.createDatabase,
    Filling.requireText_name]
  cases keyword <;> exact hkeyword rfl

theorem createView_fits {v : CreateView}
    (hleaves : ∀ l ∈ statementLeaves (.createView v), ok l)
    (h : ∀ m ∈ ofStatement (.createView v), m.HasPattern settings ok) (p : Site) :
    Fits (Pattern settings ok) p fun f =>
      (f.statement p (.createView v)).doc settings := by
  rcases v with ⟨orReplace, name, columns, q⟩
  have hname : ∀ l ∈ objectLeaves name, ok l := fun l hl =>
    hleaves l (by simp [statementLeaves, hl])
  have hcolumns : ∀ s ∈ columns, ok (.name s) := fun s hs =>
    hleaves _ (by simp [statementLeaves, names, hs])
  have hquery := h (query q) (by simp [ofStatement]) p
  refine hquery.lift fun hF => .fixed_then (.then_text (.then_fixed ?_
    (.namesInParens "create view" "columns" hcolumns)) rfl) hF
  exact .then_fixed (.then_text (.text_then (.textIf orReplace rfl) rfl) rfl)
    (.objectName hname)

theorem createIndex_pattern {i : CreateIndex}
    (hleaves : ∀ l ∈ statementLeaves (.createIndex i), ok l) (p : Site) :
    Pattern settings ok [] fun f =>
      (f.statement p (.createIndex i)).doc settings := by
  rcases i with ⟨unique, ifNotExists, name, object, columns, method⟩
  have hname : ok (.name name) := hleaves _ (by simp [statementLeaves])
  have hobject : ∀ l ∈ objectLeaves object, ok l := fun l hl =>
    hleaves l (by simp [statementLeaves, hl])
  have hcolumns : ∀ l ∈ indexLeaves columns, ok l := fun l hl =>
    hleaves l (by simp [statementLeaves, hl])
  have hhead : Pattern settings ok [] fun f =>
      .requireText name "create index" "name" ++ .text "CREATE " ++
        .textIf unique "UNIQUE " ++ .text "INDEX " ++
        .textIf ifNotExists "IF NOT EXISTS " ++ .name (f.name name) ++
        .text " ON " ++ (f.object object).doc :=
    .then_fixed (.then_text
      (.then_fixed (.then_fixed (.then_text (.then_fixed (.then_text
      (.requireText _ _ _) rfl) (.textIf unique rfl)) rfl)
        (.textIf ifNotExists rfl))
      (.name hname)) rfl) (.objectName hobject)
  simp only [Filling.statement, Statement.doc, Layout.createIndex,
    Filling.requireText_name]
  exact ((hhead.then_text (by rfl)).then_fixed
    (indexColumns_pattern hcolumns)).then_fixed
    (indexMethod_pattern method)

theorem analyze_pattern {a : Analyze}
    (hleaves : ∀ l ∈ statementLeaves (.analyze a), ok l) (p : Site) :
    Pattern settings ok [] fun f => (f.statement p (.analyze a)).doc settings := by
  rcases a with ⟨word, os⟩
  have hcount (f : Filling) : (os.map f.object).isEmpty = os.isEmpty := by
    cases os <;> rfl
  simp only [Filling.statement, Statement.doc, Layout.analyze, hcount]
  exact .then_fixed (.then_fixed (.then_text (.require _ _ _) rfl)
    (.textIf word rfl))
    (objects_pattern hleaves)

theorem attach_fits {a : Attach} (hleaves : ∀ l ∈ statementLeaves (.attach a), ok l)
    (h : ∀ m ∈ ofStatement (.attach a), m.HasPattern settings ok) (p : Site) :
    Fits (Pattern settings ok) p fun f =>
      (f.statement p (.attach a)).doc settings := by
  rcases a with ⟨file, schema⟩
  have hschema : ok (.name schema) := hleaves _ (by simp [statementLeaves])
  have hfile := h (expr file) (by simp [ofStatement]) p
  simp only [Filling.statement, Statement.doc, Layout.attach,
    Filling.requireText_name]
  cases settings.dialect.supports .attach with
  | false => exact .const (.fail _) p
  | true =>
      refine hfile.lift fun hF => .then_fixed (.then_text (.fixed_then ?_ hF) rfl)
        (.name hschema)
      exact .then_text (.requireText _ _ _) rfl

end SqlPrinter.Node
