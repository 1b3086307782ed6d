/-
Patterns for INSERT, UPDATE and DELETE.
-/
import SqlPrinter.Proofs.Pattern.Query

namespace SqlPrinter.Node

variable {settings : Settings} {ok : Leaf → Prop}

/-! ## Assignments -/

theorem insertedRef_pattern (inserted : InsertedRef) {column : String}
    (hcolumn : ok (.name column)) :
    Pattern settings ok [] fun f => inserted.doc (f.name column) := by
  cases inserted with
  | excluded => exact .text_then (.name hcolumn) rfl
  | rowName =>
      exact Patterns.joined (.text (by rfl))
        (.cons .row (.cons (.name hcolumn) .nil))
  | valuesCall => exact .text_then (.parens (.name hcolumn)) rfl

theorem assignment_hasPattern {a : Assignment}
    (hleaves : ∀ l ∈ (assignment a).leaves, ok l)
    (h : ∀ m ∈ (assignment a).children, m.HasPattern settings ok) :
    (assignment a).HasPattern settings ok := by
  intro inserted p
  rcases a with ⟨table, column, value, fromInserted⟩
  have hcolumn : ok (.name column) := hleaves _ (by simp [leaves, names])
  have hpath : ∀ s ∈ (Text.nonEmpty table).toList ++ [column], ok (.name s) := by
    intro s hs
    simp only [List.mem_append, Option.mem_toList, List.mem_singleton] at hs
    rcases hs with hs | rfl
    · apply hleaves
      have hmem := Text.mem_of_mem_nonEmpty hs
      simp_all [leaves, names]
    · exact hcolumn
  have hparts (f : Filling) :
      (Text.nonEmpty (table.map f.name)).toList ++ [f.name column] =
      ((Text.nonEmpty table).toList ++ [column]).map f.name := by
    cases htable : Text.nonEmpty table <;> simp [htable]
  have hvalue := h (expr value) (by simp [children]) p
  have hlead : Pattern settings ok [] fun f =>
      .requireText column "assignment" "col" ++
      .path (((Text.nonEmpty table).toList ++ [column]).map f.name) ++
      .text " = " :=
    .then_text (.then_fixed (.requireText _ _ _) (.path hpath)) rfl
  simp only [Filling.assignment, Layout.assignment,
    Filling.requireText_name, hparts]
  cases fromInserted with
  | true => exact .const (hlead.then_fixed (insertedRef_pattern inserted hcolumn)) p
  | false => exact hvalue.lift hlead.fixed_then

theorem assignments_fit (as : List Assignment) (inserted : InsertedRef)
    (h : ∀ a ∈ as, (assignment a).HasPattern settings ok) (p : Site) :
    Fits (Pattern settings ok) p fun f =>
      Layout.assignments settings inserted (f.assignments p as) := by
  have hlist : Fits (Patterns settings ok) p fun f =>
      (f.assignments p as).map (Layout.assignment settings inserted) :=
    Fits.list (L := fun p as f =>
      (f.assignments p as).map (Layout.assignment settings inserted))
      (fun _ => rfl) (fun _ _ _ => rfl) (fun a ha => h a ha inserted) p
  simp only [Layout.assignments, Filling.isEmpty_assignments]
  exact hlist.lift fun hFs => .fixed_then (.require _ _ _) hFs.commas

/-! ## The clauses of an INSERT -/

theorem rowSource_fits {s : RowSource}
    (h : ∀ m ∈ ofSource s, m.HasPattern settings ok) (p : Site) :
    Fits (Pattern settings ok) p fun f =>
      Layout.rowSource settings (f.source p s) := by
  cases s with
  | values rows =>
      have hrows : Fits (Patterns settings ok) p fun f =>
          (Layout.rows settings (f.rows p rows)).map Layout.valueRow :=
        rows_fit rows (fun hFs => valueRow_pattern hFs) h p
      simp only [Filling.source, Layout.rowSource, Filling.isEmpty_rows]
      exact hrows.lift fun hFs =>
        .fixed_then (.then_text (.require _ _ _) rfl) hFs.commas
  | query q =>
      exact (h (query q) (by simp [ofSource]) p).lift fun hF => .text_then hF rfl
  | assignments as =>
      have has :=
        assignments_fit as .excluded (fun a ha => h _ (List.mem_map_of_mem ha)) p
      exact has.lift fun hF => .text_then hF rfl

theorem ignoreWord_pattern (ignore : Bool) (action : Option ConflictAction)
    (p : Site) : Pattern settings ok [] fun f =>
      Layout.ignoreWord settings ignore (action.map (f.conflictAction p)) := by
  unfold Layout.ignoreWord
  split
  · exact .textIf ignore rfl
  · split
    · rcases action with _ | _ | _ <;> cases ignore
      case some.doUpdate.true => exact .fail _
      all_goals exact .empty
    · rcases action with _ | _ | _
      · exact .textIf ignore rfl
      · exact .textIf _ rfl
      · exact .textIf ignore rfl

theorem rowName_pattern (inserted : InsertedRef) (action : Option ConflictAction)
    (p : Site) : Pattern settings ok [] fun f =>
      Layout.rowName inserted (action.map (f.conflictAction p)) := by
  rcases action with _ | _ | ⟨as, condition⟩
  · exact .empty
  · exact .empty
  · simp only [Option.map_some, Filling.conflictAction, Layout.rowName,
      Filling.any_fromInserted_assignments]
    split
    · exact .text_then .row rfl
    · exact .empty

theorem conflictTarget_pattern {c : ConflictClause}
    (hleaves : ∀ l ∈ conflictLeaves (some c), ok l) (p : Site) :
    Pattern settings ok [] fun f => Layout.conflictTarget (f.conflict p c) := by
  have hcolumns : ∀ s ∈ c.columns, ok (.name s) := fun s hs =>
    hleaves _ (by simp [conflictLeaves, names, hs])
  simp only [Layout.conflictTarget, Filling.conflict, Filling.nonEmpty_map_name]
  cases hne : Text.nonEmpty c.constraint with
  | none => exact .namesInParens _ _ hcolumns
  | some s =>
      refine .text_then (.name (hleaves _ ?_)) rfl
      have hmem := Text.mem_of_mem_nonEmpty hne
      simp_all [conflictLeaves, names]

/-- The parts of what is done with a conflicting row are those of its clause. -/
theorem duplicateKey_fits (inserted : InsertedRef) {c : ConflictClause}
    (h : ∀ m ∈ conflict? (some c), m.HasPattern settings ok) (p : Site) :
    Fits (Pattern settings ok) p fun f =>
      Layout.duplicateKey settings inserted
        (c.action.map (f.conflictAction p)) := by
  rcases c with ⟨columns, constraint, _ | _ | ⟨as, condition⟩⟩
  · exact .const .empty p
  · exact .const .empty p
  · have has :=
      assignments_fit as inserted (fun a ha => h _ (by simp [conflict?, ha]))
        (p.part 0)
    cases condition with
    | none => exact (has.laid.text_then (by rfl)).fits
    | some e => exact .const (.fail _) p

theorem conflictAction_fits (inserted : InsertedRef) (ignore : Bool)
    {c : ConflictClause} (h : ∀ m ∈ conflict? (some c), m.HasPattern settings ok)
    (p : Site) : Fits (Pattern settings ok) p fun f =>
      Layout.conflictAction settings inserted ignore
        (c.action.map (f.conflictAction p)) := by
  rcases c with ⟨columns, constraint, _ | _ | ⟨as, condition⟩⟩
  · exact .const (.textIf ignore rfl) p
  · exact .const (.text rfl) p
  · have has :=
      assignments_fit as inserted (fun a ha => h _ (by simp [conflict?, ha]))
        (p.part 0)
    have hcondition :=
      expr?_fits condition (fun m hm => h m (by simp [conflict?, hm])) (p.part 1)
    simp only [Option.map_some, Filling.conflictAction, Layout.conflictAction,
      Layout.map_expr]
    exact ((has.laid.text_then (by rfl)).append (hcondition.laid.clause (by rfl))
      rfl).fits

theorem onConflict_fits (inserted : InsertedRef) (ignore : Bool)
    (o : Option ConflictClause) (hleaves : ∀ l ∈ conflictLeaves o, ok l)
    (h : ∀ m ∈ conflict? o, m.HasPattern settings ok) (p : Site) :
    Fits (Pattern settings ok) p fun f =>
      Layout.onConflict settings inserted ignore (o.map (f.conflict p)) := by
  unfold Layout.onConflict
  cases o with
  | none =>
      split
      · exact .const .empty p
      · exact .const (.textIf _ rfl) p
  | some c =>
      split
      · exact duplicateKey_fits inserted h p
      · exact (conflictAction_fits inserted ignore h p).lift
          ((conflictTarget_pattern hleaves p).text_then (by rfl)).fixed_then

theorem returning_fits (is : List SelectItem)
    (h : ∀ m ∈ is.map item, m.HasPattern settings ok) (p : Site) :
    Fits (Pattern settings ok) p fun f =>
      Layout.returning (Layout.selectItems settings (f.items p is)) :=
  (items_fit is (fun _ hi => h _ (List.mem_map_of_mem hi)) p).lift fun hFs =>
    hFs.orEmpty (hFs.commas.text_then rfl)

/-! ## Changes of rows -/

theorem ofInsert_source (f : Filling) (d : Dialect) (p : Site) (s : RowSource) :
    InsertedRef.ofInsert d (f.source p s) = InsertedRef.ofInsert d s := by
  cases d <;> cases s <;> rfl

/-- Rows go into a table that has a name. -/
theorem namedTable_pattern (target : TableRef) (p : Site) :
    Pattern settings ok [] fun f =>
      .require (f.table p target matches .named _ _ _) "insert" "table" := by
  cases target with
  | named schema name rename => exact .empty
  | _ => exact .fail _

theorem insert_hasPattern {i : Insert}
    (hleaves : ∀ l ∈ (statement (.insert i)).leaves, ok l)
    (h : ∀ m ∈ (statement (.insert i)).children, m.HasPattern settings ok) :
    (statement (.insert i)).HasPattern settings ok := by
  intro p
  rcases i with ⟨replace, ignore, into, target, columns, source, conflict,
    returning⟩
  have htable := h (table target) (by simp [children, ofStatement]) (p.part 0)
  have hsource :=
    rowSource_fits (fun m hm => h m (by simp [children, ofStatement, hm]))
      (p.part 1)
    (s := source)
  have hcolumns : ∀ s ∈ columns, ok (.name s) := fun s hs =>
    hleaves _ (by simp [leaves, statementLeaves, names, hs])
  have hconflict :=
    onConflict_fits (InsertedRef.ofInsert settings.dialect source) ignore conflict
    (fun l hl => hleaves l (by simp [leaves, statementLeaves, hl]))
    (fun m hm => h m (by simp [children, ofStatement, hm])) (p.part 2)
  have hreturning := returning_fits returning
    (fun m hm => h m (by simp_all [children, ofStatement])) (p.part 3)
  have hnamed : Pattern settings ok [] _ := namedTable_pattern target (p.part 0)
  have haction (f : Filling) :
      (conflict.map (f.conflict (p.part 2))).bind (·.action) =
      (conflict.bind (·.action)).map (f.conflictAction (p.part 2)) := by
    cases conflict <;> rfl
  have hverb : IsPlain (if replace then "REPLACE" else "INSERT") := by
    cases replace <;> rfl
  simp only [Filling.statement, Statement.doc, Layout.insert, Filling.insert,
    ofInsert_source, haction]
  have hverb := ((hnamed.then_fixed (.text hverb)).then_fixed
    (ignoreWord_pattern ignore (conflict.bind (·.action)) (p.part 2))).then_fixed
    (.textIf into (s := " INTO") rfl)
  have hrows :=
    (((htable.laid.fixed_then (hverb.then_text (s := " ") rfl)).then_fixed
    (.namesInParens "insert" "columns" hcolumns)).append hsource.laid
      rfl).then_fixed
    (rowName_pattern (InsertedRef.ofInsert settings.dialect source)
      (conflict.bind (·.action)) (p.part 2))
  exact ((hrows.append hconflict.laid rfl).append hreturning.laid rfl).fits

theorem update_hasPattern {u : Update}
    (h : ∀ m ∈ (statement (.update u)).children, m.HasPattern settings ok) :
    (statement (.update u)).HasPattern settings ok := by
  intro p
  rcases u with ⟨ctes, fallback, target, joins, assignments, sources, condition,
    orderBy, limit, returning⟩
  have hctes :=
    with?_fits ctes (fun m hm => h m (by simp [children, ofStatement, hm]))
      (p.part 0)
  have htable := h (table target) (by simp [children, ofStatement]) (p.part 1)
  have hjoins :=
    joins_fit joins (fun j hj => h (join j) (by simp [children, ofStatement, hj]))
    (p.part 2)
  have hassignments := assignments_fit assignments .excluded
    (fun a ha => h (assignment a) (by simp [children, ofStatement, ha])) (p.part 3)
  have hsources := tables_fit sources
    (fun t ht => h (table t) (by simp [children, ofStatement, ht])) (p.part 4)
  have hcondition := expr?_fits condition
    (fun m hm => h m (by simp [children, ofStatement, hm])) (p.part 5)
  have horderBy := orderBy_fits orderBy
    (fun k hk => h (sortKey k) (by simp [children, ofStatement, hk])) (p.part 6)
  have hlimit :=
    expr?_fits limit (fun m hm => h m (by simp [children, ofStatement, hm]))
    (p.part 7)
  have hreturning := returning_fits returning
    (fun m hm => h m (by simp_all [children, ofStatement])) (p.part 8)
  have hfallback : Pattern settings ok [] fun _ =>
      Layout.updateFallback fallback := by
    rcases fallback with _ | _ | _
    · exact .empty
    · exact .text rfl
    · exact .text rfl
  have hone := (htable.lift (Patterns.cons_fixed · .nil)).laid
  have hnone : Fits (PatternOpt settings ok) (p.part 9) fun _ => none :=
    .const .none _
  simp only [Filling.statement, Statement.doc, Layout.update, Filling.update,
    Layout.map_expr, Filling.isEmpty_tables]
  have hlead :=
    ((hctes.laid.then_text (s := "UPDATE") rfl).then_fixed hfallback).then_text
    (s := " ") rfl
  have hhead :=
    (hlead.append (tables_laid hone hjoins.laid (by decide)) rfl).then_text
    (s := " SET ") rfl
  have hmiddle := ((hhead.append hassignments.laid rfl).append
    ((hsources.laid.commas.text_then (s := " FROM ") rfl).unless sources.isEmpty)
      rfl).append
    (hcondition.laid.clause (s := " WHERE ") rfl) rfl
  have hlimited := (hmiddle.append horderBy.laid rfl).append
    (limit_laid hlimit.laid hnone.laid (by decide)) rfl
  exact (hlimited.append hreturning.laid rfl).fits

theorem delete_hasPattern {d : Delete}
    (hleaves : ∀ l ∈ (statement (.delete d)).leaves, ok l)
    (h : ∀ m ∈ (statement (.delete d)).children, m.HasPattern settings ok) :
    (statement (.delete d)).HasPattern settings ok := by
  intro p
  rcases d with ⟨ctes, targets, sources, joins, others, condition, orderBy, limit,
    returning⟩
  have hctes :=
    with?_fits ctes (fun m hm => h m (by simp [children, ofStatement, hm]))
      (p.part 0)
  have hsources := tables_fit sources
    (fun t ht => h (table t) (by simp [children, ofStatement, ht])) (p.part 1)
  have hjoins :=
    joins_fit joins (fun j hj => h (join j) (by simp [children, ofStatement, hj]))
    (p.part 2)
  have hothers := tables_fit others
    (fun t ht => h (table t) (by simp [children, ofStatement, ht])) (p.part 3)
  have hcondition := expr?_fits condition
    (fun m hm => h m (by simp [children, ofStatement, hm])) (p.part 4)
  have horderBy := orderBy_fits orderBy
    (fun k hk => h (sortKey k) (by simp [children, ofStatement, hk])) (p.part 5)
  have hlimit :=
    expr?_fits limit (fun m hm => h m (by simp [children, ofStatement, hm]))
    (p.part 6)
  have hreturning := returning_fits returning
    (fun m hm => h m (by simp_all [children, ofStatement])) (p.part 7)
  have hnone : Fits (PatternOpt settings ok) (p.part 8) fun _ => none :=
    .const .none _
  have htargets : Pattern settings ok [] fun f =>
      if (targets.map f.name).isEmpty then .empty
      else .names "delete" "targets" (targets.map f.name) ++ .text " " := by
    have hnames : ∀ s ∈ targets, ok (.name s) := fun s hs =>
      hleaves _ (by simp [leaves, statementLeaves, names, hs])
    cases targets with
    | nil => exact .empty
    | cons t ts => exact .then_text (.names _ _ hnames) rfl
  simp only [Filling.statement, Statement.doc, Layout.delete, Filling.delete,
    Layout.map_expr, Filling.isEmpty_tables]
  have hhead :=
    (((((hctes.laid.fixed_then
      (.require (!sources.isEmpty) "delete" "from")).then_text
    (s := "DELETE ") rfl).then_fixed htargets).then_text (s := "FROM ") rfl).append
    (tables_laid hsources.laid hjoins.laid (by decide)) rfl)
  have hmiddle := (hhead.append
    ((hothers.laid.commas.text_then (s := " USING ") rfl).unless others.isEmpty)
      rfl).append
    (hcondition.laid.clause (s := " WHERE ") rfl) rfl
  have hlimited := (hmiddle.append horderBy.laid rfl).append
    (limit_laid hlimit.laid hnone.laid (by decide)) rfl
  exact (hlimited.append hreturning.laid rfl).fits

end SqlPrinter.Node
