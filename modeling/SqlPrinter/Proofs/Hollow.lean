/-
Clauses that are printed with nothing in them.  A statement that is printed has no
name without a character, no USING without a column and no ON CONFLICT without an
action, but for four places at which its layout does not ask: the table that rows
go to, the database whose tables are listed, the columns of USING and the action
after a conflict.
-/
import SqlPrinter.Proofs.Sight.Statement
import SqlPrinter.Render

namespace SqlPrinter

/-! ## What is printed -/

/-- The pieces that are printed for a statement. -/
def Statement.pieces (settings : Settings) (s : Statement) : List Piece :=
  ((s.doc settings).run settings.placeholders .start).pieces

/-- Something is done with a conflicting row: nothing, or an update with at least
one assignment. -/
def Layout.IsAction (settings : Settings) (inserted : InsertedRef)
    (d : Doc) : Prop :=
  d = .text " DO NOTHING" ∨
    ∃ a as rest, d = .text " DO UPDATE SET " ++
      assignments settings inserted (a :: as) ++ rest

/-- No clause of a statement is printed with nothing in it. -/
structure Statement.IsFilled (settings : Settings) (s : Statement) : Prop where
  /-- Every name has a character. -/
  names : .name "" ∉ s.pieces settings
  /-- Every USING has a column. -/
  columns : ∀ j, .join j ∈ Walk.printed.nodes (.statement s) →
    Layout.joinCondition j.kind (Layout.expr? settings j.condition) j.columns ≠
      .text " USING " ++ .parens .empty
  /-- Every ON CONFLICT has an action after its target. -/
  actions : ∀ i clause, s = .insert i → settings.dialect.isMysqlFamily = false →
    i.conflict = some clause →
      Layout.IsAction settings (.ofInsert settings.dialect i.source)
        (Layout.conflictAction settings (.ofInsert settings.dialect i.source)
          i.ignore clause.action)

/-- A node that is printed with nothing in one of its clauses. -/
def Node.IsHollow (settings : Settings) : Node → Prop
  | join j =>
      j.kind.takesCondition = true ∧ j.condition = none ∧ j.columns = some []
  | statement (.insert i) =>
      settings.dialect.isMysqlFamily = false ∧ i.ignore = false ∧
        ∃ clause, i.conflict = some clause ∧ clause.action = none
  | n => n.IsNameless

theorem Node.IsNameless.isHollow {n : Node} (settings : Settings)
    (h : n.IsNameless) : n.IsHollow settings := by
  cases n with
  | statement s =>
      obtain rfl : s = .list (.tables (some "")) := h
      exact rfl
  | select s => exact h
  | _ => exact h.elim

/-! ## Clauses -/

namespace Doc

theorem append_eq_append_iff {d d' e e' : Doc} :
    d ++ e = d' ++ e' ↔ d = d' ∧ e = e' :=
  Iff.of_eq (append.injEq d e d' e')

end Doc

namespace Layout

variable (settings : Settings)

/-- A join has an empty list of columns just if there is one in the statement. -/
theorem joinCondition_eq_using_iff (kind : JoinKind) (condition : Option Expr)
    (columns : Option (List String)) :
    joinCondition kind (expr? settings condition) columns =
        .text " USING " ++ .parens .empty ↔
      kind.takesCondition = true ∧ condition = none ∧ columns = some [] := by
  unfold joinCondition
  cases kind.takesCondition with
  | false => simp
  | true =>
      cases condition with
      | some e => simp [expr?, Doc.append_eq_append_iff]
      | none =>
          rcases columns with _ | _ | ⟨c, cs⟩
          · simp [expr?]
          · simp [expr?, Doc.names]
          · simp [expr?, Doc.names, Doc.parens, Doc.append_eq_append_iff]

/-- Only an action that is missing leaves nothing after a conflict, in a clause
that is printed. -/
theorem isAction_conflictAction_iff {inserted : InsertedRef} {ignore : Bool}
    {action : Option ConflictAction}
    (h : ¬ (conflictAction settings inserted ignore action).Shows .stop) :
    IsAction settings inserted (conflictAction settings inserted ignore action) ↔
      ¬ (ignore = false ∧ action = none) := by
  rcases action with _ | _ | ⟨list, condition⟩
  · cases ignore with
    | true => simp [conflictAction, IsAction, Doc.textIf]
    | false => simp [conflictAction, IsAction, Doc.textIf]
  · simp [conflictAction, IsAction]
  · have hlist : list ≠ [] := by
      rintro rfl
      simp [conflictAction, Node.shows_assignments] at h
    obtain ⟨a, as, rfl⟩ := List.exists_cons_of_ne_nil hlist
    refine iff_of_true (Or.inr ⟨a, as, _, rfl⟩) (by simp)

end Layout

/-! ## Statements -/

/-- A node that is printed within another one is no statement. -/
theorem Walk.eq_or_isPart_of_mem_printed {m n : Node} (hm : m ∈ printed.nodes n) :
    m = n ∨ m.isPart = true := by
  induction n using printed.induction with
  | step n ih =>
      rw [nodes_eq, List.mem_cons, List.mem_flatMap] at hm
      rcases hm with rfl | ⟨k, hk, hm⟩
      · exact Or.inl rfl
      · refine Or.inr ?_
        rcases ih k hk hm with rfl | hpart
        · exact Node.isPart_of_mem_parts (Node.mem_parts_of_mem_shown hk)
        · exact hpart

namespace Statement

variable {settings : Settings} {s : Statement} {text : String}

theorem run_of_render (h : s.render settings = .ok text) :
    ((s.doc settings).run settings.placeholders .start).failure = none ∧
      text = Piece.textOf settings (s.pieces settings) := by
  unfold render at h
  cases hrejection : s.rejection? settings with
  | some e => simp [hrejection] at h
  | none =>
      simp only [hrejection, Doc.print_eq_run, Run.answer] at h
      split at h
      · contradiction
      · next hrun => exact ⟨hrun, (Except.ok.inj h).symm⟩

/-- Only an action that is missing leaves nothing after a conflict, in an INSERT
that is printed. -/
theorem isAction_conflictAction_iff_of_insert {settings : Settings} {i : Insert}
    {clause : ConflictClause} (hmysql : settings.dialect.isMysqlFamily = false)
    (hclause : i.conflict = some clause)
    (h : ¬ ((Statement.insert i).doc settings).Shows .stop) :
    Layout.IsAction settings (.ofInsert settings.dialect i.source)
        (Layout.conflictAction settings (.ofInsert settings.dialect i.source)
            i.ignore clause.action) ↔
      ¬ (i.ignore = false ∧ clause.action = none) := by
  refine Layout.isAction_conflictAction_iff settings fun hstop => h ?_
  simp [doc, Layout.insert, Layout.onConflict, hmysql, hclause, hstop]

/-- A statement that is printed has nothing missing just if none of the nodes that
are printed is hollow. -/
theorem isFilled_iff_of_render (h : s.render settings = .ok text) :
    text = Piece.textOf settings (s.pieces settings) ∧
      (s.IsFilled settings ↔
        ∀ n ∈ Walk.printed.nodes (.statement s), ¬ n.IsHollow settings) := by
  obtain ⟨hrun, htext⟩ := run_of_render h
  have hstop : ¬ (s.doc settings).Shows .stop := Doc.not_shows_stop hrun
  have hnames : .name "" ∈ s.pieces settings ↔
      ∃ n ∈ Walk.printed.nodes (.statement s), n.IsNameless := by
    have hpieces := Doc.exists_name_mem_pieces (P := (· = "")) hrun
    simp only [exists_eq_right] at hpieces
    exact hpieces.trans (Node.shows_blank_doc settings (n := .statement s) hstop)
  have haction {i : Insert} {clause : ConflictClause} (hs : s = .insert i)
      (hmysql : settings.dialect.isMysqlFamily = false)
        (hclause : i.conflict = some clause) :=
    isAction_conflictAction_iff_of_insert hmysql hclause (hs ▸ hstop)
  refine ⟨htext, fun hfilled n hn hhollow => ?_, fun hnodes => ⟨?_, ?_, ?_⟩⟩
  · cases n with
    | join j =>
        exact hfilled.columns j hn
          ((Layout.joinCondition_eq_using_iff _ _ _ _).2 hhollow)
    | statement t =>
        obtain rfl : t = s := by
          rcases Walk.eq_or_isPart_of_mem_printed hn with h | h
          · exact Node.statement.inj h
          · contradiction
        cases t with
        | insert i =>
            obtain ⟨hmysql, hignore, clause, hclause, hnone⟩ := hhollow
            exact (haction rfl hmysql hclause).1
              (hfilled.actions i clause rfl hmysql hclause)
              ⟨hignore, hnone⟩
        | _ => exact hfilled.names (hnames.2 ⟨_, hn, hhollow⟩)
    | _ => exact hfilled.names (hnames.2 ⟨_, hn, hhollow⟩)
  · intro hmem
    obtain ⟨n, hn, hnameless⟩ := hnames.1 hmem
    exact hnodes n hn (hnameless.isHollow _)
  · intro j hj hcolumns
    exact hnodes _ hj ((Layout.joinCondition_eq_using_iff _ _ _ _).1 hcolumns)
  · rintro i clause rfl hmysql hclause
    refine (haction rfl hmysql hclause).2 fun ⟨hignore, hnone⟩ => ?_
    exact hnodes _ (Walk.self_mem_nodes _ _) ⟨hmysql, hignore, clause,
      hclause, hnone⟩

/-- `SELECT a INTO` with an empty name for the table that the rows go to. -/
def intoUnnamed : Statement :=
  .query
    { ctes := none,
      body := .select
        { distinct := false, distinctOn := [], options := [],
          items := [.expr (.column ⟨none, none, "a"⟩) none],
          into := some ⟨.atEnd, .table ""⟩, tables := [], joins := [],
          condition := none, groupBy := [], groupModifiers := [], having := none,
          windows := [], orderBy := [], limit := none, offset := none,
          locking := none },
      orderBy := [], limit := none, offset := none }

theorem render_intoUnnamed :
    intoUnnamed.render (.ofDialect .postgres) = .ok "SELECT \"a\" INTO \"\"" := by
  have hrender : intoUnnamed.render (.ofDialect .postgres) =
      .ok (Piece.textOf (Settings.ofDialect .postgres)
        [.text "SELECT ", .name "a", .text " INTO ", .name ""]) := rfl
  rw [hrender]
  decide +kernel

theorem isFilled_iff_of_render_intoUnnamed :
    let settings := Settings.ofDialect .postgres
    let text := "SELECT \"a\" INTO \"\""
    intoUnnamed.render settings = .ok text ∧
      text = Piece.textOf settings (intoUnnamed.pieces settings) ∧
      (intoUnnamed.IsFilled settings ↔
        ∀ n ∈ Walk.printed.nodes (.statement intoUnnamed), ¬ n.IsHollow settings) :=
  ⟨render_intoUnnamed, isFilled_iff_of_render render_intoUnnamed⟩

/-- So a statement is printed with an empty name, though every name is quoted. -/
theorem not_isFilled_of_render :
    ¬ ∀ (settings : Settings) (s : Statement) (text : String),
      settings.quote = .always → s.render settings = .ok text →
        s.IsFilled settings := by
  intro h
  have hfilled := h (.ofDialect .postgres) intoUnnamed _ rfl render_intoUnnamed
  have hpieces : intoUnnamed.pieces (.ofDialect .postgres) =
      [.text "SELECT ", .name "a", .text " INTO ", .name ""] := rfl
  exact hfilled.names (by simp [hpieces])

end Statement

end SqlPrinter
