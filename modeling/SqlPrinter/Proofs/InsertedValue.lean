/-
Where a statement refers to values that were to be inserted.  A statement falls into
lists of assignments and what stands around them.  Only the lists, and the
declaration of a name for the row, depend on which assignments take their value from
the row, so there is no such reference anywhere else.
-/
import SqlPrinter.Proofs.Node.Walk
import SqlPrinter.Proofs.Quoting
import SqlPrinter.Proofs.Upsert

namespace SqlPrinter

/-! ## Lists of assignments -/

/-- Where a list of assignments stands. -/
inductive SetPlace where
  /-- `UPDATE t SET ...` -/
  | update
  /-- `INSERT INTO t SET ...` -/
  | row
  /-- The update of a row that is there already. -/
  | conflict
deriving DecidableEq

/-- A list of assignments in its place. -/
structure SetList where
  place : SetPlace
  assignments : List Assignment

namespace Statement

/-- The list that an INSERT takes its row from. -/
def sourceLists : RowSource → List SetList
  | .assignments updates => [⟨.row, updates⟩]
  | .values _ | .query _ => []

/-- The list that updates a row that is there already. -/
def conflictLists : Option ConflictClause → List SetList
  | some { action := some (.doUpdate updates _), .. } => [⟨.conflict, updates⟩]
  | some _ | none => []

/-- The lists of assignments in a statement, in the order in which
they are printed. -/
def setLists : Statement → List SetList
  | insert i => sourceLists i.source ++ conflictLists i.conflict
  | update u => [⟨.update, u.assignments⟩]
  | query _ | delete _ | createTable _ | createDatabase _ | createView _
  | createIndex _
  | alterTable _ | drop _ | list _ | analyze _ | attach _ => []

/-- The kind of reference that is printed in a place. -/
def inserted (d : Dialect) : Statement → SetPlace → InsertedRef
  | insert i, .conflict => .ofInsert d i.source
  | _, _ => .excluded

/-- The text of a reference in a place. -/
def reference (settings : Settings) (s : Statement) (place : SetPlace) :
    String → String :=
  (s.inserted settings.dialect place).text settings

end Statement

/-! ## What stands around them -/

/-- A part of a statement. -/
inductive SetPart where
  | list (l : SetList)
  /-- The name for the row, if an assignment of the update refers to it. -/
  | declaration (updates : List Assignment)
  | other (d : Doc)

namespace SetPart

/-- The list that a part is. -/
def list? : SetPart → Option SetList
  | list l => some l
  | declaration _ | other _ => none

/-- The layout of a part, where `inserted` is the reference in each place. -/
def doc (settings : Settings) (inserted : SetPlace → InsertedRef) : SetPart → Doc
  | list l => Layout.assignments settings (inserted l.place) l.assignments
  | declaration updates =>
      Layout.rowName (inserted .conflict) (some (.doUpdate updates none))
  | other d => d

/-- A part is printed as a text.  A list has its assignments in turn, each with the
reference of its place if it takes its value from the row. -/
def Writes (settings : Settings) (s : Statement) (p : SetPart) (c : Counters)
    (text : String) (c' : Counters) : Prop :=
  match p with
  | list l => ∃ updates,
      InTurn (Assignment.Writes settings (s.reference settings l.place))
        l.assignments c updates c' ∧
      text = ", ".intercalate updates
  | declaration updates =>
      text =
        if s.inserted settings.dialect .conflict = .rowName ∧
            ∃ a ∈ updates, a.fromInserted = true then
          " AS " ++ Ident.quote settings InsertedRef.row
        else ""
  | other d => d.Writes settings c text c'

end SetPart

namespace Statement

variable (settings : Settings)

/-- The parts of the source of the rows. -/
def sourceParts : RowSource → List SetPart
  | .assignments updates => [.other (.text " SET "), .list ⟨.row, updates⟩]
  | source => [.other (Layout.rowSource settings source)]

/-- The parts that say what to do with a row that is there already. -/
def conflictParts (ignore : Bool) : Option ConflictClause → List SetPart
  | some { columns, constraint, action := some (.doUpdate updates condition) } =>
      .declaration updates ::
        if settings.dialect.isMysqlFamily then
          [.other (if condition.isSome then
              .fail (.unsupportedConstruct .duplicateKeyCondition settings.dialect)
            else .text " ON DUPLICATE KEY UPDATE "),
            .list ⟨.conflict, updates⟩]
        else
          [.other (.text " ON CONFLICT" ++
              Layout.conflictTarget { columns, constraint, action := none } ++
              .text " DO UPDATE SET "),
            .list ⟨.conflict, updates⟩,
            .other (.clause " WHERE " (condition.map (Layout.expr settings)))]
  | conflict => [.other (Layout.onConflict settings .excluded ignore conflict)]

/-- The layout of a statement, cut at its lists of assignments. -/
def setParts : Statement → List SetPart
  | insert i =>
      .other (.require (i.table matches .named _ _ _) "insert" "table" ++
        (.text i.verb ++ (Layout.ignoreWord settings i.ignore i.action ++
          (.textIf i.into " INTO" ++
            (.text " " ++ (Layout.tableRef settings i.table ++
              if i.columns.isEmpty then .empty
              else
                .text " " ++ .parens (.names "insert" "columns" i.columns))))))) ::
        (sourceParts settings i.source ++
          conflictParts settings i.ignore i.conflict ++
          [.other (Layout.returning (Layout.selectItems settings i.returning))])
  | update u =>
      [.other (Layout.withDoc settings u.ctes ++ .text "UPDATE" ++
          Layout.updateFallback u.fallback ++ .text " " ++
          Layout.tables [Layout.tableRef settings u.table]
            (Layout.joinDocs settings u.joins) ++
          .text " SET "),
        .list ⟨.update, u.assignments⟩,
        .other ((if u.tables.isEmpty then .empty
            else .text " FROM " ++ .commas (Layout.tableRefs settings u.tables)) ++
          .clause " WHERE " (u.condition.map (Layout.expr settings)) ++
          Layout.orderBy (Layout.orderItems settings u.orderBy) ++
          Layout.limit settings (u.limit.map (Layout.expr settings)) none ++
          Layout.returning (Layout.selectItems settings u.returning))]
  | s => [.other (s.doc settings)]

end Statement

namespace Statement

variable (settings : Settings)

theorem effect_sourceParts (source : RowSource) (inserted : SetPlace → InsertedRef)
    (hrow : inserted .row = .excluded) :
    (Doc.concat ((sourceParts settings source).map
      (SetPart.doc settings inserted))).effect settings =
      (Layout.rowSource settings source).effect settings := by
  cases source <;>
    simp [sourceParts, SetPart.doc, Layout.rowSource, Effect.concat, hrow]

/-- Nothing is printed after a fault. -/
theorem fail_append (error : Error) (e : Effect) :
    (Doc.fail error).effect settings ++ e = (Doc.fail error).effect settings :=
  rfl

theorem effect_conflictParts (ignore : Bool) (conflict : Option ConflictClause)
    (inserted : SetPlace → InsertedRef) :
    (Doc.concat ((conflictParts settings ignore conflict).map
      (SetPart.doc settings inserted))).effect settings =
      (Layout.rowName (inserted .conflict) (conflict.bind (·.action)) ++
        Layout.onConflict settings (inserted .conflict) ignore conflict :
          Doc).effect settings := by
  rcases conflict with _ | ⟨columns, constraint, _ | _ | ⟨updates, condition⟩⟩
  · simp [conflictParts, SetPart.doc, Effect.concat, Layout.rowName,
      Layout.onConflict, Layout.duplicateKey]
  · simp [conflictParts, SetPart.doc, Effect.concat, Layout.rowName,
      Layout.onConflict, Layout.duplicateKey, Layout.conflictAction]
  · simp [conflictParts, SetPart.doc, Effect.concat, Layout.rowName,
      Layout.onConflict, Layout.duplicateKey, Layout.conflictAction]
  · cases hmysql : settings.dialect.isMysqlFamily with
    | true =>
        cases condition with
        | none =>
            simp [conflictParts, SetPart.doc, Effect.concat, hmysql, Layout.rowName,
              Layout.onConflict, Layout.duplicateKey]
        | some e =>
            simp only [conflictParts, hmysql, List.map_cons, List.map_nil,
              SetPart.doc, Doc.concat, Doc.effect_append, Option.isSome_some,
              if_true, fail_append]
            simp [hmysql, Layout.rowName, Layout.onConflict, Layout.duplicateKey]
    | false =>
        simp [conflictParts, SetPart.doc, Effect.concat, hmysql, Layout.rowName,
          Layout.onConflict, Layout.conflictAction, Layout.conflictTarget,
          Effect.append_assoc]

/-- The parts of a statement are all of it. -/
theorem effect_setParts (s : Statement) :
    (Doc.concat ((s.setParts settings).map
      (SetPart.doc settings (s.inserted settings.dialect)))).effect settings =
      (s.doc settings).effect settings := by
  cases s with
  | insert i =>
      have hsource :=
        effect_sourceParts settings i.source
          ((insert i).inserted settings.dialect) rfl
      have hconflict :=
        effect_conflictParts settings i.ignore i.conflict
          ((insert i).inserted settings.dialect)
      rw [Doc.effect_concat] at hsource hconflict
      rw [doc, Layout.effect_insert, Doc.effect_concat, setParts]
      simp only [List.map_cons, List.map_append, List.map_nil, Doc.effects_cons,
        Doc.effects_append, Effect.concat, Effect.concat_append, hsource, hconflict]
      cases htable : i.table <;>
        simp only [SetPart.doc, Insert.bodyDoc, Insert.action, inserted,
          Doc.effect_append, Effect.append_assoc, Doc.effects, List.map_nil,
          Effect.concat, Effect.append_empty, htable]
  | update u =>
      simp [setParts, SetPart.doc, Effect.concat, doc, Layout.update, inserted,
        Effect.append_assoc]
  | _ => simp [setParts, SetPart.doc, Effect.concat]

end Statement

/-- The parts of a layout are printed in turn. -/
theorem Doc.exists_inTurn_of_writes {settings : Settings} {ds : List Doc}
    {c c' : Counters} {s : String} (h : (concat ds).Writes settings c s c') :
    ∃ ss, InTurn (Writes settings) ds c ss c' ∧ s = String.join ss := by
  induction ds generalizing c s with
  | nil =>
      obtain ⟨rfl, rfl⟩ := writes_empty_iff.1 h
      exact ⟨[], .nil c', rfl⟩
  | cons d ds ih =>
      obtain ⟨first, _, _, hd, hds, rfl⟩ := writes_append_iff.1 h
      obtain ⟨ss, hss, rfl⟩ := ih hds
      exact ⟨first :: ss, .cons hd hss, by simp⟩

theorem SetPart.writes_of_doc {settings : Settings} {s : Statement} {p : SetPart}
    {c c' : Counters} {text : String}
    (h : (p.doc settings (s.inserted settings.dialect)).Writes settings c text c') :
    p.Writes settings s c text c' := by
  cases p with
  | list l => exact Layout.writes_of_assignments h
  | declaration updates =>
      have hdeclaration : (Layout.rowName (s.inserted settings.dialect .conflict)
          (some (.doUpdate updates none))).Writes settings c text c' := h
      exact Layout.eq_of_writes_rowName hdeclaration
  | other d => exact h

/-- A statement is printed part by part. -/
theorem Statement.exists_inTurn_setParts {settings : Settings} {s : Statement}
    {text : String} (h : s.render settings = .ok text) :
    ∃ texts last,
      InTurn (SetPart.Writes settings s) (s.setParts settings) .start texts last ∧
        text = String.join texts := by
  obtain ⟨last, hdoc⟩ := writes_of_render h
  rw [Doc.Writes, ← effect_setParts] at hdoc
  obtain ⟨texts, htexts, rfl⟩ := Doc.exists_inTurn_of_writes hdoc
  exact ⟨texts, last, htexts.imp fun _ _ _ _ => SetPart.writes_of_doc, rfl⟩

/-! ## Other values -/

section Reflag

variable (flag : Assignment → Bool)

/-- The same assignment, which takes its value from the row if `flag` says so. -/
def Assignment.reflag (a : Assignment) : Assignment :=
  { a with fromInserted := flag a }

def RowSource.reflag : RowSource → RowSource
  | assignments updates => assignments (updates.map (·.reflag flag))
  | source => source

def ConflictAction.reflag : ConflictAction → ConflictAction
  | doUpdate updates condition => doUpdate (updates.map (·.reflag flag)) condition
  | doNothing => doNothing

def ConflictClause.reflag (clause : ConflictClause) : ConflictClause :=
  { clause with action := clause.action.map (·.reflag flag) }

/-- The same statement with other assignments that take their values
from the row. -/
def Statement.reflag : Statement → Statement
  | insert i =>
      insert { i with
        source := i.source.reflag flag, conflict := i.conflict.map (·.reflag flag) }
  | update u => update { u with assignments := u.assignments.map (·.reflag flag) }
  | s => s

/-- Other assignments of a list and of the declaration for it, and no other part. -/
def SetPart.reflag : SetPart → SetPart
  | list l => list { l with assignments := l.assignments.map (·.reflag flag) }
  | declaration updates => declaration (updates.map (·.reflag flag))
  | other d => other d

namespace Statement

variable (settings : Settings)

theorem sourceParts_reflag (source : RowSource) :
    sourceParts settings (source.reflag flag) =
      (sourceParts settings source).map (·.reflag flag) := by
  cases source <;> rfl

theorem conflictParts_reflag (ignore : Bool) (conflict : Option ConflictClause) :
    conflictParts settings ignore (conflict.map (·.reflag flag)) =
      (conflictParts settings ignore conflict).map (·.reflag flag) := by
  rcases conflict with _ | ⟨columns, constraint, _ | _ | ⟨updates, condition⟩⟩
  · rfl
  · rfl
  · rfl
  · simp only [Option.map_some, ConflictClause.reflag, ConflictAction.reflag,
      conflictParts, List.map_cons, SetPart.reflag]
    congr 1
    split <;> rfl

theorem ignoreWord_reflag (ignore : Bool) (action : Option ConflictAction) :
    Layout.ignoreWord settings ignore (action.map (·.reflag flag)) =
      Layout.ignoreWord settings ignore action := by
  rcases action with _ | _ | ⟨updates, condition⟩
  · rfl
  · rfl
  · cases ignore <;> rfl

theorem action_reflag (conflict : Option ConflictClause) :
    (conflict.map (·.reflag flag)).bind (·.action) =
      (conflict.bind (·.action)).map (·.reflag flag) := by
  cases conflict <;> rfl

/-- What stands around the lists does not depend on where the values
are taken from. -/
theorem setParts_reflag (s : Statement) :
    (s.reflag flag).setParts settings =
      (s.setParts settings).map (·.reflag flag) := by
  cases s with
  | insert i =>
      simp only [reflag, setParts, List.map_cons, List.map_append, List.map_nil,
        sourceParts_reflag, conflictParts_reflag, Insert.action, action_reflag,
        ignoreWord_reflag, SetPart.reflag]
      rfl
  | update u => rfl
  | _ => rfl

end Statement

end Reflag

/-! ## No other assignments -/

namespace Node

variable {a : Assignment}

theorem assignment_notMem_over? (o : Option Over) : assignment a ∉ over? o := by
  rcases o with _ | _ | _ <;> simp [over?]

theorem assignment_notMem_frame? (f : Option WindowFrame) :
    assignment a ∉ frame? f := by
  rcases f with _ | ⟨_, _, _⟩ <;> simp [frame?]

theorem assignment_notMem_with? (w : Option With) : assignment a ∉ with? w := by
  rcases w with _ | ⟨_, _⟩ <;> simp [with?]

theorem assignment_notMem_into? (i : Option SelectInto) :
    assignment a ∉ into? i := by
  rcases i with _ | ⟨_, _ | _ | _ | _⟩ <;> simp [into?, exprs]

/-- Only a statement has assignments. -/
theorem assignment_notMem_children {n : Node} (hn : n.isPart = true) :
    assignment a ∉ n.children := by
  cases n with
  | expr e => cases e <;> simp [ofExpr, exprs, expr?, branches]
  | window w => simp [exprs, assignment_notMem_frame?]
  | select s => simp [ofSelect, exprs, expr?, assignment_notMem_into?]
  | bound b => cases b <;> simp
  | body b => cases b <;> simp
  | item i => cases i <;> simp
  | modifier m => cases m <;> simp [exprs]
  | table t => cases t <;> simp [exprs]
  | constraint c => cases c <;> simp
  | statement s => contradiction
  | _ => simp [exprs, expr?, assignment_notMem_over?, assignment_notMem_with?]

/-- An assignment is not to be found below a node that is no statement. -/
theorem eq_of_within_isPart {n : Node} (h : (assignment a).Within n)
    (hn : n.isPart = true) : n = assignment a := by
  induction h with
  | here => rfl
  | step hk hm ih =>
      rw [ih (List.all_eq_true.1 (all_isPart_children _) _ hk)] at hk
      exact absurd hk (assignment_notMem_children hn)

end Node

namespace Statement

variable {a : Assignment}

theorem mem_sourceLists {source : RowSource}
    (h : .assignment a ∈ Node.ofSource source) :
    ∃ l ∈ sourceLists source, a ∈ l.assignments := by
  cases source with
  | assignments updates => simpa [Node.ofSource, sourceLists] using h
  | _ => simp [Node.ofSource, Node.exprs] at h

theorem mem_conflictLists {conflict : Option ConflictClause}
    (h : .assignment a ∈ Node.conflict? conflict) :
    ∃ l ∈ conflictLists conflict, a ∈ l.assignments := by
  rcases conflict with _ | ⟨_, _, _ | _ | _⟩
  case some.some.doUpdate =>
      simpa [Node.conflict?, Node.expr?, Node.exprs, conflictLists] using h
  all_goals simp [Node.conflict?] at h

/-- An assignment stands in a list of assignments of a statement, and
nowhere else. -/
theorem exists_mem_setLists {s : Statement}
    (h : (Node.assignment a).Within (.statement s)) :
    ∃ l ∈ s.setLists, a ∈ l.assignments := by
  have hchild : .assignment a ∈ Node.ofStatement s := by
    cases h with
    | step hk hm =>
        have hpart := List.all_eq_true.1 (Node.all_isPart_children _) _ hk
        rwa [Node.eq_of_within_isPart hm hpart] at hk
  cases s with
  | insert i =>
      simp only [Node.ofStatement, List.mem_cons, List.mem_append, List.mem_map,
        reduceCtorEq, and_false, exists_false, or_false, false_or] at hchild
      simp only [setLists, List.mem_append, or_and_right, exists_or]
      exact hchild.imp mem_sourceLists mem_conflictLists
  | update u =>
      simpa [Node.ofStatement, Node.assignment_notMem_with?, Node.expr?, Node.exprs,
        setLists] using hchild
  | delete d =>
      simp [Node.ofStatement, Node.assignment_notMem_with?, Node.expr?, Node.exprs]
        at hchild
  | createTable t =>
      obtain ⟨e, -, he⟩ : ∃ e ∈ t.elements, Node.ofElement e = .assignment a := by
        simpa [Node.ofStatement] using hchild
      cases e <;> contradiction
  | alterTable t =>
      obtain ⟨action, -, haction⟩ := List.mem_flatMap.1 hchild
      cases action <;> simp [Node.ofAction] at haction
  | _ => simp [Node.ofStatement] at hchild

/-! ## References -/

end Statement

/-- The text of an assignment that refers to the row in a certain way. -/
def Assignment.IsPrintedAs (settings : Settings) (inserted : InsertedRef)
    (a : Assignment) (text : String) : Prop :=
  text = Ident.quotePath settings ((Text.nonEmpty a.table).toList ++ [a.column]) ++
    " = " ++ inserted.text settings a.column

namespace InsertedRef

theorem quote_row_ne (settings : Settings) :
    Ident.quote settings row ≠ "EXCLUDED" := by
  have hspecial : Ident.isSpecial row = false := by decide +kernel
  rcases Ident.quote_cases settings hspecial with ⟨-, hquote⟩ | ⟨-, hquote⟩
  · rw [hquote]
    unfold Ident.folded
    split <;> decide +kernel
  · rw [hquote]
    exact (Ident.ne_quoted (List.all_eq_true.1 rfl) _ _).symm

/-- The references of the MySQL family are not taken for those of the
other dialects. -/
theorem text_ne_excluded {inserted : InsertedRef} (h : inserted ≠ .excluded)
    (settings : Settings) (column : String) :
    inserted.text settings column ≠ excluded.text settings column := by
  cases inserted with
  | excluded => exact absurd rfl h
  | rowName =>
      intro heq
      have hlead : Ident.quote settings row ++ "." = "EXCLUDED" ++ "." :=
        (String.append_left_inj (Ident.quote settings column)).1 heq
      exact quote_row_ne settings ((String.append_left_inj ".").1 hlead)
  | valuesCall =>
      intro heq
      have hfirst := congrArg (fun s => s.toList.head?) heq
      simp [text] at hfirst

theorem ofInsert_ne_excluded {d : Dialect} (h : d.isMysqlFamily = true)
    (source : RowSource) : ofInsert d source ≠ .excluded := by
  cases d <;> cases source <;> simp_all [ofInsert, Dialect.isMysqlFamily]

end InsertedRef

namespace Statement

/-- What is to be expected of references to the values that were to be inserted:
such a reference is printed in an update of rows that are there already, and in the
MySQL family it does not go through EXCLUDED. -/
def RefersProperly (settings : Settings) (s : Statement) : Prop :=
  ∀ l ∈ s.setLists, ∀ a ∈ l.assignments, a.fromInserted = true → ∀ c text c',
    a.Writes settings (s.reference settings l.place) c text c' →
      ((∃ inserted, a.IsPrintedAs settings inserted text) → l.place = .conflict) ∧
      (settings.dialect.isMysqlFamily = true →
        ¬a.IsPrintedAs settings .excluded text)

theorem inserted_of_ne {place : SetPlace} (h : place ≠ .conflict) (d : Dialect)
    (s : Statement) : s.inserted d place = .excluded := by
  cases s <;> cases place <;> first | rfl | contradiction

theorem inserted_ne_excluded {d : Dialect} (hd : d.isMysqlFamily = true)
    {s : Statement} {l : SetList} (hl : l ∈ s.setLists)
    (hplace : l.place = .conflict) : s.inserted d l.place ≠ .excluded := by
  rw [hplace]
  cases s with
  | insert i => exact InsertedRef.ofInsert_ne_excluded hd i.source
  | update u =>
      obtain rfl := List.mem_singleton.1 hl
      contradiction
  | _ => contradiction

/-- References are as they should be if there are none outside of
conflict clauses. -/
theorem refersProperly_iff (settings : Settings) (s : Statement) :
    s.RefersProperly settings ↔
      ∀ l ∈ s.setLists, l.place ≠ .conflict → ∀ a ∈ l.assignments,
        a.fromInserted = false := by
  constructor
  · intro h l hl hplace a ha
    by_contra hfrom
    rw [Bool.not_eq_false] at hfrom
    have hwrites : a.Writes settings (s.reference settings l.place) .start
        (Ident.quotePath settings ((Text.nonEmpty a.table).toList ++ [a.column]) ++
          " = " ++ InsertedRef.excluded.text settings a.column) .start := by
      refine ⟨_, rfl, ?_⟩
      rw [if_pos hfrom, reference, inserted_of_ne hplace]
      exact ⟨rfl, rfl⟩
    exact hplace ((h l hl a ha hfrom _ _ _ hwrites).1 ⟨.excluded, rfl⟩)
  · rintro h l hl a ha hfrom c _ c' ⟨value, rfl, hvalue⟩
    have hplace : l.place = .conflict := by
      by_contra hplace
      rw [h l hl hplace a ha] at hfrom
      contradiction
    rw [if_pos hfrom] at hvalue
    refine ⟨fun _ => hplace, fun hmysql hprinted => ?_⟩
    have hsame := (String.append_right_inj _).1 hprinted
    rw [hvalue.1] at hsame
    exact InsertedRef.text_ne_excluded (inserted_ne_excluded hmysql hl hplace)
      _ _ hsame

/-- The lists of a statement are parts of it. -/
theorem filterMap_setParts (settings : Settings) (s : Statement) :
    (s.setParts settings).filterMap SetPart.list? = s.setLists := by
  cases s with
  | insert i =>
      have hsource : (sourceParts settings i.source).filterMap SetPart.list? =
          sourceLists i.source := by
        cases i.source <;> rfl
      have hconflict :
          (conflictParts settings i.ignore i.conflict).filterMap SetPart.list? =
          conflictLists i.conflict := by
        rcases i.conflict with _ | ⟨columns, constraint,
          _ | _ | ⟨updates, condition⟩⟩
        · rfl
        · rfl
        · rfl
        · rw [conflictParts, List.filterMap_cons_none rfl]
          split <;> rfl
      rw [setParts, List.filterMap_cons_none rfl, List.filterMap_append,
        List.filterMap_append, hsource, hconflict]
      exact List.append_nil _
  | _ => rfl

/-- A statement is printed part by part, its lists of assignments among them, and
these have all its assignments.  What stands around the lists does not depend on
which assignments take their value from the row.  References to the row are where
they should be and as they should be exactly if no assignment of an UPDATE or of the
row of an INSERT takes its value from there. -/
theorem render_refersProperly_iff (settings : Settings) {s : Statement}
    {text : String} (h : s.render settings = .ok text) :
    (∃ texts last,
      InTurn (SetPart.Writes settings s) (s.setParts settings) .start texts last ∧
        text = String.join texts) ∧
    (s.setParts settings).filterMap SetPart.list? = s.setLists ∧
    (∀ a, (Node.assignment a).Within (.statement s) →
      ∃ l ∈ s.setLists, a ∈ l.assignments) ∧
    (∀ flag, (s.reflag flag).setParts settings =
      (s.setParts settings).map (·.reflag flag)) ∧
    (s.RefersProperly settings ↔
      ∀ l ∈ s.setLists, l.place ≠ .conflict → ∀ a ∈ l.assignments,
        a.fromInserted = false) :=
  ⟨exists_inTurn_setParts h, filterMap_setParts _ s, fun _ => exists_mem_setLists,
    fun flag => setParts_reflag flag _ s, refersProperly_iff settings s⟩

/-- An update of rows that are there already, with a reference to the row. -/
theorem render_refersProperly_iff_updating :
    let s := Statement.insert (Insert.updating [.fromRow "a"] none)
    let text := "INSERT INTO `t` (`a`) VALUES (1) AS `new` " ++
      "ON DUPLICATE KEY UPDATE `a` = `new`.`a`"
    s.render (.ofDialect .mysql) = .ok text ∧
      s.RefersProperly (.ofDialect .mysql) := by
  intro s text
  have hrender : s.render (.ofDialect .mysql) = .ok text := by
    decide +kernel
  obtain ⟨-, -, -, -, hproper⟩ := render_refersProperly_iff _ hrender
  refine ⟨hrender, hproper.2 ?_⟩
  intro l hl hplace
  obtain rfl := List.mem_singleton.1 hl
  contradiction

/-- `UPDATE t SET a`, with the value that was to be inserted. -/
def updateFromRow : Statement :=
  .update
    { ctes := none
      fallback := none
      table := .named none "t" none
      joins := []
      assignments := [.fromRow "a"]
      tables := []
      condition := none
      orderBy := []
      limit := none
      returning := [] }

/-- In MySQL too an UPDATE refers to a row of which it knows nothing. -/
theorem not_refersProperly_updateFromRow :
    updateFromRow.render (.ofDialect .mysql) =
        .ok "UPDATE `t` SET `a` = EXCLUDED.`a`" ∧
      ¬updateFromRow.RefersProperly (.ofDialect .mysql) := by
  refine ⟨by decide +kernel, fun hproper => ?_⟩
  have hflag := (refersProperly_iff _ _).1 hproper ⟨.update, [.fromRow "a"]⟩
    List.mem_cons_self nofun (.fromRow "a") List.mem_cons_self
  contradiction

end Statement

end SqlPrinter
