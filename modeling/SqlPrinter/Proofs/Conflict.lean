/-
What an INSERT says about rows that are there already.  Its text falls into
sections: the verb, a word after it, what any INSERT has, a name for the row, the
clause about conflicts and what is returned.  Whatever the dialect, what was asked
for is found in one of the two places that are meant for it.
-/
import SqlPrinter.Proofs.Writes

namespace SqlPrinter

/-! ## Assignments -/

/-- The text of a reference to the value that was to be inserted in a column. -/
def InsertedRef.text (settings : Settings) : InsertedRef → String → String
  | .excluded, column => "EXCLUDED." ++ Ident.quote settings column
  | .rowName, column =>
      Ident.quote settings row ++ "." ++ Ident.quote settings column
  | .valuesCall, column => "VALUES(" ++ Ident.quote settings column ++ ")"

/-- The column, an equals sign, and the value of an assignment: a reference
to what was to be inserted in that same column, if the assignment takes its
value from there. -/
def Assignment.Writes (settings : Settings) (reference : String → String)
    (a : Assignment) (c : Counters) (s : String) (c' : Counters) : Prop :=
  ∃ value,
    s = Ident.quotePath settings ((Text.nonEmpty a.table).toList ++ [a.column]) ++
      " = " ++ value ∧
    if a.fromInserted then value = reference a.column ∧ c' = c
    else (Layout.expr settings a.value).Writes settings c value c'

/-- A condition after WHERE, or nothing. -/
def Expr.WritesWhere (settings : Settings) (c : Counters) (s : String)
    (c' : Counters) : Option Expr → Prop
  | none => s = "" ∧ c' = c
  | some e => ∃ predicate,
      (Layout.expr settings e).Writes settings c predicate c' ∧
        s = " WHERE " ++ predicate

/-- What makes a row conflict: a constraint, or else columns. -/
def ConflictClause.target (settings : Settings) (clause : ConflictClause) :
    String :=
  match Text.nonEmpty clause.constraint with
  | some name => " ON CONSTRAINT " ++ Ident.quote settings name
  | none =>
      if clause.columns.isEmpty then ""
      else " (" ++ ", ".intercalate (clause.columns.map (Ident.quote settings)) ++
        ")"

namespace Layout

variable {settings : Settings} {inserted : InsertedRef} {c c' : Counters}
  {s : String}

/-- The reference to an inserted column is written in one way and moves no
counter. -/
theorem eq_of_writes_inserted {column : String}
    (h : (inserted.doc column).Writes settings c s c') :
    s = inserted.text settings column ∧ c' = c := by
  cases inserted with
  | excluded =>
      obtain ⟨_, hname, rfl⟩ := Doc.writes_text_append_iff.1 h
      obtain ⟨rfl, rfl⟩ := Doc.writes_name_iff.1 hname
      exact ⟨rfl, rfl⟩
  | rowName => exact Doc.eq_of_writes_path h
  | valuesCall =>
      obtain ⟨_, hparens, rfl⟩ := Doc.writes_text_append_iff.1 h
      obtain ⟨_, hname, rfl⟩ := Doc.writes_parens_iff.1 hparens
      obtain ⟨rfl, rfl⟩ := Doc.writes_name_iff.1 hname
      refine ⟨?_, rfl⟩
      rw [← String.append_assoc, ← String.append_assoc]
      rfl

theorem writes_of_assignment {a : Assignment}
    (h : (assignment settings inserted a).Writes settings c s c') :
    a.Writes settings (inserted.text settings) c s c' := by
  unfold assignment at h
  obtain ⟨_, _, value, hlead, hvalue, rfl⟩ := Doc.writes_append_iff.1 h
  obtain ⟨_, _, _, htarget, hequals, rfl⟩ := Doc.writes_append_iff.1 hlead
  obtain ⟨rfl, rfl⟩ := Doc.writes_text_iff.1 hequals
  obtain ⟨rfl, rfl⟩ :=
    Doc.eq_of_writes_path (Doc.writes_of_requireText_append htarget)
  refine ⟨value, rfl, ?_⟩
  split at hvalue
  · next hfrom =>
      rw [if_pos hfrom]
      exact eq_of_writes_inserted hvalue
  · next hfrom =>
      rw [if_neg hfrom]
      exact hvalue

/-- Assignments are written one after another, with commas between them. -/
theorem writes_of_assignments {list : List Assignment}
    (h : (assignments settings inserted list).Writes settings c s c') :
    ∃ updates,
      InTurn (Assignment.Writes settings (inserted.text settings)) list c
          updates c' ∧
        s = ", ".intercalate updates := by
  obtain ⟨_, _, _, hrequire, hlist, rfl⟩ := Doc.writes_append_iff.1 h
  obtain ⟨-, rfl, rfl⟩ := Doc.writes_require_iff.1 hrequire
  obtain ⟨updates, hupdates, rfl⟩ := Doc.exists_inTurn_of_writes_sepBy hlist
  exact ⟨updates, hupdates.imp fun _ _ _ _ => writes_of_assignment,
    String.empty_append⟩

theorem eq_of_writes_conflictTarget {clause : ConflictClause}
    (h : (conflictTarget clause).Writes settings c s c') :
    s = clause.target settings ∧ c' = c := by
  unfold conflictTarget at h
  unfold ConflictClause.target
  cases hconstraint : Text.nonEmpty clause.constraint with
  | some name =>
      rw [hconstraint] at h
      obtain ⟨_, hname, rfl⟩ := Doc.writes_text_append_iff.1 h
      obtain ⟨rfl, rfl⟩ := Doc.writes_name_iff.1 hname
      exact ⟨rfl, rfl⟩
  | none =>
      rw [hconstraint] at h
      by_cases hcolumns : clause.columns.isEmpty = true
      · simp only [hcolumns] at h ⊢
        exact Doc.writes_empty_iff.1 h
      · simp only [hcolumns] at h ⊢
        obtain ⟨_, hparens, rfl⟩ := Doc.writes_text_append_iff.1 h
        obtain ⟨_, hnames, rfl⟩ := Doc.writes_parens_iff.1 hparens
        obtain ⟨rfl, rfl⟩ := Doc.eq_of_writes_names hnames
        refine ⟨?_, rfl⟩
        rw [← String.append_assoc, ← String.append_assoc]
        rfl

end Layout

/-! ## Sections -/

namespace Insert

/-- What is done with a row that is there already. -/
def action (i : Insert) : Option ConflictAction :=
  i.conflict.bind (·.action)

/-- The first word. -/
def verb (i : Insert) : String :=
  if i.replace then "REPLACE" else "INSERT"

/-- The text of a reference to what was to be inserted. -/
def reference (settings : Settings) (i : Insert) : String → String :=
  (InsertedRef.ofInsert settings.dialect i.source).text settings

/-- What makes a row conflict, where there is a clause to say so. -/
def target (settings : Settings) (i : Insert) : String :=
  match i.conflict with
  | none => ""
  | some clause => clause.target settings

/-- The same rows for the same table, with nothing about conflicts and nothing to
return. -/
def bare (i : Insert) : Insert :=
  { i with ignore := false, conflict := none, returning := [] }

/-- The sections of a text after the verb, and the counters before and after the
clause about conflicts. -/
structure Sections where
  word : String
  body : String
  declaration : String
  clause : String
  returning : String
  before : Counters
  after : Counters

/-- The text of an INSERT is its verb with some sections.  The body is all that
follows the verb where there is nothing about conflicts and nothing to return. -/
structure Sections.Make (p : Sections) (settings : Settings) (i : Insert)
    (text : String) : Prop where
  text_eq :
    text = i.verb ++ p.word ++ p.body ++ p.declaration ++ p.clause ++ p.returning
  word :
    (Layout.ignoreWord settings i.ignore i.action).Writes settings .start
      p.word .start
  bare :
    (Layout.insert settings i.bare).Writes settings .start
      (i.verb ++ p.body) p.before
  declaration :
    (Layout.rowName (.ofInsert settings.dialect i.source) i.action).Writes settings
      p.before
      p.declaration p.before
  clause :
    (Layout.onConflict settings (.ofInsert settings.dialect i.source) i.ignore
      i.conflict).Writes settings p.before p.clause p.after
  returning : ∃ last,
    (Layout.returning (Layout.selectItems settings i.returning)).Writes
      settings p.after
      p.returning last

/-- What follows the word after the verb, up to the rows. -/
def bodyDoc (settings : Settings) (i : Insert) : Doc :=
  .textIf i.into " INTO" ++ .text " " ++ Layout.tableRef settings i.table ++
    (if i.columns.isEmpty then .empty
      else .text " " ++ .parens (.names "insert" "columns" i.columns)) ++
    Layout.rowSource settings i.source

end Insert

namespace Layout

variable {settings : Settings}

/-- An INSERT in its sections. -/
theorem effect_insert (i : Insert) :
    (insert settings i).effect settings =
      (.require (i.table matches .named _ _ _) "insert" "table" ++ (.text i.verb ++
        (ignoreWord settings i.ignore i.action ++ (i.bodyDoc settings ++
          (rowName (.ofInsert settings.dialect i.source) i.action ++
            (onConflict settings (.ofInsert settings.dialect i.source) i.ignore
              i.conflict ++
              returning (selectItems settings i.returning)))))) : Doc).effect
        settings := by
  rcases i with ⟨replace, ignore, into, table, columns, source, conflict, items⟩
  cases table <;>
    simp only [insert, Insert.bodyDoc, Insert.verb, Insert.action,
      Doc.effect_append, Effect.append_assoc]

theorem effect_insert_bare (i : Insert) :
    (insert settings i.bare).effect settings =
      (.require (i.table matches .named _ _ _) "insert" "table" ++ (.text i.verb ++
        i.bodyDoc settings) : Doc).effect settings := by
  have hword : (ignoreWord settings i.bare.ignore i.bare.action).effect settings =
      .text "" := by
    change (ignoreWord settings false none).effect settings = .text ""
    unfold ignoreWord
    split
    · simp [Doc.textIf]
    · split <;> simp [Doc.textIf]
  have hname :
      (rowName (.ofInsert settings.dialect i.bare.source) i.bare.action).effect
      settings = .text "" :=
    Doc.effect_empty settings
  have hclause : (onConflict settings (.ofInsert settings.dialect i.bare.source)
      i.bare.ignore i.bare.conflict).effect settings = .text "" := by
    change (onConflict settings _ false none).effect settings = .text ""
    unfold onConflict
    split <;> simp [duplicateKey, Doc.textIf]
  have hreturning : (returning (selectItems settings i.bare.returning)).effect
      settings = .text "" :=
    Doc.effect_empty settings
  rw [effect_insert]
  simp only [Doc.effect_append, hword, hname, hclause, hreturning,
    Effect.append_empty, Effect.empty_append]
  rfl

end Layout

/-- What an INSERT is printed as falls into its sections. -/
theorem Insert.exists_sections {settings : Settings} {i : Insert} {text : String}
    (h : (Statement.insert i).render settings = .ok text) :
    ∃ p : Sections, p.Make settings i text := by
  obtain ⟨last, h⟩ := Statement.writes_of_render h
  rw [Statement.doc, Doc.Writes, Layout.effect_insert] at h
  obtain ⟨_, _, _, hrequire, hfromVerb, rfl⟩ := Doc.writes_append_iff.1 h
  obtain ⟨hnamed, rfl, rfl⟩ := Doc.writes_require_iff.1 hrequire
  obtain ⟨_, hfromWord, rfl⟩ := Doc.writes_text_append_iff.1 hfromVerb
  obtain ⟨word, _, _, hword, hfromBody, rfl⟩ := Doc.writes_append_iff.1 hfromWord
  obtain ⟨body, _, _, hbody, hfromName, rfl⟩ := Doc.writes_append_iff.1 hfromBody
  obtain ⟨declaration, before, _, hdeclaration, hfromClause, rfl⟩ :=
    Doc.writes_append_iff.1 hfromName
  obtain ⟨clause, after, returning, hclause, hreturning, rfl⟩ :=
    Doc.writes_append_iff.1 hfromClause
  obtain rfl := hword.counters_eq fun _ => by simp
  obtain rfl := hdeclaration.counters_eq fun _ => by simp
  have hbare :
      (Layout.insert settings i.bare).Writes settings .start (i.verb ++ body)
      before := by
    rw [Doc.Writes, Layout.effect_insert_bare]
    exact Doc.writes_append_iff.2 ⟨"", .start, i.verb ++ body,
      Doc.writes_require_iff.2 ⟨hnamed, rfl, rfl⟩,
      Doc.writes_text_append_iff.2 ⟨body, hbody, rfl⟩, String.empty_append.symm⟩
  exact ⟨⟨word, body, declaration, clause, returning, before, after⟩,
    by simp [String.append_assoc], hword, hbare, hdeclaration, hclause, last,
    hreturning⟩

/-! ## Dialects -/

theorem Dialect.not_sqlite_of_isMysqlFamily {d : Dialect}
    (h : d.isMysqlFamily = true) : d ≠ .sqlite ∧ d.isPostgresFamily = false := by
  cases d <;> simp_all [isMysqlFamily, isPostgresFamily]

theorem Dialect.not_mysql_of_isPostgresFamily {d : Dialect}
    (h : d.isPostgresFamily = true) : d.isMysqlFamily = false := by
  cases d <;> simp_all [isMysqlFamily, isPostgresFamily]

namespace Layout

variable {settings : Settings} {ignore : Bool} {action : Option ConflictAction}

theorem ignoreWord_of_sqlite (h : settings.dialect = .sqlite) :
    ignoreWord settings ignore action = .textIf ignore " OR IGNORE" := by
  simp [ignoreWord, h]

/-- In most dialects one word stands for both ways to let a conflict pass. -/
theorem ignoreWord_of_other (hsqlite : settings.dialect ≠ .sqlite)
    (hpostgres : settings.dialect.isPostgresFamily = false)
    (h : ignore = true ∨ settings.dialect.isMysqlFamily = true ∧
      action = some .doNothing) :
    ignoreWord settings ignore action = .text " IGNORE" := by
  rcases h with rfl | ⟨hmysql, rfl⟩
  · rcases action with _ | _ | _ <;>
      simp [ignoreWord, hsqlite, hpostgres, Doc.textIf]
  · simp [ignoreWord, hsqlite, hpostgres, hmysql, Doc.textIf]

/-- The Postgres family does not both ignore a conflict and update the row. -/
theorem ignoreWord_of_postgres (h : settings.dialect.isPostgresFamily = true)
    {list : List Assignment} {condition : Option Expr} :
    ignoreWord settings true (some (.doUpdate list condition)) =
      .fail (.unsupportedConstruct .ignoreWithUpdate settings.dialect) := by
  have hsqlite : settings.dialect ≠ .sqlite := by
    intro hsqlite
    rw [hsqlite] at h
    contradiction
  simp [ignoreWord, hsqlite, h]

variable {inserted : InsertedRef} {conflict : Option ConflictClause}

/-- MySQL spells the clause ON DUPLICATE KEY and asks for its action only. -/
theorem onConflict_of_mysql (h : settings.dialect.isMysqlFamily = true) :
    onConflict settings inserted ignore conflict =
      duplicateKey settings inserted (conflict.bind (·.action)) := by
  simp [onConflict, h]

theorem onConflict_of_other (h : settings.dialect.isMysqlFamily = false)
    (clause : ConflictClause) : onConflict settings inserted ignore (some clause) =
      .text " ON CONFLICT" ++ conflictTarget clause ++
        conflictAction settings inserted ignore clause.action := by
  simp [onConflict, h]

/-- PostgreSQL has no IGNORE, so DO NOTHING stands for it. -/
theorem onConflict_none_of_postgres (h : settings.dialect.isPostgresFamily = true) :
    onConflict settings inserted true none = .text " ON CONFLICT DO NOTHING" := by
  simp [onConflict, Dialect.not_mysql_of_isPostgresFamily h, h, Doc.textIf]

end Layout

/-! ## Intents -/

namespace Insert

/-- What an INSERT asks for about conflicts is in its text. -/
structure Sections.KeepsIntent (p : Sections) (settings : Settings) (i : Insert) :
    Prop where
  /-- To ignore conflicts is said after the verb; the Postgres family has no word
  for it there and says it in the clause. -/
  ignore : i.ignore = true →
    (settings.dialect ≠ .sqlite → settings.dialect.isPostgresFamily = false →
      p.word = " IGNORE") ∧
    (settings.dialect = .sqlite → p.word = " OR IGNORE") ∧
    (settings.dialect.isPostgresFamily = true →
      p.clause = " ON CONFLICT" ++ i.target settings ++ " DO NOTHING")
  /-- To do nothing is to ignore conflicts in the MySQL family. -/
  doNothing : i.action = some .doNothing →
    (settings.dialect.isMysqlFamily = true →
      p.word = " IGNORE" ∧ p.declaration = "" ∧ p.clause = "") ∧
    (settings.dialect.isMysqlFamily = false →
      p.clause = " ON CONFLICT" ++ i.target settings ++ " DO NOTHING")
  /-- An update has all its assignments, and its condition if there is one. -/
  doUpdate : ∀ list condition, i.action = some (.doUpdate list condition) →
    ∃ updates c,
      InTurn (Assignment.Writes settings (i.reference settings)) list p.before
          updates c ∧
      (settings.dialect.isMysqlFamily = true →
        condition = none ∧
          p.clause = " ON DUPLICATE KEY UPDATE " ++ ", ".intercalate updates) ∧
      (settings.dialect.isMysqlFamily = false →
        ∃ suffix,
          p.clause = " ON CONFLICT" ++ i.target settings ++ " DO UPDATE SET " ++
            ", ".intercalate updates ++ suffix ∧
          Expr.WritesWhere settings c suffix p.after condition)

namespace Sections.Make

variable {p : Sections} {settings : Settings} {i : Insert} {text : String}

theorem word_eq_ignore (h : p.Make settings i text)
    (hsqlite : settings.dialect ≠ .sqlite)
    (hpostgres : settings.dialect.isPostgresFamily = false)
    (hignore : i.ignore = true ∨
      settings.dialect.isMysqlFamily = true ∧ i.action = some .doNothing) :
    p.word = " IGNORE" := by
  have hword := h.word
  rw [Layout.ignoreWord_of_other hsqlite hpostgres hignore] at hword
  exact (Doc.writes_text_iff.1 hword).1

theorem clause_mysql (h : p.Make settings i text)
    (hmysql : settings.dialect.isMysqlFamily = true) :
    (Layout.duplicateKey settings (.ofInsert settings.dialect i.source)
      i.action).Writes settings p.before p.clause p.after := by
  have hwrites := h.clause
  rw [Layout.onConflict_of_mysql hmysql] at hwrites
  exact hwrites

/-- Outside the MySQL family a clause names its target, and then an action. -/
theorem exists_action (h : p.Make settings i text)
    (hmysql : settings.dialect.isMysqlFamily = false) {clause : ConflictClause}
    (hclause : i.conflict = some clause) :
    ∃ said, p.clause = " ON CONFLICT" ++ i.target settings ++ said ∧
      (Layout.conflictAction settings (.ofInsert settings.dialect i.source) i.ignore
        clause.action).Writes settings p.before said p.after := by
  have hwrites := h.clause
  rw [hclause, Layout.onConflict_of_other hmysql] at hwrites
  obtain ⟨_, _, said, hlead, hsaid, hp⟩ := Doc.writes_append_iff.1 hwrites
  obtain ⟨_, htarget, rfl⟩ := Doc.writes_text_append_iff.1 hlead
  obtain ⟨rfl, rfl⟩ := Layout.eq_of_writes_conflictTarget htarget
  refine ⟨said, ?_, hsaid⟩
  rw [hp, target, hclause]

theorem clause_of_doNothing (h : p.Make settings i text)
    (haction : i.action = some .doNothing)
    (hmysql : settings.dialect.isMysqlFamily = false) :
    p.clause = " ON CONFLICT" ++ i.target settings ++ " DO NOTHING" := by
  obtain ⟨clause, hclause, hdoNothing⟩ := Option.bind_eq_some_iff.1 haction
  obtain ⟨said, hsaid, hwrites⟩ := h.exists_action hmysql hclause
  rw [hdoNothing] at hwrites
  rw [hsaid, (Doc.writes_text_iff.1 hwrites).1]

/-- An update of the row is not printed where conflicts are ignored. -/
theorem ignore_of_doUpdate (h : p.Make settings i text) {list : List Assignment}
    {condition : Option Expr} (haction : i.action = some (.doUpdate list condition))
    (hpostgres : settings.dialect.isPostgresFamily = true) : i.ignore = false := by
  have hword := h.word
  cases hignore : i.ignore with
  | false => rfl
  | true =>
      rw [hignore, haction, Layout.ignoreWord_of_postgres hpostgres] at hword
      exact absurd hword Doc.not_writes_fail

/-- A dialect without a word after the verb says in a clause of its own that
conflicts are ignored, or in the one that is there. -/
theorem clause_of_ignore (h : p.Make settings i text) (hignore : i.ignore = true)
    (hpostgres : settings.dialect.isPostgresFamily = true) :
    p.clause = " ON CONFLICT" ++ i.target settings ++ " DO NOTHING" := by
  have hmysql := Dialect.not_mysql_of_isPostgresFamily hpostgres
  cases hconflict : i.conflict with
  | none =>
      have hwrites := h.clause
      rw [hconflict, hignore, Layout.onConflict_none_of_postgres hpostgres]
        at hwrites
      rw [(Doc.writes_text_iff.1 hwrites).1, target, hconflict]
      rfl
  | some clause =>
      have hsame : i.action = clause.action := by
        rw [action, hconflict]
        rfl
      rcases haction : clause.action with _ | _ | ⟨list, condition⟩
      · obtain ⟨said, hsaid, hwrites⟩ := h.exists_action hmysql hconflict
        rw [hignore, haction] at hwrites
        rw [hsaid, (Doc.writes_textIf_iff.1 hwrites).1]
        rfl
      · exact h.clause_of_doNothing (hsame.trans haction) hmysql
      · have hnot := h.ignore_of_doUpdate (hsame.trans haction) hpostgres
        rw [hignore] at hnot
        contradiction

/-- In the MySQL family a clause that updates the row has no condition. -/
theorem clause_of_doUpdate_mysql (h : p.Make settings i text)
    {list : List Assignment} {condition : Option Expr}
    (haction : i.action = some (.doUpdate list condition))
    (hmysql : settings.dialect.isMysqlFamily = true) : condition = none ∧ ∃ updates,
      InTurn (Assignment.Writes settings (i.reference settings)) list p.before
          updates p.after ∧
      p.clause = " ON DUPLICATE KEY UPDATE " ++ ", ".intercalate updates := by
  have hwrites := h.clause_mysql hmysql
  rw [haction] at hwrites
  cases condition with
  | some e => exact absurd hwrites Doc.not_writes_fail
  | none =>
      obtain ⟨_, hlist, hclause⟩ := Doc.writes_text_append_iff.1 hwrites
      obtain ⟨updates, hupdates, rfl⟩ := Layout.writes_of_assignments hlist
      exact ⟨rfl, updates, hupdates, hclause⟩

/-- Elsewhere the condition comes after the assignments. -/
theorem clause_of_doUpdate (h : p.Make settings i text) {list : List Assignment}
    {condition : Option Expr} (haction : i.action = some (.doUpdate list condition))
    (hmysql : settings.dialect.isMysqlFamily = false) :
    ∃ updates c suffix,
      InTurn (Assignment.Writes settings (i.reference settings)) list p.before
          updates c ∧
      p.clause = " ON CONFLICT" ++ i.target settings ++ " DO UPDATE SET " ++
        ", ".intercalate updates ++ suffix ∧
      Expr.WritesWhere settings c suffix p.after condition := by
  obtain ⟨clause, hclause, hdoUpdate⟩ := Option.bind_eq_some_iff.1 haction
  obtain ⟨said, hsaid, hwrites⟩ := h.exists_action hmysql hclause
  rw [hdoUpdate] at hwrites
  obtain ⟨_, c, suffix, hset, hcondition, rfl⟩ := Doc.writes_append_iff.1 hwrites
  obtain ⟨_, hlist, rfl⟩ := Doc.writes_text_append_iff.1 hset
  obtain ⟨updates, hupdates, rfl⟩ := Layout.writes_of_assignments hlist
  refine ⟨updates, c, suffix, hupdates, ?_, ?_⟩
  · rw [hsaid]
    simp only [String.append_assoc]
  · cases condition with
    | none => exact Doc.writes_empty_iff.1 hcondition
    | some e => exact Doc.writes_text_append_iff.1 hcondition

/-- Every insert that is written keeps what it says about conflicts. -/
theorem keepsIntent (h : p.Make settings i text) : p.KeepsIntent settings i where
  ignore hignore := by
    refine ⟨?_, ?_, h.clause_of_ignore hignore⟩
    · intro hsqlite hpostgres
      exact h.word_eq_ignore hsqlite hpostgres (Or.inl hignore)
    · intro hsqlite
      have hword := h.word
      rw [hignore, Layout.ignoreWord_of_sqlite hsqlite] at hword
      exact (Doc.writes_text_iff.1 hword).1
  doNothing haction := by
    refine ⟨?_, h.clause_of_doNothing haction⟩
    intro hmysql
    obtain ⟨hsqlite, hpostgres⟩ := Dialect.not_sqlite_of_isMysqlFamily hmysql
    have hdeclaration := h.declaration
    rw [haction] at hdeclaration
    have hclause := h.clause_mysql hmysql
    rw [haction] at hclause
    exact ⟨h.word_eq_ignore hsqlite hpostgres (Or.inr ⟨hmysql, haction⟩),
      (Doc.writes_empty_iff.1 hdeclaration).1, (Doc.writes_empty_iff.1 hclause).1⟩
  doUpdate list condition haction := by
    cases hmysql : settings.dialect.isMysqlFamily with
    | true =>
        obtain ⟨hcondition, updates, hupdates, hclause⟩ :=
          h.clause_of_doUpdate_mysql haction hmysql
        exact ⟨updates, p.after, hupdates, fun _ => ⟨hcondition, hclause⟩, nofun⟩
    | false =>
        obtain ⟨updates, c, suffix, hupdates, hclause, hsuffix⟩ :=
          h.clause_of_doUpdate haction hmysql
        exact ⟨updates, c, hupdates, nofun, fun _ => ⟨suffix, hclause, hsuffix⟩⟩

end Sections.Make

end Insert

/-- Whatever the dialect and the settings, an INSERT that is printed says what it
asks for about conflicts, and what cannot be said is not printed: to ignore
conflicts and to update the row in the Postgres family, and to update it on a
condition in the MySQL family. -/
theorem Statement.render_insert_keepsIntent (settings : Settings) (i : Insert) :
    (∀ text, (Statement.insert i).render settings = .ok text →
      ∃ p : Insert.Sections, p.Make settings i text ∧ p.KeepsIntent settings i) ∧
    ∀ list condition, i.action = some (.doUpdate list condition) →
      (settings.dialect.isPostgresFamily = true ∧ i.ignore = true ∨
        settings.dialect.isMysqlFamily = true ∧ condition ≠ none) →
      ∀ text, (Statement.insert i).render settings ≠ .ok text := by
  constructor
  · intro text h
    obtain ⟨p, hp⟩ := Insert.exists_sections h
    exact ⟨p, hp, hp.keepsIntent⟩
  · intro list condition haction hcases text h
    obtain ⟨p, hp⟩ := Insert.exists_sections h
    rcases hcases with ⟨hpostgres, hignore⟩ | ⟨hmysql, hcondition⟩
    · have hnot := hp.ignore_of_doUpdate haction hpostgres
      rw [hignore] at hnot
      contradiction
    · exact hcondition (hp.clause_of_doUpdate_mysql haction hmysql).1

/-- `INSERT INTO t (a) VALUES (1)` with an update of rows that are there already. -/
def Insert.updating (list : List Assignment) (condition : Option Expr) :
    Insert where
  replace := false
  ignore := false
  into := true
  table := .named none "t" none
  columns := ["a"]
  source := .values [[.literal (.number "1")]]
  conflict := some ⟨["a"], none, some (.doUpdate list condition)⟩
  returning := []

/-- A value for the column that was to be inserted. -/
def Assignment.fromRow (column : String) : Assignment where
  table := none
  column := column
  value := .literal .null
  fromInserted := true

/-- With the word before it and an update on a condition in SQLite, but neither with
the word in Postgres nor with the condition in MySQL. -/
theorem Statement.render_insert_keepsIntent_updating :
    let i := Insert.updating [.fromRow "a"] (some (.column ⟨none, none, "b"⟩))
    let ignoring := { i with ignore := true }
    let text := "INSERT OR IGNORE INTO `t` (`a`) VALUES (1) " ++
      "ON CONFLICT (`a`) DO UPDATE SET `a` = EXCLUDED.`a` WHERE `b`"
    (Statement.insert ignoring).render (.ofDialect .sqlite) = .ok text ∧
      (∃ p : Insert.Sections, p.Make (.ofDialect .sqlite) ignoring text ∧
        p.KeepsIntent (.ofDialect .sqlite) ignoring) ∧
      (∀ text, (Statement.insert ignoring).render (.ofDialect .postgres) ≠
        .ok text) ∧
      ∀ text, (Statement.insert i).render (.ofDialect .mysql) ≠ .ok text := by
  intro i ignoring text
  have hrender : (Statement.insert ignoring).render (.ofDialect .sqlite) =
      .ok text := by
    decide +kernel
  refine ⟨hrender, (render_insert_keepsIntent _ _).1 text hrender, ?_, ?_⟩
  · exact (render_insert_keepsIntent _ _).2 _ _ rfl (Or.inl ⟨rfl, rfl⟩)
  · exact (render_insert_keepsIntent _ _).2 _ _ rfl
      (Or.inr ⟨rfl, Option.some_ne_none _⟩)

end SqlPrinter
