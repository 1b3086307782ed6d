/-
References to the row that was to be inserted.  Where such a reference goes through
a name for the row, the name is declared just before the clause that uses it, as it
is written there; and it is declared nowhere else.
-/
import SqlPrinter.Proofs.Conflict

namespace SqlPrinter

namespace Insert

/-- The rows come from a query. -/
def hasQuery (i : Insert) : Bool :=
  i.source matches .query _

/-- The references in an update of the row are what the dialect has for them, and a
name for the row is declared if one of them goes through it. -/
structure Sections.Resolves (p : Sections) (settings : Settings) (i : Insert)
    (list : List Assignment) (reference : String → String) : Prop where
  /-- A row that comes from a query has no name, and in MariaDB no row has. -/
  valuesCall :
    settings.dialect = .mariadb ∨ settings.dialect = .mysql ∧ i.hasQuery = true →
      ∀ column, reference column = "VALUES(" ++ Ident.quote settings column ++ ")"
  rowName : settings.dialect = .mysql → i.hasQuery = false →
    ∀ column, reference column =
      Ident.quote settings InsertedRef.row ++ "." ++ Ident.quote settings column
  excluded : settings.dialect.isMysqlFamily = false →
    ∀ column, reference column = "EXCLUDED." ++ Ident.quote settings column
  /-- The assignments are in the clause, which starts with its keywords. -/
  updates : ∃ lead updates suffix c,
    p.clause = lead ++ ", ".intercalate updates ++ suffix ∧
    InTurn (Assignment.Writes settings reference) list p.before updates c ∧
    (settings.dialect.isMysqlFamily = true → lead = " ON DUPLICATE KEY UPDATE " ∧
      suffix = "")
  declaration : p.declaration =
    if settings.dialect = .mysql ∧ i.hasQuery = false ∧
        ∃ a ∈ list, a.fromInserted = true then
      " AS " ++ Ident.quote settings InsertedRef.row
    else ""

end Insert

namespace InsertedRef

variable {d : Dialect} {i : Insert}

theorem ofInsert_of_valuesCall (h : d = .mariadb ∨ d = .mysql ∧ i.hasQuery = true) :
    ofInsert d i.source = valuesCall := by
  rcases h with rfl | ⟨rfl, hquery⟩
  · rfl
  · unfold Insert.hasQuery at hquery
    cases hsource : i.source with
    | query q => rfl
    | _ => simp [hsource] at hquery

/-- The row gets a name in MySQL, where no query is inserted. -/
theorem ofInsert_eq_rowName_iff :
    ofInsert d i.source = rowName ↔ d = .mysql ∧ i.hasQuery = false := by
  unfold Insert.hasQuery
  cases d <;> cases i.source <;> simp [ofInsert]

theorem ofInsert_of_other (h : d.isMysqlFamily = false) :
    ofInsert d i.source = excluded := by
  cases d <;> simp_all [ofInsert, Dialect.isMysqlFamily]

end InsertedRef

/-- A name for the row is declared if some assignment refers to it. -/
theorem Layout.eq_of_writes_rowName {settings : Settings} {inserted : InsertedRef}
    {list : List Assignment} {condition : Option Expr} {c c' : Counters}
    {s : String}
    (h : (rowName inserted (some (.doUpdate list condition))).Writes settings
      c s c') : s = if inserted = .rowName ∧ ∃ a ∈ list, a.fromInserted = true then
        " AS " ++ Ident.quote settings InsertedRef.row
      else "" := by
  unfold rowName at h
  simp only [Bool.and_eq_true, decide_eq_true_eq, List.any_eq_true] at h
  split at h
  · next hused =>
      obtain ⟨_, hname, rfl⟩ := Doc.writes_text_append_iff.1 h
      rw [if_pos hused, (Doc.writes_name_iff.1 hname).1]
  · next hused =>
      rw [if_neg hused]
      exact (Doc.writes_empty_iff.1 h).1

/-- Whatever the dialect, the quotes and the letter case, an INSERT that updates
rows refers to a name for the row only where this name is declared just before, in
the same spelling, and it declares no name that it does not use. -/
theorem Statement.render_insert_resolves (settings : Settings) {i : Insert}
    {list : List Assignment} {condition : Option Expr} {text : String}
    (haction : i.action = some (.doUpdate list condition))
    (h : (Statement.insert i).render settings = .ok text) :
    ∃ (p : Insert.Sections) (reference : String → String),
      p.Make settings i text ∧ p.Resolves settings i list reference := by
  obtain ⟨p, hp⟩ := Insert.exists_sections h
  have hdeclaration := hp.declaration
  rw [haction] at hdeclaration
  refine ⟨p, i.reference settings, hp, ?_⟩
  constructor
  · intro hvalues column
    rw [Insert.reference, InsertedRef.ofInsert_of_valuesCall hvalues]
    rfl
  · intro hmysql hquery column
    rw [Insert.reference, InsertedRef.ofInsert_eq_rowName_iff.2 ⟨hmysql, hquery⟩]
    rfl
  · intro hother column
    rw [Insert.reference, InsertedRef.ofInsert_of_other hother]
    rfl
  · by_cases hmysql : settings.dialect.isMysqlFamily = true
    · obtain ⟨-, updates, hupdates, hclause⟩ :=
        hp.clause_of_doUpdate_mysql haction hmysql
      exact ⟨_, updates, "",
        p.after, by
          rw [hclause, String.append_empty], hupdates, fun _ => ⟨rfl, rfl⟩⟩
    · obtain ⟨updates, c, suffix, hupdates, hclause, -⟩ :=
        hp.clause_of_doUpdate haction (Bool.not_eq_true _ ▸ hmysql)
      exact ⟨_, updates, suffix, c, hclause, hupdates, fun h => absurd h hmysql⟩
  · rw [Layout.eq_of_writes_rowName hdeclaration]
    simp only [InsertedRef.ofInsert_eq_rowName_iff, and_assoc]

/-- In MySQL with one reference to the row and one value of its own. -/
theorem Statement.render_insert_resolves_updating :
    let list :=
      [.fromRow "a", { Assignment.fromRow "b" with fromInserted := false }]
    let i := Insert.updating list none
    let text := "INSERT INTO `t` (`a`) VALUES (1) AS `new` " ++
      "ON DUPLICATE KEY UPDATE `a` = `new`.`a`, `b` = NULL"
    i.action = some (.doUpdate list none) ∧
      (Statement.insert i).render (.ofDialect .mysql) = .ok text ∧
      ∃ (p : Insert.Sections) (reference : String → String),
        p.Make (.ofDialect .mysql) i text ∧
          p.Resolves (.ofDialect .mysql) i list reference := by
  intro list i text
  have hrender : (Statement.insert i).render (.ofDialect .mysql) = .ok text := by
    decide +kernel
  exact ⟨rfl, hrender, render_insert_resolves _ rfl hrender⟩

end SqlPrinter
