/-
Settings that do not matter: the way to write a row limit outside the MySQL family,
the emulated order of nulls where the dialect has words for it or the statement
does not ask for one, and the spelling of parameters where none is bound.
-/
import SqlPrinter.Proofs.Retouch.Render

namespace SqlPrinter

open Node (Within)

/-- Change nothing. -/
def Retouch.nothing : Retouch :=
  .ofText id fun _ => rfl

/-- Two settings differ, if at all, only in what does not matter to a statement. -/
structure Settings.AlikeFor (s : Statement) (σ τ : Settings) : Prop where
  dialect : σ.dialect = τ.dialect
  quote : σ.quote = τ.quote
  fold : σ.fold = τ.fold
  asBeforeTableName : σ.asBeforeTableName = τ.asBeforeTableName
  asBeforeColumnName : σ.asBeforeColumnName = τ.asBeforeColumnName
  policy : σ.policy = τ.policy
  mysqlLimit : τ.dialect.isMysqlFamily = true → σ.mysqlLimit = τ.mysqlLimit
  emulateNulls : τ.dialect.supports .nullsOrdering = false →
    ∀ k, Within (.sortKey k) (.statement s) → k.nulls ≠ none →
      σ.emulateNulls = τ.emulateNulls
  placeholders : Within (.expr (.parameter .bind)) (.statement s) →
    σ.placeholders = τ.placeholders

theorem Settings.AlikeFor.refl (s : Statement) (σ : Settings) : AlikeFor s σ σ :=
  ⟨rfl, rfl, rfl, rfl, rfl, rfl, fun _ => rfl, fun _ _ _ _ => rfl, fun _ => rfl⟩

/-- Outside the MySQL family there is one way to write a row limit. -/
theorem Layout.limit_of_not_mysql {settings : Settings}
    (h : settings.dialect.isMysqlFamily = false) (count offset : Option Doc) :
    limit settings count offset = .clause " LIMIT " count ++
      .clause " OFFSET " offset := by
  unfold limit
  rw [h]
  cases settings.mysqlLimit <;> rfl

namespace Settings.AlikeFor

variable {s : Statement} {σ τ : Settings} (h : AlikeFor s σ τ)

include h

theorem limit (count offset : Option Doc) :
    Layout.limit σ count offset = Layout.limit τ count offset := by
  cases hmysql : τ.dialect.isMysqlFamily with
  | false =>
      rw [Layout.limit_of_not_mysql (h.dialect ▸ hmysql),
        Layout.limit_of_not_mysql hmysql]
  | true =>
      unfold Layout.limit
      rw [h.mysqlLimit hmysql, h.dialect]

theorem agree : σ.Agree τ :=
  ⟨h.dialect, h.quote, h.fold, h.asBeforeTableName, h.asBeforeColumnName, h.limit⟩

/-- A dialect with words for the order of nulls uses them. -/
theorem nullsByKey {k : OrderItem} (hk : Within (.sortKey k) (.statement s))
    (hnulls : k.nulls ≠ none) : σ.nullsByKey = τ.nullsByKey := by
  unfold Settings.nullsByKey
  cases hsupports : τ.dialect.supports .nullsOrdering with
  | true => simp [h.dialect, hsupports]
  | false => rw [h.emulateNulls hsupports k hk hnulls, h.dialect, hsupports]

/-- The check looks at the emulation of nulls only where it would refuse them. -/
theorem carries {f : Feature} (hf : τ.dialect.supports f = false) {k : OrderItem}
    (hk : Within (.sortKey k) (.statement s)) :
    (Node.sortKey k).Carries σ f ↔ (Node.sortKey k).Carries τ f := by
  refine and_congr_right fun hnullsOrdering => and_congr_right fun hnulls => ?_
  subst hnullsOrdering
  rw [h.emulateNulls hf k hk hnulls]

/-- What is made of a statement by changing nothing gives the text or the error that
the statement gives under settings that are alike for it. -/
theorem render_nothing : (Retouch.nothing.statement s).render σ = s.render τ :=
  Retouch.render_statement h.agree h.policy h.placeholders
    (fun _ hk => Retouch.KeepsKeys.keeps (fun _ => rfl) h.agree (h.nullsByKey hk))
    fun _ hf _ hk => Retouch.KeepsKeys.keepsUse (fun _ => rfl) (h.carries hf hk)

end Settings.AlikeFor

/-- A statement gives one text or error under settings that are alike for it. -/
theorem Settings.AlikeFor.render_eq {s : Statement} {σ τ : Settings}
    (h : AlikeFor s σ τ) : s.render σ = s.render τ :=
  calc s.render σ
      = (Retouch.nothing.statement s).render σ :=
        (AlikeFor.refl s σ).render_nothing.symm
    _ = s.render τ := h.render_nothing

/-- Settings that make no difference: the way to write a row limit with an offset,
outside the MySQL family; whether nulls are put in order by a second sort key, in a
dialect with words for their order or in a statement that does not order them; and
the spelling of parameters, in a statement that binds none. -/
theorem Statement.render_switches (s : Statement) (σ : Settings) :
    (σ.dialect.isMysqlFamily = false →
      ∀ limit, s.render { σ with mysqlLimit := limit } = s.render σ) ∧
    (σ.dialect.supports .nullsOrdering = true →
      ∀ emulate, s.render { σ with emulateNulls := emulate } = s.render σ) ∧
    ((∀ k, Within (.sortKey k) (.statement s) → k.nulls = none) →
      ∀ emulate, s.render { σ with emulateNulls := emulate } = s.render σ) ∧
    (¬ Within (.expr (.parameter .bind)) (.statement s) →
      ∀ placeholders, s.render { σ with placeholders } = s.render σ) := by
  have halike := Settings.AlikeFor.refl s σ
  refine ⟨fun hmysql limit => ?_, fun hsupports emulate => ?_,
    fun hnulls emulate => ?_, fun hbind placeholders => ?_⟩
  · exact Settings.AlikeFor.render_eq { halike with
      mysqlLimit := fun h => absurd h (by simp [hmysql]) }
  · exact Settings.AlikeFor.render_eq { halike with
      emulateNulls := fun h => absurd h (by simp [hsupports]) }
  · exact Settings.AlikeFor.render_eq { halike with
      emulateNulls := fun _ k hk h => absurd (hnulls k hk) h }
  · exact Settings.AlikeFor.render_eq
      { halike with placeholders := fun h => absurd h hbind }

/-- `SELECT * FROM t ORDER BY a LIMIT 5 OFFSET 9`, with nulls in some order. -/
def Query.page (nulls : Option NullsOrder) : Query where
  ctes := none
  body := .select
    { distinct := false, distinctOn := [], options := [], items := [.star],
      into := none, tables := [.named none "t" none], joins := [],
      condition := none, groupBy := [], groupModifiers := [], having := none,
      windows := [], orderBy := [], limit := none, offset := none, locking := none }
  orderBy := [⟨.column ⟨none, none, "a"⟩, none, nulls⟩]
  limit := some (.literal (.number "5"))
  offset := some (.literal (.number "9"))

theorem Query.not_bind_within_page (nulls : Option NullsOrder) :
    ¬ Within (.expr (.parameter .bind)) (.statement (.query (page nulls))) := by
  simp [page, Node.within_iff, Node.ofStatement, Node.ofSelect, Node.ofExpr,
    Node.with?, Node.into?, Node.expr?, Node.exprs]

theorem Query.nulls_of_within_page {nulls : Option NullsOrder} {k : OrderItem}
    (hk : Within (.sortKey k) (.statement (.query (page nulls)))) :
    k.nulls = nulls := by
  have hkey : k = ⟨.column ⟨none, none, "a"⟩, none, nulls⟩ := by
    simpa [page, Node.within_iff, Node.ofStatement, Node.ofSelect, Node.ofExpr,
      Node.with?, Node.into?, Node.expr?, Node.exprs] using hk
  rw [hkey]

/-- Three of the switches for a page with nulls last in SQLite, and the emulation of
nulls for one without an order of nulls in MySQL. -/
theorem Statement.render_switches_page :
    let sqlite := Settings.ofDialect .sqlite
    let last := Statement.query (.page (some .last))
    let unordered := Statement.query (.page none)
    last.render { sqlite with mysqlLimit := .offsetCommaLimit } =
        last.render sqlite ∧
      last.render { sqlite with emulateNulls := true } = last.render sqlite ∧
      unordered.render { Settings.standard with emulateNulls := true } =
        unordered.render .standard ∧
      last.render { sqlite with placeholders := .numbered } = last.render sqlite :=
  ⟨(render_switches _ (.ofDialect .sqlite)).1 rfl _,
    (render_switches _ (.ofDialect .sqlite)).2.1 rfl _,
    (render_switches _ .standard).2.2.1 (fun _ => Query.nulls_of_within_page) _,
    (render_switches _ (.ofDialect .sqlite)).2.2.2 (Query.not_bind_within_page _) _⟩

end SqlPrinter
