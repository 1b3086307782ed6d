/-
What a strict policy refuses.  On queries and on changes of rows the check is
exact: it refuses what the dialect lacks and nothing else, and it names the
first such feature.  In statements about tables it looks at the query alone, so
what the definitions of columns use is printed unseen.
-/
import SqlPrinter.Proofs.Usage
import SqlPrinter.Render

namespace SqlPrinter

/-! ## The first feature that is missing -/

/-- The place of a feature in the order of declaration. -/
def Feature.rank (f : Feature) : Nat :=
  f.ctorIdx

theorem Feature.getElem?_all_rank (f : Feature) : all[f.rank]? = some f := by
  cases f <;> rfl

theorem Feature.rank_injective {f g : Feature} (h : f.rank = g.rank) : f = g := by
  have hf := f.getElem?_all_rank
  rw [h, g.getElem?_all_rank] at hf
  exact (Option.some.inj hf).symm

/-- Every feature is in the list of all. -/
theorem Feature.mem_all (f : Feature) : f ∈ all :=
  List.mem_of_getElem? f.getElem?_all_rank

theorem Feature.all_pairwise_rank : all.Pairwise fun f g => f.rank < g.rank := by
  decide

namespace Usage

variable {d : Dialect} {used : List Feature} {f : Feature}

/-- Nothing is refused exactly when everything used is supported. -/
theorem firstUnsupported_eq_none_iff :
    firstUnsupported d used = none ↔ ∀ f ∈ used, d.supports f = true := by
  simp [firstUnsupported, Feature.mem_all]

/-- What is refused is used, is not supported, and comes before all others like
it. -/
theorem firstUnsupported_least (h : firstUnsupported d used = some f) :
    f ∈ used ∧ d.supports f = false ∧
      ∀ g ∈ used, d.supports g = false → f.rank ≤ g.rank := by
  obtain ⟨hf, before, after, hall, hbefore⟩ := List.find?_eq_some_iff_append.1 h
  obtain ⟨hused, hlacks⟩ : f ∈ used ∧ d.supports f = false := by simpa using hf
  refine ⟨hused, hlacks, ?_⟩
  intro g hg hgd
  have hsorted := Feature.all_pairwise_rank
  have hmem := Feature.mem_all g
  rw [hall] at hsorted hmem
  have hafter := (List.pairwise_cons.1 (List.pairwise_append.1 hsorted).2.1).1
  rcases List.mem_append.1 hmem with hmem | hmem
  · -- A feature in use that is missing would have been found before `f`.
    have hno := hbefore g hmem
    simp [hg, hgd] at hno
  · rcases List.mem_cons.1 hmem with rfl | hmem
    · exact Nat.le_refl _
    · exact Nat.le_of_lt (hafter g hmem)

/-- The feature that is found is the first of those in use that the dialect
lacks, wherever it stands in the list. -/
theorem firstUnsupported_eq_some_iff :
    firstUnsupported d used = some f ↔
      f ∈ used ∧ d.supports f = false ∧
        ∀ g ∈ used, d.supports g = false → f.rank ≤ g.rank := by
  constructor
  · exact firstUnsupported_least
  · rintro ⟨hused, hlacks, hleast⟩
    cases hfound : firstUnsupported d used with
    | none =>
        have hsupports := firstUnsupported_eq_none_iff.1 hfound f hused
        simp [hlacks] at hsupports
    | some g =>
        obtain ⟨hgused, hglacks, hgleast⟩ := firstUnsupported_least hfound
        have hrank : g.rank = f.rank :=
          Nat.le_antisymm (hgleast f hused hlacks) (hleast g hgused hglacks)
        rw [Feature.rank_injective hrank]

end Usage

/-! ## The parts that the check looks into -/

/-- The check looks into all of a statement.  It does not look at the table of
an INSERT, which has to be a named one. -/
def Statement.IsChecked : Statement → Prop
  | .query _ | .createView _ | .update _ | .delete _ => True
  | .insert i => (i.table matches .named _ _ _) = true
  | .createTable _ | .createDatabase _ | .createIndex _ | .alterTable _ | .drop _
  | .list _
  | .analyze _ | .attach _ => False

/-- The parts that the check looks into. -/
def Statement.checked : Statement → List Node
  | .query q => [.query q]
  | .insert i =>
      Node.ofSource i.source ++ Node.conflict? i.conflict ++ i.returning.map .item
  | .update u => Node.ofStatement (.update u)
  | .delete d => Node.ofStatement (.delete d)
  | .createTable t => t.query.toList.map .query
  | .createView v => [.query v.query]
  | .createDatabase _ | .createIndex _ | .alterTable _ | .drop _ | .list _
  | .analyze _
  | .attach _ => []

namespace Usage

variable (settings : Settings)

open Node (usages)

theorem all_isCollected_source (s : RowSource) :
    (Node.ofSource s).all Node.isCollected = true := by
  cases s with
  | values rows => exact Node.all_isCollected_exprs rows.flatten
  | query q => rfl
  | assignments as => exact Node.all_isCollected_map (fun _ => rfl) as

theorem all_isCollected_conflict? (c : Option ConflictClause) :
    (Node.conflict? c).all Node.isCollected = true := by
  rcases c with _ | ⟨columns, constraint, _ | _ | ⟨as, condition⟩⟩
  case some.some.doUpdate =>
      rw [Node.conflict?, List.all_append, Node.all_isCollected_expr?,
        Node.all_isCollected_map (fun _ => rfl), Bool.and_self]
  all_goals rfl

/-- What the check looks into are parts of queries and of changes. -/
theorem all_isCollected_checked (s : Statement) :
    s.checked.all Node.isCollected = true := by
  have hitems := Node.all_isCollected_map (g := .item) (fun _ => rfl)
  have htables := Node.all_isCollected_map (g := .table) (fun _ => rfl)
  have hjoins := Node.all_isCollected_map (g := .join) (fun _ => rfl)
  have hassignments := Node.all_isCollected_map (g := .assignment) (fun _ => rfl)
  have horder := Node.all_isCollected_map (g := .sortKey) (fun _ => rfl)
  cases s with
  | insert i =>
      rw [Statement.checked, List.all_append, List.all_append,
        all_isCollected_source, all_isCollected_conflict?, hitems, Bool.and_self,
        Bool.and_self]
  | update u =>
      simp only [Statement.checked, Node.ofStatement, List.all_append,
        List.all_cons, Node.all_isCollected_with?, Node.all_isCollected_expr?,
        Node.isCollected, hitems, htables, hjoins, hassignments, horder,
        Bool.and_self]
  | delete d =>
      simp only [Statement.checked, Node.ofStatement, List.all_append,
        Node.all_isCollected_with?, Node.all_isCollected_expr?, hitems,
        htables, hjoins, horder, Bool.and_self]
  | createTable t => exact Node.all_isCollected_map (fun _ => rfl) t.query.toList
  | _ => rfl

theorem ofReturning_eq (items : List SelectItem) :
    ofReturning settings items =
      (if items.isEmpty then [] else [.returning]) ++
        usages settings (items.map .item) := by
  rw [Node.usages_items]
  cases items <;> simp [ofReturning, ofItems]

theorem ofSource_eq (s : RowSource) :
    ofSource settings s = usages settings (Node.ofSource s) := by
  cases s <;> simp [ofSource, Node.ofSource, Node.usage]

theorem ofConflict_eq (c : Option ConflictClause) :
    ofConflict settings c =
      (if c.isSome then [if settings.dialect.isMysqlFamily then .onDuplicateKey
        else .onConflict]
        else []) ++ usages settings (Node.conflict? c) := by
  rcases c with _ | ⟨columns, constraint, _ | _ | _⟩ <;>
    simp [ofConflict, Node.conflict?]

/-- The check collects what the statement itself calls for and what it finds in
the parts that it looks into. -/
theorem mem_ofStatement_iff {s : Statement} {f : Feature} :
    f ∈ ofStatement settings s ↔
      (Node.statement s).Carries settings f ∨ f ∈ usages settings s.checked := by
  cases s with
  | query q => simp [ofStatement, Node.Carries, Statement.checked, Node.usage]
  | insert i =>
      rcases i with ⟨replace, ignore, into, table, columns, source, conflict,
        returning⟩
      simp only [ofStatement, ofInsert, ofReturning_eq, ofSource_eq, ofConflict_eq,
        Node.Carries, Statement.checked, Node.usages_append, List.mem_append]
      cases ignore <;> cases conflict <;> cases returning <;> simp <;> grind
  | update u =>
      rcases u with ⟨ctes, fallback, table, joins, assignments, tables, condition,
        orderBy, limit, returning⟩
      simp only [ofStatement, ofUpdate, ofReturning_eq, Node.Carries,
        Statement.checked, Node.ofStatement, Node.usages_append, Node.usages_cons,
        List.mem_append, Node.usage, Node.usages_with?, Node.usages_joins,
        Node.usages_assignments, Node.usages_tables, Node.usages_expr?,
        Node.usages_sortKeys]
      cases returning <;> simp <;> grind
  | delete d =>
      rcases d with ⟨ctes, targets, tables, joins, usingTables, condition,
        orderBy, limit, returning⟩
      simp only [ofStatement, ofDelete, ofReturning_eq, Node.Carries,
        Statement.checked, Node.ofStatement, Node.usages_append, List.mem_append,
        Node.usages_with?, Node.usages_joins, Node.usages_tables, Node.usages_expr?,
        Node.usages_sortKeys]
      cases returning with
      | nil => simp
      | cons item items =>
          simp
          grind
  | createTable t =>
      rcases t with ⟨temporary, ifNotExists, name, elements, options, _ | q,
        like⟩ <;>
        simp [ofStatement, Node.Carries, Statement.checked, Node.usage]
  | createView v => simp [ofStatement, Node.Carries, Statement.checked, Node.usage]
  | createDatabase _ | createIndex _ | alterTable _ | drop _ | list _ | analyze _
  | attach _ =>
      simp [ofStatement, Node.Carries, Statement.checked]

/-- The check finds a feature exactly if the statement calls for it or a node
in a part that it looks into uses it. -/
theorem mem_ofStatement_iff_uses {s : Statement} {f : Feature} :
    f ∈ ofStatement settings s ↔
      (Node.statement s).Carries settings f ∨
        ∃ n ∈ s.checked, n.Uses settings f := by
  have hcollected := List.all_eq_true.1 (all_isCollected_checked s)
  rw [mem_ofStatement_iff]
  simp only [Node.usages, List.mem_flatMap]
  constructor
  · rintro (hf | ⟨n, hn, hf⟩)
    · exact Or.inl hf
    · exact Or.inr ⟨n, hn,
        (Node.mem_usage_iff_uses settings (hcollected n hn)).1 hf⟩
  · rintro (hf | ⟨n, hn, hf⟩)
    · exact Or.inl hf
    · exact Or.inr ⟨n, hn,
        (Node.mem_usage_iff_uses settings (hcollected n hn)).2 hf⟩

/-- In a statement that the check looks into as a whole it finds what is used in
the statement. -/
theorem mem_ofStatement_iff_of_isChecked {s : Statement} (hs : s.IsChecked)
    {f : Feature} :
    f ∈ ofStatement settings s ↔ (Node.statement s).Uses settings f := by
  rw [mem_ofStatement_iff_uses, Node.uses_iff]
  cases s with
  | insert i =>
      rcases i with ⟨replace, ignore, into, _ | _ | _ | _ | _, columns, source⟩
      case named schema name rename =>
          have htable :
              ¬ (Node.table (.named schema name rename)).Uses settings f :=
            Node.not_uses_table_of_named settings rfl
          simp [Statement.checked, Node.children, Node.ofStatement, htable]
      all_goals simp [Statement.IsChecked] at hs
  | query _ | createView _ | update _ | delete _ => rfl
  | _ => exact hs.elim

end Usage

/-! ## The refusal of a statement -/

variable {settings : Settings} {s : Statement}

theorem Statement.rejection?_of_strict (hstrict : settings.policy = .strict) :
    s.rejection? settings =
      (Usage.firstUnsupported settings.dialect (Usage.ofStatement settings s)).map
        (.unsupportedFeature · settings.dialect) := by
  simp [Statement.rejection?, Settings.reject?, hstrict]

/-- The check is exact on queries, views and changes of rows.  It passes a
statement if the dialect has every feature that is used in it, at any depth;
otherwise it names the first one that is missing, in the order of declaration. -/
theorem Statement.rejection?_exact (hstrict : settings.policy = .strict)
    (hs : s.IsChecked) :
    (s.rejection? settings = none ↔ ∀ f, (Node.statement s).Uses settings f →
      settings.dialect.supports f = true) ∧
    ∀ e, s.rejection? settings = some e ↔
      ∃ f, e = .unsupportedFeature f settings.dialect ∧
        (Node.statement s).Uses settings f ∧ settings.dialect.supports f = false ∧
        ∀ g, (Node.statement s).Uses settings g →
          settings.dialect.supports g = false → f.rank ≤ g.rank := by
  have hmem (f : Feature) :=
    Usage.mem_ofStatement_iff_of_isChecked settings hs (f := f)
  rw [Statement.rejection?_of_strict hstrict]
  constructor
  · rw [Option.map_eq_none_iff, Usage.firstUnsupported_eq_none_iff]
    simp only [hmem]
  · intro e
    rw [Option.map_eq_some_iff]
    simp only [Usage.firstUnsupported_eq_some_iff, hmem]
    constructor
    · rintro ⟨f, hf, rfl⟩
      exact ⟨f, rfl, hf⟩
    · rintro ⟨f, rfl, hf⟩
      exact ⟨f, hf, rfl⟩

/-- The usual settings of a dialect, under which what it lacks is refused. -/
def Settings.strict (d : Dialect) : Settings :=
  { ofDialect d with policy := .strict }

/-- `DELETE FROM t WHERE a ILIKE b::INT`. -/
def Statement.deleteByCast : Statement :=
  .delete
    { ctes := none, targets := [], tables := [.named none "t" none], joins := [],
      usingTables := [],
      condition := some (.binary (.column ⟨none, none, "a"⟩) (.standard .ilike)
        (.cast
          { subject := .column ⟨none, none, "b"⟩,
            target := ⟨"INT", none, none, false, none, [], none, []⟩,
            form := .doubleColon, keyword := none, tail := none, rename := none,
            collate := none })),
      orderBy := [], limit := none, returning := [] }

/-- Of two missing features the one that is declared first is named, although
the other one comes first in the text. -/
theorem Statement.rejection?_exact_deleteByCast :
    let settings := Settings.strict .mysql
    settings.policy = .strict ∧ deleteByCast.IsChecked ∧
      ∃ f, Error.unsupportedFeature .doubleColonCast .mysql =
          .unsupportedFeature f .mysql ∧
        (Node.statement deleteByCast).Uses settings f ∧
        Dialect.mysql.supports f = false ∧
        ∀ g, (Node.statement deleteByCast).Uses settings g →
          Dialect.mysql.supports g = false → f.rank ≤ g.rank :=
  ⟨rfl, trivial,
    ((@rejection?_exact (Settings.strict .mysql) deleteByCast rfl trivial).2 _).1
      rfl⟩

/-! ## What is printed unseen -/

/-- The parts of a statement that are printed.  A table that is like another
one takes nothing of its own. -/
def Statement.printed : Statement → List Node
  | .createTable t =>
      if t.like.isSome then [] else Node.ofStatement (.createTable t)
  | s => Node.ofStatement s

/-- The parts that are printed although the check does not look into them: what
a table is made of, and the file of an attached database. -/
def Statement.unchecked : Statement → List Node
  | .createTable t => if t.like.isSome then [] else t.elements.map Node.ofElement
  | .alterTable t => t.actions.flatMap Node.ofAction
  | .attach a => [.expr a.file]
  | .query _ | .insert _ | .update _ | .delete _ | .createDatabase _ | .createView _
  | .createIndex _ | .drop _ | .list _ | .analyze _ => []

/-- A statement calls for a feature, or a node in a part that is printed does. -/
def Statement.Prints (settings : Settings) (s : Statement) (f : Feature) : Prop :=
  (Node.statement s).Carries settings f ∨ ∃ n ∈ s.printed, n.Uses settings f

/-- What validation does not look at is printed all the same. -/
theorem Statement.printed_of_mem_unchecked {n : Node} (hn : n ∈ s.unchecked) :
    n ∈ s.printed := by
  cases s with
  | createTable t =>
      simp only [unchecked, printed] at hn ⊢
      split at hn <;> simp_all [Node.ofStatement]
  | alterTable t => exact hn
  | attach a => exact hn
  | _ => simp [unchecked] at hn

/-- Each part that is printed is looked into, or is one of those that are not. -/
theorem Statement.mem_unchecked_or_mem_checked {n : Node} (hn : n ∈ s.printed) :
    n ∈ s.unchecked ∨ n ∈ s.checked ∨ ∃ i, s = .insert i ∧ n = .table i.table := by
  cases s with
  | insert i =>
      rcases List.mem_cons.1 hn with rfl | hn
      · exact Or.inr (Or.inr ⟨i, rfl, rfl⟩)
      · exact Or.inr (Or.inl hn)
  | createTable t =>
      cases hlike : t.like with
      | some source => simp [printed, hlike] at hn
      | none =>
          simp only [printed, hlike, Option.isSome_none, Bool.false_eq_true,
            if_false, Node.ofStatement] at hn
          rcases List.mem_append.1 hn with hn | hn
          · exact Or.inl (by simpa [unchecked, hlike] using hn)
          · exact Or.inr (Or.inl hn)
  | alterTable t => exact Or.inl hn
  | attach a => exact Or.inl hn
  | query _ | createView _ | update _ | delete _ => exact Or.inr (Or.inl hn)
  | _ => simp [printed, Node.ofStatement] at hn

/-- An INSERT is printed only if its table is a named one. -/
theorem Statement.isNamed_of_render_insert {i : Insert} {text : String}
    (hok : (Statement.insert i).render settings = .ok text) :
    (i.table matches .named _ _ _) = true := by
  have hprint : (Layout.insert settings i).print settings = .ok text := by
    simp only [render, doc] at hok
    split at hok
    · simp at hok
    · exact hok
  rcases i with ⟨replace, ignore, into, table, columns, source, conflict, returning⟩
  cases table with
  | named schema name rename => rfl
  | _ =>
      -- The first part of the layout is the failure.
      have hfail : Except.error (Error.missingField "insert" "table") =
          .ok text := hprint
      simp at hfail

/-- Under a strict policy a text that is printed has no feature that the dialect
lacks, up to the parts that the check does not look into: all of the statement
is supported exactly if those parts are. -/
theorem Statement.supports_of_render_iff {text : String}
    (hstrict : settings.policy = .strict) (hok : s.render settings = .ok text) :
    (∀ f, s.Prints settings f → settings.dialect.supports f = true) ↔
      ∀ n ∈ s.unchecked, ∀ f, n.Uses settings f →
        settings.dialect.supports f = true := by
  have hnone : s.rejection? settings = none := by
    cases hrejection : s.rejection? settings with
    | none => rfl
    | some e => simp [render, hrejection] at hok
  rw [rejection?_of_strict hstrict, Option.map_eq_none_iff,
    Usage.firstUnsupported_eq_none_iff] at hnone
  simp only [Usage.mem_ofStatement_iff_uses] at hnone
  constructor
  · intro h n hn f hf
    exact h f (Or.inr ⟨n, printed_of_mem_unchecked hn, hf⟩)
  · rintro h f (hf | ⟨n, hn, hf⟩)
    · exact hnone f (Or.inl hf)
    · rcases mem_unchecked_or_mem_checked hn with hn | hn | ⟨i, rfl, rfl⟩
      · exact h n hn f hf
      · exact hnone f (Or.inr ⟨n, hn, hf⟩)
      · exact absurd hf (Node.not_uses_table_of_named _
          (isNamed_of_render_insert hok))

/-- `'x'::INT`. -/
def Cast.stringToInt : Cast where
  subject := .literal (.string "x" none)
  target := ⟨"INT", none, none, false, none, [], none, []⟩
  form := .doubleColon
  keyword := none
  tail := none
  rename := none
  collate := none

/-- `CREATE TABLE t (v INT DEFAULT 'x'::INT)`. -/
def Statement.createByCast : Statement :=
  .createTable
    { temporary := false, ifNotExists := false, name := ⟨none, "t"⟩,
      elements :=
        [.column
          { name := "v",
            dataType := some ⟨"INT", none, none, false, none, [], none, []⟩,
            options :=
              { ColumnOptions.plain with default := some (.cast .stringToInt) } }],
      options := [], query := none, like := none }

theorem Statement.supports_of_render_iff_createByCast :
    let settings := Settings.strict .mysql
    settings.policy = .strict ∧
      createByCast.render settings =
          .ok "CREATE TABLE `t` (`v` INT DEFAULT 'x'::INT)" ∧
      ((∀ f, createByCast.Prints settings f → Dialect.mysql.supports f = true) ↔
        ∀ n ∈ createByCast.unchecked, ∀ f, n.Uses settings f →
          Dialect.mysql.supports f = true) := by
  intro settings
  have hrender :
      createByCast.render settings =
        .ok "CREATE TABLE `t` (`v` INT DEFAULT 'x'::INT)" := by
    decide +kernel
  exact ⟨rfl, hrender, supports_of_render_iff rfl hrender⟩

/-- The value that a column starts with brings in a cast that MySQL lacks. -/
theorem Statement.prints_doubleColonCast_createByCast (settings : Settings) :
    createByCast.Prints settings .doubleColonCast := by
  have hcast : (Node.cast .stringToInt).Uses settings .doubleColonCast :=
    ⟨_, .here, rfl, rfl⟩
  have hvalue : (Node.expr (.cast .stringToInt)).Uses settings .doubleColonCast :=
    hcast.of_mem_children settings (by simp [Node.children, Node.ofExpr])
  refine Or.inr ⟨_, List.mem_cons_self, hvalue.of_mem_children settings ?_⟩
  simp [Node.children, Node.ofElement, Node.expr?, Node.exprs]

/-- So a strict policy does print features that the dialect lacks. -/
theorem Statement.not_supports_of_render :
    ¬ ∀ (settings : Settings) (s : Statement) (text : String),
      settings.policy = .strict → s.render settings = .ok text →
        ∀ f, s.Prints settings f → settings.dialect.supports f = true := by
  intro h
  have hcast :=
    h (.strict .mysql) createByCast
      "CREATE TABLE `t` (`v` INT DEFAULT 'x'::INT)" rfl
    (by decide +kernel) .doubleColonCast (prints_doubleColonCast_createByCast _)
  simp [Settings.strict, Settings.ofDialect, Dialect.supports] at hcast

end SqlPrinter
