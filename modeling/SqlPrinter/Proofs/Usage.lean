/-
The features that a strict check collects, against those that the nodes of a
statement call for.  The check walks through queries and changes of rows with a
collector of its own for each kind of part; the two agree because each collector
takes what its node calls for and what the collectors of the parts take.
-/
import SqlPrinter.Proofs.Node.Induction
import SqlPrinter.Usage

namespace SqlPrinter.Node

variable (settings : Settings)

/-- The features that a node itself calls for, whatever its parts call for. -/
def Carries (f : Feature) : Node → Prop
  | expr (.binary _ op _) =>
      f = .ilike ∧ (op = .standard .ilike ∨ op = .standard .notIlike)
  | expr (.fullText _ _ _) => f = .fullTextMatch
  | cast c => f = .doubleColonCast ∧ c.form = .doubleColon
  | sortKey k => f = .nullsOrdering ∧ k.nulls ≠ none ∧ settings.emulateNulls = false
  | body (.combine _ op _) => f = .minus ∧ op = .minus
  | select s => f = .distinctOn ∧ s.distinctOn ≠ []
  | modifier .rollup => f = .groupByRollup
  | modifier .cube => f = .groupByCube
  | modifier (.groupingSets _) => f = .groupingSets
  | cte c => f = .cteMaterialized ∧ c.materialized ≠ none
  | statement (.insert i) =>
      f = .insertIgnore ∧ i.ignore = true ∨ f = .returning ∧ i.returning ≠ [] ∨
        f = (if settings.dialect.isMysqlFamily then .onDuplicateKey
          else .onConflict) ∧
          i.conflict ≠ none
  | statement (.update u) => f = .returning ∧ u.returning ≠ []
  | statement (.delete d) => f = .returning ∧ d.returning ≠ []
  | _ => False

/-- Some node within a node calls for a feature. -/
def Uses (n : Node) (f : Feature) : Prop :=
  ∃ m, Within m n ∧ m.Carries settings f

/-- A node uses what it carries itself and what its children use. -/
theorem uses_iff {n : Node} {f : Feature} :
    n.Uses settings f ↔ n.Carries settings f ∨
      ∃ m ∈ n.children, m.Uses settings f := by
  constructor
  · rintro ⟨m, hm, hf⟩
    cases hm with
    | here => exact Or.inl hf
    | step hk hm => exact Or.inr ⟨_, hk, m, hm, hf⟩
  · rintro (hf | ⟨k, hk, m, hm, hf⟩)
    · exact ⟨n, .here, hf⟩
    · exact ⟨m, .step hk hm, hf⟩

theorem Uses.of_mem_children {m n : Node} {f : Feature} (hm : m.Uses settings f)
    (hmn : m ∈ n.children) : n.Uses settings f :=
  (uses_iff settings).2 (Or.inr ⟨m, hmn, hm⟩)

/-- A named table calls for nothing and has no parts. -/
theorem not_uses_table_of_named {t : TableRef} {f : Feature}
    (ht : (t matches .named _ _ _) = true) : ¬ (table t).Uses settings f := by
  cases t with
  | named schema name rename =>
      rw [uses_iff]
      simp [Carries, children]
  | _ => simp at ht

/-- The features that the check finds in a part of a query or of a change. -/
def usage : Node → List Feature
  | expr e => Usage.ofExpr settings e
  | call c => Usage.ofCall settings c
  | aggregate a => Usage.ofAggregate settings a
  | cast c => Usage.ofCast settings c
  | extract x => Usage.ofExtract settings x
  | anyValue a => Usage.ofAnyValue settings a
  | window w => Usage.ofWindow settings w
  | bound b => Usage.ofBound settings b
  | sortKey k => Usage.ofOrder settings [k]
  | query q => Usage.ofQuery settings q
  | body b => Usage.ofBody settings b
  | select s => Usage.ofSelect settings s
  | item i => Usage.ofItems settings [i]
  | modifier m => Usage.ofModifiers settings [m]
  | table t => Usage.ofTable settings t
  | join j => Usage.ofJoins settings [j]
  | cte c => Usage.ofCtes settings [c]
  | assignment a => Usage.ofExpr settings a.value
  | dataType _ | columnDef _ | constraint _ | index _ | statement _ => []

/-- The check collects features from a node. -/
def isCollected : Node → Bool
  | dataType _ | columnDef _ | constraint _ | index _ | statement _ => false
  | _ => true

/-- The features that the check finds in some nodes. -/
def usages (ns : List Node) : List Feature :=
  ns.flatMap (usage settings)

@[simp] theorem usages_nil : usages settings [] = [] := rfl

@[simp] theorem usages_cons (n : Node) (ns : List Node) :
    usages settings (n :: ns) = n.usage settings ++ usages settings ns := rfl

/-- What two lists use is used by both together. -/
@[simp] theorem usages_append (ms ns : List Node) :
    usages settings (ms ++ ns) = usages settings ms ++ usages settings ns :=
  List.flatMap_append

@[simp] theorem usages_exprs (es : List Expr) :
    usages settings (exprs es) = Usage.ofExprs settings es := by
  induction es with
  | nil => rfl
  | cons e es ih => simpa [exprs, usage, Usage.ofExprs] using ih

@[simp] theorem usages_expr? (e : Option Expr) :
    usages settings (expr? e) = Usage.ofOptional settings e := by
  cases e <;> simp [expr?, Usage.ofExprs, Usage.ofOptional]

theorem usages_ofExprs_append (es fs : List Expr) :
    Usage.ofExprs settings (es ++ fs) = Usage.ofExprs settings es ++
      Usage.ofExprs settings fs := by
  induction es with
  | nil => rfl
  | cons e es ih => simp [Usage.ofExprs, ih]

@[simp] theorem usages_flatten (rows : List (List Expr)) :
    Usage.ofExprs settings rows.flatten = Usage.ofRows settings rows := by
  induction rows with
  | nil => rfl
  | cons row rows ih =>
      rw [List.flatten_cons, usages_ofExprs_append, ih, Usage.ofRows]

@[simp] theorem usages_branches (bs : List (Expr × Expr)) :
    usages settings (branches bs) = Usage.ofBranches settings bs := by
  induction bs with
  | nil => rfl
  | cons b bs ih => simpa [branches, usage, Usage.ofBranches] using ih

@[simp] theorem usages_over? (o : Option Over) :
    usages settings (over? o) = Usage.ofOver settings o := by
  rcases o with _ | _ | w <;> simp [over?, usage, Usage.ofOver]

@[simp] theorem usages_with? (o : Option With) :
    usages settings (with? o) = Usage.ofWith? settings o := by
  rcases o with _ | ⟨recursive, tables⟩
  · rfl
  · simp only [with?, Usage.ofWith?, Usage.ofWith]
    induction tables with
    | nil => rfl
    | cons c cs ih =>
        cases c
        simp [usage, Usage.ofCtes, ih]

@[simp] theorem usages_sortKeys (ks : List OrderItem) :
    usages settings (ks.map sortKey) = Usage.ofOrder settings ks := by
  induction ks with
  | nil => rfl
  | cons k ks ih => cases k; simp [usage, Usage.ofOrder, ih]

@[simp] theorem usages_items (is : List SelectItem) :
    usages settings (is.map item) = Usage.ofItems settings is := by
  induction is with
  | nil => rfl
  | cons i is ih => cases i <;> simp [usage, Usage.ofItems, ih]

@[simp] theorem usages_modifiers (ms : List GroupModifier) :
    usages settings (ms.map modifier) = Usage.ofModifiers settings ms := by
  induction ms with
  | nil => rfl
  | cons m ms ih => cases m <;> simp [usage, Usage.ofModifiers, ih]

@[simp] theorem usages_tables (ts : List TableRef) :
    usages settings (ts.map table) = Usage.ofTables settings ts := by
  induction ts with
  | nil => rfl
  | cons t ts ih => simp [usage, Usage.ofTables, ih]

@[simp] theorem usages_joins (js : List Join) :
    usages settings (js.map join) = Usage.ofJoins settings js := by
  induction js with
  | nil => rfl
  | cons j js ih => cases j; simp [usage, Usage.ofJoins, ih]

@[simp] theorem usages_windows (ws : List NamedWindow) :
    usages settings (ws.map (window ·.window)) = Usage.ofWindows settings ws := by
  induction ws with
  | nil => rfl
  | cons w ws ih => cases w; simp [usage, Usage.ofWindows, ih]

@[simp] theorem usages_assignments (as : List Assignment) :
    usages settings (as.map assignment) = Usage.ofAssignments settings as := by
  induction as with
  | nil => rfl
  | cons a as ih => simpa [usage, Usage.ofAssignments] using ih

/-- The features that the check finds in an INTO clause. -/
def intoUsage : Option SelectInto → List Feature
  | some { target := .vars vars, .. } => Usage.ofExprs settings vars
  | some _ | none => []

@[simp] theorem usages_into? (o : Option SelectInto) :
    usages settings (into? o) = intoUsage settings o := by
  rcases o with _ | ⟨position, vars | _ | _ | _⟩ <;> simp [into?, intoUsage]

/-- What the check collects from a SELECT, clause by clause. -/
theorem ofSelect_eq (s : Select) :
    Usage.ofSelect settings s =
      (if s.distinctOn.isEmpty then [] else [.distinctOn]) ++
        Usage.ofExprs settings s.distinctOn ++ Usage.ofItems settings s.items ++
        intoUsage settings s.into ++ Usage.ofTables settings s.tables ++
        Usage.ofJoins settings s.joins ++ Usage.ofOptional settings s.condition ++
        Usage.ofExprs settings s.groupBy ++
        Usage.ofModifiers settings s.groupModifiers ++
        Usage.ofOptional settings s.having ++ Usage.ofWindows settings s.windows ++
        Usage.ofOrder settings s.orderBy ++ Usage.ofOptional settings s.limit ++
        Usage.ofOptional settings s.offset := by
  rcases s with ⟨distinct, distinctOn, options, items,
    _ | ⟨position, _ | _ | _ | _⟩⟩ <;> rfl

theorem usage_select (s : Select) :
    Usage.ofSelect settings s =
      (if s.distinctOn.isEmpty then [] else [.distinctOn]) ++
        usages settings (ofSelect s) := by
  simp [ofSelect_eq, ofSelect]

theorem mem_usage_expr {e : Expr} {f : Feature} :
    f ∈ Usage.ofExpr settings e ↔ (expr e).Carries settings f ∨
      f ∈ usages settings (ofExpr e) := by
  cases e with
  | binary left op right => simp [Usage.ofExpr, Carries, ofExpr, usage, and_comm]
  | _ => simp [Usage.ofExpr, Carries, ofExpr, usage]

/-- The features that are collected from a node are those it carries and those
collected from its children. -/
theorem mem_usage_iff {n : Node} (hn : n.isCollected = true) {f : Feature} :
    f ∈ n.usage settings ↔ n.Carries settings f ∨
      f ∈ usages settings n.children := by
  cases n with
  | expr e => exact mem_usage_expr settings
  | select s =>
      simp only [usage, usage_select, Carries, children, List.mem_append]
      simp [and_comm]
  | call c =>
      rcases c with ⟨_, _ | _⟩ <;>
        simp [usage, Usage.ofCall, Carries, children, Usage.ofExprs]
  | aggregate a => cases a; simp [usage, Usage.ofAggregate, Carries, children]
  | cast c =>
      rcases c with ⟨subject, target, form, keyword, _ | ⟨operator, operand⟩,
        rename, collate⟩ <;>
        simp [usage, Usage.ofCast, Carries, children, Usage.ofExprs, and_comm]
  | extract x => cases x; simp [usage, Usage.ofExtract, Carries, children]
  | anyValue a =>
      rcases a with ⟨name, subject, _ | ⟨bound, other⟩, window⟩ <;>
        simp [usage, Usage.ofAnyValue, Carries, children, Usage.ofExprs]
  | window w =>
      rcases w with ⟨base, partitionBy, orderBy, _ | ⟨units, first, _ | last⟩⟩ <;>
        simp [usage, Usage.ofWindow, Carries, children, frame?]
  | bound b => cases b <;> simp [usage, Usage.ofBound, Carries, children]
  | sortKey k =>
      rcases k with ⟨key, direction, _ | nulls⟩ <;>
        simp [usage, Usage.ofOrder, Carries, children, and_comm]
  | query q =>
      rcases q with ⟨_ | ctes, body, orderBy, limit, offset⟩ <;>
        simp [usage, Usage.ofQuery, Carries, children, Usage.ofWith?]
  | body b => cases b <;> simp [usage, Usage.ofBody, Carries, children, and_comm]
  | item i => cases i <;> simp [usage, Usage.ofItems, Carries, children]
  | modifier m => cases m <;> simp [usage, Usage.ofModifiers, Carries, children]
  | table t => cases t <;> simp [usage, Usage.ofTable, Carries, children]
  | join j => cases j; simp [usage, Usage.ofJoins, Carries, children]
  | cte c =>
      rcases c with ⟨name, columns, _ | wish, query⟩ <;>
        simp [usage, Usage.ofCtes, Carries, children]
  | assignment a => simp [usage, Carries, children]
  | dataType _ | columnDef _ | constraint _ | index _ | statement _ =>
      simp [isCollected] at hn

/-! ## The whole of a part -/

theorem all_isCollected_map {α : Type} {g : α → Node}
    (hg : ∀ x, (g x).isCollected = true) (xs : List α) :
    (xs.map g).all isCollected = true := by
  simp [hg]

theorem all_isCollected_exprs (es : List Expr) :
    (exprs es).all isCollected = true :=
  all_isCollected_map (fun _ => rfl) es

theorem all_isCollected_expr? (e : Option Expr) :
    (expr? e).all isCollected = true :=
  all_isCollected_exprs e.toList

theorem all_isCollected_branches (bs : List (Expr × Expr)) :
    (branches bs).all isCollected = true := by
  simp [branches, List.all_flatMap, isCollected]

theorem all_isCollected_over? (o : Option Over) :
    (over? o).all isCollected = true := by
  rcases o with _ | _ | _ <;> rfl

theorem all_isCollected_frame? (o : Option WindowFrame) :
    (frame? o).all isCollected = true := by
  rcases o with _ | ⟨_, _, _ | _⟩ <;> rfl

theorem all_isCollected_with? (o : Option With) :
    (with? o).all isCollected = true := by
  rcases o with _ | ⟨recursive, tables⟩
  · rfl
  · exact all_isCollected_map (fun _ => rfl) tables

theorem all_isCollected_into? (o : Option SelectInto) :
    (into? o).all isCollected = true := by
  rcases o with _ | ⟨_, vars | _ | _ | _⟩
  case some.vars => exact all_isCollected_exprs vars
  all_goals rfl

/-- The parts of a part of a query are parts of a query again. -/
theorem all_isCollected_children {n : Node} (hn : n.isCollected = true) :
    n.children.all isCollected = true := by
  cases n with
  | dataType _ | columnDef _ | constraint _ | index _ | statement _ =>
      simp [isCollected] at hn
  | expr e =>
      cases e with
      | list items => exact all_isCollected_exprs items
      | case operand bs otherwise =>
          simp only [children, ofExpr, List.all_append, all_isCollected_expr?,
            all_isCollected_branches, Bool.and_self]
      | _ => rfl
  | bound b => cases b <;> rfl
  | body b => cases b <;> rfl
  | item i => cases i <;> rfl
  | modifier m =>
      cases m with
      | groupingSets sets => exact all_isCollected_exprs sets.flatten
      | _ => rfl
  | table t =>
      cases t with
      | values rows _ _ => exact all_isCollected_exprs rows.flatten
      | _ => rfl
  | extract _ | sortKey _ | cte _ | assignment _ => rfl
  | select s =>
      have hitems := all_isCollected_map (g := item) (fun _ => rfl) s.items
      have htables := all_isCollected_map (g := table) (fun _ => rfl) s.tables
      have hjoins := all_isCollected_map (g := join) (fun _ => rfl) s.joins
      have hmodifiers :=
        all_isCollected_map (g := modifier) (fun _ => rfl) s.groupModifiers
      have hwindows :=
        all_isCollected_map (g := (window ·.window)) (fun _ => rfl) s.windows
      have horder := all_isCollected_map (g := sortKey) (fun _ => rfl) s.orderBy
      simp only [children, ofSelect, List.all_append, all_isCollected_exprs,
        all_isCollected_expr?, all_isCollected_into?, hitems, htables, hjoins,
        hmodifiers, hwindows, horder, Bool.and_self]
  | _ =>
      simp only [children, List.all_append, List.all_cons, all_isCollected_exprs,
        all_isCollected_expr?, all_isCollected_over?, all_isCollected_frame?,
        all_isCollected_with?, all_isCollected_map (g := sortKey) (fun _ => rfl),
        isCollected, Bool.and_self]
/-- The check finds in a part of a query what some node in it calls for. -/
theorem mem_usage_iff_uses {n : Node} (hn : n.isCollected = true) {f : Feature} :
    f ∈ n.usage settings ↔ n.Uses settings f := by
  induction n using Node.induction with
  | step n ih =>
      rw [mem_usage_iff settings hn, uses_iff]
      have hcollected := List.all_eq_true.1 (all_isCollected_children hn)
      have hparts : f ∈ usages settings n.children ↔
          ∃ m ∈ n.children, m.Uses settings f := by
        simp only [usages, List.mem_flatMap]
        constructor
        · rintro ⟨m, hm, hf⟩
          exact ⟨m, hm, (ih m hm (hcollected m hm)).1 hf⟩
        · rintro ⟨m, hm, hf⟩
          exact ⟨m, hm, (ih m hm (hcollected m hm)).2 hf⟩
      rw [hparts]

end SqlPrinter.Node
