/-
Induction over the nodes of a statement.  The parts of a node are together
smaller than the node, counted without the constructors of `Node`.
-/
import Mathlib.Algebra.GroupWithZero.Nat
import Mathlib.Algebra.Order.Group.Nat
import SqlPrinter.Proofs.Node

namespace SqlPrinter.Node

/-- The size of what stands in a node. -/
noncomputable def size (n : Node) : Nat :=
  sizeOf n - 1

/-- The sizes of some nodes together. -/
noncomputable def weight (ns : List Node) : Nat :=
  (ns.map size).sum

@[simp] theorem weight_nil : weight [] = 0 := rfl

@[simp] theorem weight_cons (n : Node) (ns : List Node) :
    weight (n :: ns) = size n + weight ns := by
  simp [weight]

@[simp] theorem weight_append (ms ns : List Node) :
    weight (ms ++ ns) = weight ms + weight ns := by
  simp [weight]

/-- A node weighs no more than a list it is in. -/
theorem size_le_weight {m : Node} {ns : List Node} (h : m ∈ ns) :
    size m ≤ weight ns := by
  obtain ⟨before, after, rfl⟩ := List.append_of_mem h
  rw [weight_append, weight_cons]
  omega

/-- The nodes made of the members of a list are together smaller than the list. -/
theorem weight_map_lt {α : Type} [SizeOf α] {g : α → Node}
    (hg : ∀ x, size (g x) ≤ sizeOf x) (xs : List α) :
    weight (xs.map g) < sizeOf xs := by
  induction xs with
  | nil => simp
  | cons x xs ih =>
      have hx := hg x
      simp only [List.map_cons, weight_cons, List.cons.sizeOf_spec]
      omega

theorem weight_map_toList_lt {α : Type} [SizeOf α] {g : α → Node}
    (hg : ∀ x, size (g x) ≤ sizeOf x) (o : Option α) :
    weight (o.toList.map g) < sizeOf o := by
  cases o with
  | none => simp
  | some x =>
      have hx := hg x
      simp
      omega

theorem weight_exprs_lt (es : List Expr) : weight (exprs es) < sizeOf es :=
  weight_map_lt (by simp [size]) es

theorem weight_expr?_lt (e : Option Expr) : weight (expr? e) < sizeOf e :=
  weight_map_toList_lt (by simp [size]) e

theorem weight_sortKeys_lt (ks : List OrderItem) :
    weight (ks.map sortKey) < sizeOf ks :=
  weight_map_lt (by simp [size]) ks

theorem weight_items_lt (is : List SelectItem) : weight (is.map item) < sizeOf is :=
  weight_map_lt (by simp [size]) is

theorem weight_tables_lt (ts : List TableRef) : weight (ts.map table) < sizeOf ts :=
  weight_map_lt (by simp [size]) ts

theorem weight_joins_lt (js : List Join) : weight (js.map join) < sizeOf js :=
  weight_map_lt (by simp [size]) js

theorem weight_assignments_lt (as : List Assignment) :
    weight (as.map assignment) < sizeOf as :=
  weight_map_lt (by simp [size]) as

/-- The values of some rows weigh less than the rows. -/
theorem weight_rows_lt (rows : List (List Expr)) :
    weight (exprs rows.flatten) < sizeOf rows := by
  induction rows with
  | nil => simp [exprs]
  | cons row rows ih =>
      have hrow := weight_exprs_lt row
      simp only [exprs, List.flatten_cons, List.map_append, weight_append,
        List.cons.sizeOf_spec] at *
      omega

theorem weight_branches_lt (bs : List (Expr × Expr)) :
    weight (branches bs) < sizeOf bs := by
  induction bs with
  | nil => simp [branches]
  | cons b bs ih =>
      cases b
      simp [branches, size] at *
      omega

theorem weight_over?_lt (o : Option Over) : weight (over? o) < sizeOf o := by
  rcases o with _ | _ | w
  · simp [over?]
  · simp [over?]
  · simp [over?, size]
    omega

theorem weight_frame?_lt (o : Option WindowFrame) :
    weight (frame? o) < sizeOf o := by
  rcases o with _ | ⟨units, first, last⟩
  · simp [frame?]
  · have hlast := weight_map_toList_lt (g := bound) (by simp [size]) last
    simp [frame?, size]
    omega

theorem weight_with?_lt (o : Option With) : weight (with? o) < sizeOf o := by
  rcases o with _ | ⟨recursive, tables⟩
  · simp [with?]
  · have hlt := weight_map_lt (g := cte) (by simp [size]) tables
    simp [with?]
    omega

theorem weight_into?_lt (o : Option SelectInto) : weight (into? o) < sizeOf o := by
  rcases o with _ | ⟨position, vars | _ | _ | _⟩
  case some.vars =>
      have hvars := weight_exprs_lt vars
      simp [into?]
      omega
  all_goals simp [into?]

theorem weight_windows_lt (ws : List NamedWindow) :
    weight (ws.map (window ·.window)) < sizeOf ws :=
  weight_map_lt (fun w => by cases w; simp [size]) ws

/-- The children of an expression weigh less than it, so that induction on the size
reaches them. -/
theorem weight_ofExpr_lt (e : Expr) : weight (ofExpr e) < sizeOf e := by
  cases e with
  | list items =>
      have hitems := weight_exprs_lt items
      simp [ofExpr]
      omega
  | case operand bs otherwise =>
      have hoperand := weight_expr?_lt operand
      have hbranches := weight_branches_lt bs
      have hotherwise := weight_expr?_lt otherwise
      simp [ofExpr]
      omega
  | _ => simp [ofExpr, size] <;> omega

/-- The children of a SELECT weigh less than it. -/
theorem weight_ofSelect_lt (s : Select) :
   weight (ofSelect s) < sizeOf s := by
  cases s with
  | mk distinct distinctOn options items into tables joins condition groupBy
    groupModifiers having windows orderBy limit offset locking =>
  have hdistinct := weight_exprs_lt distinctOn
  have hitems := weight_items_lt items
  have hinto := weight_into?_lt into
  have htables := weight_tables_lt tables
  have hjoins := weight_joins_lt joins
  have hcondition := weight_expr?_lt condition
  have hkeys := weight_exprs_lt groupBy
  have hmodifiers := weight_map_lt (g := modifier) (by simp [size]) groupModifiers
  have hhaving := weight_expr?_lt having
  have hwindows := weight_windows_lt windows
  have horder := weight_sortKeys_lt orderBy
  have hlimit := weight_expr?_lt limit
  have hoffset := weight_expr?_lt offset
  simp [ofSelect]
  omega

theorem weight_ofSource_lt (s : RowSource) : weight (ofSource s) < sizeOf s := by
  cases s with
  | values rows =>
      have hrows := weight_rows_lt rows
      simp [ofSource]
      omega
  | query q => simp [ofSource, size]
  | assignments as =>
      have has := weight_assignments_lt as
      simp [ofSource]
      omega

theorem weight_conflict?_lt (o : Option ConflictClause) :
    weight (conflict? o) < sizeOf o := by
  rcases o with _ | ⟨columns, constraint, _ | _ | ⟨as, condition⟩⟩
  case some.some.doUpdate =>
      have has := weight_assignments_lt as
      have hcondition := weight_expr?_lt condition
      simp [conflict?]
      omega
  all_goals simp [conflict?]

theorem weight_ofAction_lt (a : AlterAction) : weight (ofAction a) < sizeOf a := by
  cases a <;> simp [ofAction, size]

theorem weight_actions_lt (as : List AlterAction) :
    weight (as.flatMap ofAction) < sizeOf as := by
  induction as with
  | nil => simp
  | cons a as ih =>
      have ha := weight_ofAction_lt a
      simp only [List.flatMap_cons, weight_append, List.cons.sizeOf_spec]
      omega

/-- The children of a statement weigh less than it. -/
theorem weight_ofStatement_lt (s : Statement) :
    weight (ofStatement s) < sizeOf s := by
  cases s with
  | insert i =>
      cases i with
      | mk replace ignore into table columns source conflict returning =>
      have hsource := weight_ofSource_lt source
      have hconflict := weight_conflict?_lt conflict
      have hreturning := weight_items_lt returning
      simp [ofStatement, size]
      omega
  | update u =>
      cases u with
      | mk ctes fallback table joins assignments tables condition orderBy limit
          returning =>
      have hctes := weight_with?_lt ctes
      have hjoins := weight_joins_lt joins
      have hassignments := weight_assignments_lt assignments
      have htables := weight_tables_lt tables
      have hcondition := weight_expr?_lt condition
      have horder := weight_sortKeys_lt orderBy
      have hlimit := weight_expr?_lt limit
      have hreturning := weight_items_lt returning
      simp [ofStatement, size]
      omega
  | delete d =>
      cases d with
      | mk ctes targets tables joins usingTables condition orderBy limit
          returning =>
      have hctes := weight_with?_lt ctes
      have htables := weight_tables_lt tables
      have hjoins := weight_joins_lt joins
      have husing := weight_tables_lt usingTables
      have hcondition := weight_expr?_lt condition
      have horder := weight_sortKeys_lt orderBy
      have hlimit := weight_expr?_lt limit
      have hreturning := weight_items_lt returning
      simp [ofStatement]
      omega
  | createTable t =>
      cases t with
      | mk temporary ifNotExists name elements options q like =>
      have helements := weight_map_lt (g := ofElement)
        (by intro e; cases e <;> simp [ofElement, size]) elements
      have hquery := weight_map_toList_lt (g := query) (by simp [size]) q
      simp [ofStatement]
      omega
  | createView v => cases v; simp [ofStatement, size]; omega
  | alterTable t =>
      have hactions := weight_actions_lt t.actions
      cases t
      simp [ofStatement] at *
      omega
  | attach a => cases a; simp [ofStatement, size]; omega
  | _ => simp [ofStatement, size]

theorem weight_call_lt (c : FunctionCall) :
    weight (call c).children < sizeOf c := by
  rcases c with ⟨name, args, argsParentheses, separator, parentheses, window,
    collate, suffix⟩
  have hargs : weight (exprs (args.getD [])) < sizeOf args := by
    cases args with
    | none => simp [exprs]
    | some es =>
        have hes := weight_exprs_lt es
        simp
        omega
  have hsuffix := weight_expr?_lt suffix
  have hwindow := weight_over?_lt window
  simp [children]
  omega

theorem weight_aggregate_lt (a : Aggregate) :
    weight (aggregate a).children < sizeOf a := by
  rcases a with ⟨name, distinct, args, orderBy, separator, filter, window⟩
  have hargs := weight_exprs_lt args
  have horder := weight_sortKeys_lt orderBy
  have hseparator := weight_expr?_lt separator
  have hfilter := weight_expr?_lt filter
  have hwindow := weight_over?_lt window
  simp [children]
  omega

theorem weight_dataType_lt (t : DataType) :
    weight (dataType t).children < sizeOf t := by
  rcases t with ⟨name, length, scale, parentheses, quoted, suffix, array, values⟩
  have hvalues := weight_exprs_lt values
  simp [children]
  omega

theorem weight_cast_lt (c : Cast) : weight (cast c).children < sizeOf c := by
  rcases c with ⟨subject, target, form, keyword, _ | ⟨operator, operand⟩, rename,
    collate⟩ <;>
    simp [children, size, exprs] <;> omega

theorem weight_anyValue_lt (a : AnyValue) :
    weight (anyValue a).children < sizeOf a := by
  rcases a with ⟨name, subject, having, window⟩
  have hwindow := weight_over?_lt window
  rcases having with _ | ⟨bound, other⟩ <;> simp [children, size, exprs] <;> omega

theorem weight_window_lt (w : WindowSpec) :
    weight (window w).children < sizeOf w := by
  rcases w with ⟨base, partitionBy, orderBy, frame⟩
  have hpartition := weight_exprs_lt partitionBy
  have horder := weight_sortKeys_lt orderBy
  have hframe := weight_frame?_lt frame
  simp [children]
  omega

theorem weight_query_lt (q : Query) : weight (query q).children < sizeOf q := by
  rcases q with ⟨ctes, body, orderBy, limit, offset⟩
  have hctes := weight_with?_lt ctes
  have horder := weight_sortKeys_lt orderBy
  have hlimit := weight_expr?_lt limit
  have hoffset := weight_expr?_lt offset
  simp [children, size]
  omega

theorem weight_modifier_lt (m : GroupModifier) :
    weight (modifier m).children < sizeOf m := by
  cases m with
  | groupingSets sets =>
      have hsets := weight_rows_lt sets
      simp [children]
      omega
  | _ => simp [children]

theorem weight_table_lt (t : TableRef) : weight (table t).children < sizeOf t := by
  cases t with
  | values rows rowKeyword rename =>
      have hrows := weight_rows_lt rows
      simp [children]
      omega
  | _ => simp [children, size] <;> omega

theorem weight_join_lt (j : Join) : weight (join j).children < sizeOf j := by
  rcases j with ⟨kind, table, condition, columns⟩
  have hcondition := weight_expr?_lt condition
  simp [children, size]
  omega

theorem weight_columnDef_lt (c : ColumnDef) :
    weight (columnDef c).children < sizeOf c := by
  rcases c with ⟨name, type, options⟩
  have htype := weight_map_toList_lt (g := dataType) (by simp [size]) type
  have hdefault := weight_expr?_lt options.default
  have hupdate := weight_expr?_lt options.onUpdate
  have hcheck := weight_expr?_lt options.check
  cases options
  simp [children] at *
  omega

/-- The parts of a node are together smaller than the node. -/
theorem weight_children_lt (n : Node) : weight n.children < size n := by
  cases n with
  | expr e => simpa [children, size] using weight_ofExpr_lt e
  | call c => simpa [size] using weight_call_lt c
  | aggregate a => simpa [size] using weight_aggregate_lt a
  | dataType t => simpa [size] using weight_dataType_lt t
  | cast c => simpa [size] using weight_cast_lt c
  | extract x => cases x; simp [children, size]
  | anyValue a => simpa [size] using weight_anyValue_lt a
  | window w => simpa [size] using weight_window_lt w
  | bound b => cases b <;> simp [children, size]
  | sortKey k => cases k; simp [children, size]; omega
  | query q => simpa [size] using weight_query_lt q
  | body b => cases b <;> simp [children, size]; omega
  | select s => simpa [children, size] using weight_ofSelect_lt s
  | item i => cases i <;> simp [children, size]; omega
  | modifier m => simpa [size] using weight_modifier_lt m
  | table t => simpa [size] using weight_table_lt t
  | join j => simpa [size] using weight_join_lt j
  | cte c => cases c; simp [children, size]
  | assignment a =>
      have hvalue : sizeOf a.value < sizeOf a := by
        cases a
        simp only [Assignment.mk.sizeOf_spec]
        omega
      simpa [children, size] using hvalue
  | columnDef c => simpa [size] using weight_columnDef_lt c
  | constraint c => cases c <;> simp [children, size]
  | index i => cases i; simp [children, size]
  | statement s => simpa [children, size] using weight_ofStatement_lt s

/-- What holds of a node whenever it holds of the parts of the node holds of
every node. -/
theorem induction {P : Node → Prop}
    (step : ∀ n : Node, (∀ m ∈ n.children, P m) → P n) (n : Node) : P n := by
  induction h : size n using Nat.strongRecOn generalizing n with
  | _ k ih =>
      apply step
      intro m hm
      have hlt : size m < size n :=
        Nat.lt_of_le_of_lt (size_le_weight hm) (weight_children_lt n)
      exact ih (size m) (h ▸ hlt) m rfl

end SqlPrinter.Node
