/-
Walks through a statement.  A walk that looks at all parts of a node meets every
node of a statement; a walk that looks at those parts only which a layout shows
meets the nodes that are printed.  What the second walk does not meet lies below
the few parts that a layout leaves out.
-/
import Mathlib.Algebra.Order.Group.Multiset
import Mathlib.Tactic.Abel
import SqlPrinter.Proofs.Node.Induction

namespace SqlPrinter

open Node

/-- A way to go through a statement: the parts of a node that are looked at. -/
structure Walk where
  parts : Node → List Node
  /-- They are together smaller than the node. -/
  weight_parts_lt : ∀ n, weight (parts n) < n.size

namespace Walk

variable (walk : Walk)

/-- A walk goes down to smaller nodes, which is why it ends. -/
theorem size_lt {m n : Node} (h : m ∈ walk.parts n) : m.size < n.size :=
  Nat.lt_of_le_of_lt (size_le_weight h) (walk.weight_parts_lt n)

/-- The nodes that a walk meets, each before its parts. -/
def nodes (n : Node) : List Node :=
  n :: (walk.parts n).attach.flatMap fun m => nodes m.1
termination_by n.size
decreasing_by exact walk.size_lt m.2

/-- A walk meets the node it starts from and what it meets from each part. -/
theorem nodes_eq (n : Node) :
    walk.nodes n = n :: (walk.parts n).flatMap walk.nodes := by
  rw [nodes, List.flatMap_subtype (g := walk.nodes) (fun _ _ => rfl),
    List.unattach_attach]

theorem self_mem_nodes (n : Node) : n ∈ walk.nodes n := by
  rw [nodes_eq]
  exact List.mem_cons_self

/-- What a walk meets from a part it meets from the whole. -/
theorem mem_nodes_of_mem_parts {k m n : Node} (hk : k ∈ walk.parts n)
    (hm : m ∈ walk.nodes k) : m ∈ walk.nodes n := by
  rw [nodes_eq]
  exact List.mem_cons_of_mem n (List.mem_flatMap.2 ⟨k, hk, hm⟩)

/-- What holds of a node whenever it holds of the parts that are looked at holds
of every node. -/
theorem induction {P : Node → Prop} (step : ∀ n, (∀ m ∈ walk.parts n, P m) → P n)
    (n : Node) : P n := by
  induction h : n.size using Nat.strongRecOn generalizing n with
  | _ k ih =>
      apply step
      intro m hm
      exact ih m.size (h ▸ walk.size_lt hm) m rfl

/-- Something is said of all nodes that a walk meets if it is said of the first
one and of those below its parts. -/
theorem forall_nodes_iff {P : Node → Prop} {n : Node} :
    (∀ m ∈ walk.nodes n, P m) ↔
      P n ∧ ∀ k ∈ walk.parts n, ∀ m ∈ walk.nodes k, P m := by
  rw [nodes_eq, List.forall_mem_cons]
  simp only [List.mem_flatMap, forall_exists_index, and_imp]
  exact and_congr_right fun _ =>
    ⟨fun h k hk m hm => h m k hk hm, fun h m k hk hm => h k hk m hm⟩

end Walk

namespace Node

/-! ## All parts -/

/-- The type of a cast, whose members are never printed. -/
def castTarget : Node → List Node
  | cast c => [dataType c.target]
  | _ => []

/-- All parts of a node. -/
def parts (n : Node) : List Node :=
  n.children ++ n.castTarget

/-! ## No part is a statement -/

/-- A node that is no statement. -/
def isPart : Node → Bool
  | statement _ => false
  | _ => true

theorem all_isPart_map {α : Type} {g : α → Node} (hg : ∀ x, (g x).isPart = true)
    (xs : List α) : (xs.map g).all isPart = true := by
  simp [hg]

@[simp] theorem all_isPart_exprs (es : List Expr) : (exprs es).all isPart = true :=
  all_isPart_map (fun _ => rfl) es

@[simp] theorem all_isPart_expr? (e : Option Expr) : (expr? e).all isPart = true :=
  all_isPart_exprs e.toList

@[simp] theorem all_isPart_over? (o : Option Over) :
    (over? o).all isPart = true := by
  rcases o with _ | _ | _ <;> rfl

@[simp] theorem all_isPart_with? (o : Option With) :
    (with? o).all isPart = true := by
  rcases o with _ | ⟨recursive, tables⟩
  · rfl
  · exact all_isPart_map (fun _ => rfl) tables

@[simp] theorem all_isPart_into? (o : Option SelectInto) :
    (into? o).all isPart = true := by
  rcases o with _ | ⟨_, vars | _ | _ | _⟩
  case some.vars => exact all_isPart_exprs vars
  all_goals rfl

@[simp] theorem all_isPart_conflict? (o : Option ConflictClause) :
    (conflict? o).all isPart = true := by
  rcases o with _ | ⟨_, _, _ | _ | _⟩ <;> simp [conflict?, isPart]

@[simp] theorem all_isPart_ofSource (s : RowSource) :
    (ofSource s).all isPart = true := by
  cases s <;> simp [ofSource, isPart]

theorem all_isPart_ofStatement (s : Statement) :
    (ofStatement s).all isPart = true := by
  cases s with
  | insert i =>
      have hreturning := all_isPart_map (g := item) (fun _ => rfl) i.returning
      simp only [ofStatement, List.all_cons, List.all_append, all_isPart_ofSource,
        all_isPart_conflict?, hreturning, isPart, Bool.and_self]
  | createTable t =>
      have helements :=
        all_isPart_map (g := ofElement) (fun e => by cases e <;> rfl) t.elements
      have hquery := all_isPart_map (g := query) (fun _ => rfl) t.query.toList
      simp only [ofStatement, List.all_append, helements, hquery, Bool.and_self]
  | alterTable t =>
      rw [ofStatement, List.all_flatMap, List.all_eq_true]
      intro action _
      cases action <;> rfl
  | _ => simp [ofStatement, isPart]

/-- No statement stands inside another node: all children are parts. -/
theorem all_isPart_children (n : Node) : n.children.all isPart = true := by
  cases n with
  | expr e => cases e <;> simp [ofExpr, branches, List.all_flatMap, isPart]
  | window w => rcases w with ⟨_, _, _, _ | ⟨_, _, _ | _⟩⟩ <;> simp [frame?, isPart]
  | select s => simp [ofSelect, isPart]
  | statement s => exact all_isPart_ofStatement s
  | bound b => cases b <;> rfl
  | body b => cases b <;> rfl
  | item i => cases i <;> rfl
  | modifier m => cases m <;> simp
  | table t => cases t <;> simp [isPart]
  | constraint c => cases c <;> rfl
  | _ => simp [isPart]

theorem isPart_of_mem_parts {m n : Node} (h : m ∈ n.parts) : m.isPart = true := by
  rcases List.mem_append.1 h with h | h
  · exact List.all_eq_true.1 n.all_isPart_children m h
  · cases n with
    | cast c =>
        obtain rfl := List.mem_singleton.1 h
        rfl
    | _ => contradiction

/-- The parts of a node weigh less than it. -/
theorem weight_parts_lt (n : Node) : weight n.parts < n.size := by
  cases n with
  | cast c =>
      rcases c with ⟨subject, target, form, keyword, _ | ⟨operator, operand⟩,
        rename, collate⟩ <;>
        simp [parts, castTarget, children, size, exprs] <;> omega
  | _ => simpa only [parts, castTarget, List.append_nil] using weight_children_lt _

/-! ## Parts that are left out -/

/-- The first modifier that has sets of keys. -/
def setsModifier? (ms : List GroupModifier) : Option GroupModifier :=
  ms.find? (· matches .groupingSets _)

/-- The parts of a GROUP BY clause that are printed: the first grouping sets
stand in place of the keys and of all other modifiers, and modifiers without
keys are nothing. -/
def shownGroups (s : Select) : List Node :=
  match setsModifier? s.groupModifiers with
  | some m => [modifier m]
  | none =>
      if s.groupBy.isEmpty then []
        else exprs s.groupBy ++ s.groupModifiers.map modifier

/-- The parts of a GROUP BY clause that are left out. -/
def hiddenGroups (s : Select) : List Node :=
  match setsModifier? s.groupModifiers with
  | some _ =>
      exprs s.groupBy ++
        (s.groupModifiers.eraseP (· matches .groupingSets _)).map modifier
  | none => if s.groupBy.isEmpty then s.groupModifiers.map modifier else []

/-- The parts of a node that its layout shows. -/
def shown : Node → List Node
  | call c =>
      exprs (c.args.getD []) ++ (if c.args.isNone then [] else expr? c.suffix) ++
        over? c.window
  | select s =>
      exprs s.distinctOn ++ s.items.map item ++ into? s.into ++
        s.tables.map table ++ (if s.tables.isEmpty then [] else s.joins.map join) ++
        expr? s.condition ++ shownGroups s ++ expr? s.having ++
        s.windows.map (window ·.window) ++ s.orderBy.map sortKey ++ expr? s.limit ++
        expr? s.offset
  | join j =>
      table j.table :: if j.kind.takesCondition then expr? j.condition else []
  | assignment a => if a.fromInserted then [] else [expr a.value]
  | statement (.createTable t) =>
      if t.like.isSome then [] else t.elements.map ofElement ++
        t.query.toList.map query
  | n => n.children

/-- The parts of a node that its layout leaves out, without an error: a suffix
where there are no arguments, joins where there is no table, keys beside grouping
sets, a condition where the kind of join takes none, the members of the type in a
cast, a value in the place of which the inserted one is used, and a definition
beside the table that it is copied from. -/
def hidden : Node → List Node
  | call c => if c.args.isNone then expr? c.suffix else []
  | cast c => [dataType c.target]
  | select s =>
      (if s.tables.isEmpty then s.joins.map join else []) ++ hiddenGroups s
  | join j => if j.kind.takesCondition then [] else expr? j.condition
  | assignment a => if a.fromInserted then [expr a.value] else []
  | statement (.createTable t) =>
      if t.like.isSome then t.elements.map ofElement ++
        t.query.toList.map query else []
  | _ => []

/-- The first GROUPING SETS and the other modifiers are all the modifiers, in
another order. -/
theorem perm_setsModifier? {ms : List GroupModifier} {m : GroupModifier}
    (h : setsModifier? ms = some m) :
    ms.Perm (m :: ms.eraseP (· matches .groupingSets _)) := by
  induction ms with
  | nil => contradiction
  | cons k ms ih =>
      cases k with
      | groupingSets sets =>
          obtain rfl : .groupingSets sets = m := Option.some.inj h
          exact .refl _
      | rollup => exact ((ih h).cons _).trans (.swap _ _ _)
      | cube => exact ((ih h).cons _).trans (.swap _ _ _)

/-- What a grouping shows and what it hides are together all it holds. -/
theorem perm_groups (s : Select) :
    (exprs s.groupBy ++ s.groupModifiers.map modifier).Perm
      (shownGroups s ++ hiddenGroups s) := by
  unfold shownGroups hiddenGroups
  cases hsets : setsModifier? s.groupModifiers with
  | some m =>
      have hmodifiers :=
        ((perm_setsModifier? hsets).map modifier).append_left (exprs s.groupBy)
      exact hmodifiers.trans List.perm_middle
  | none =>
      by_cases hkeys : s.groupBy.isEmpty
      · simp [exprs, List.isEmpty_iff.1 hkeys]
      · simp [hkeys]

/-- Two parts of a list are taken out of it. -/
theorem perm_without (first middle last : List Node)
    {xs xs₁ xs₂ ys ys₁ ys₂ : List Node} (hxs : xs.Perm (xs₁ ++ xs₂))
    (hys : ys.Perm (ys₁ ++ ys₂)) : (first ++ xs ++ middle ++ ys ++ last).Perm
      (first ++ xs₁ ++ middle ++ ys₁ ++ last ++ (xs₂ ++ ys₂)) := by
  rw [← Multiset.coe_eq_coe] at *
  simp only [← Multiset.coe_add] at *
  rw [hxs, hys]
  abel

/-- Every part is shown or left out. -/
theorem perm_parts (n : Node) : n.parts.Perm (n.shown ++ n.hidden) := by
  cases n with
  | call c =>
      simp only [parts, castTarget, children, shown, hidden]
      cases c.args with
      | none => simpa using List.perm_append_comm.append_left (exprs [])
      | some args => simp
  | cast c => exact .refl _
  | select s =>
      have hjoins : (s.joins.map join).Perm
          ((if s.tables.isEmpty then [] else s.joins.map join) ++
            (if s.tables.isEmpty then s.joins.map join else [])) := by
        split <;> simp
      simpa [parts, castTarget, ofSelect, shown, hidden] using
        perm_without
          (exprs s.distinctOn ++ s.items.map item ++ into? s.into ++
            s.tables.map table)
          (expr? s.condition)
          (expr? s.having ++ s.windows.map (window ·.window) ++
            s.orderBy.map sortKey ++ expr? s.limit ++ expr? s.offset)
          hjoins (perm_groups s)
  | join j =>
      simp only [parts, castTarget, children, shown, hidden]
      split <;> simp
  | assignment a =>
      simp only [parts, castTarget, children, shown, hidden]
      split <;> simp
  | statement s =>
      cases s with
      | createTable t =>
          simp only [parts, castTarget, children, ofStatement, shown, hidden]
          split <;> simp
      | _ => simp [parts, castTarget, shown, hidden]
  | _ => simp [parts, castTarget, shown, hidden]

/-- What is shown is there. -/
theorem mem_parts_of_mem_shown {m n : Node} (h : m ∈ n.shown) : m ∈ n.parts :=
  n.perm_parts.symm.subset (List.mem_append_left n.hidden h)

/-- What a layout shows of a node is among the parts of it. -/
theorem mem_children_of_mem_shown {m n : Node} (h : m ∈ n.shown) :
    m ∈ n.children := by
  cases n with
  | cast c => exact h
  | _ =>
      simpa only [parts, castTarget, List.append_nil] using mem_parts_of_mem_shown h

theorem weight_shown_lt (n : Node) : weight n.shown < n.size := by
  have hparts : weight n.parts = weight n.shown + weight n.hidden := by
    rw [← weight_append]
    exact ((perm_parts n).map size).sum_nat
  have hlt := n.weight_parts_lt
  omega

end Node

/-! ## Two walks -/

namespace Walk

open scoped List

/-- The walk through everything. -/
def whole : Walk :=
  ⟨Node.parts, Node.weight_parts_lt⟩

/-- The walk through what is printed. -/
def printed : Walk :=
  ⟨Node.shown, Node.weight_shown_lt⟩

/-- What is said of all texts in a node is said of those that are printed. -/
theorem forall_printed_leaves {ok : Leaf → Prop} {n : Node} (h : n.Every ok) :
    ∀ m ∈ printed.nodes n, ∀ l ∈ m.leaves, ok l := by
  induction n using printed.induction with
  | step n ih =>
      rw [forall_nodes_iff]
      exact ⟨fun l hl => h.leaf hl,
        fun k hk => ih k hk (h.child (mem_children_of_mem_shown hk))⟩

/-- The parts that are left out somewhere in a node. -/
def lost (n : Node) : List Node :=
  (printed.nodes n).flatMap (·.hidden)

/-- What is lost from a node is what it hides and what is lost from the parts it
shows. -/
theorem lost_eq (n : Node) : lost n = n.hidden ++ n.shown.flatMap lost := by
  rw [lost, nodes_eq, List.flatMap_cons, List.flatMap_assoc]
  rfl

/-- Every node is printed or stands in a part that is left out. -/
theorem perm_nodes (n : Node) :
    (whole.nodes n).Perm (printed.nodes n ++ (lost n).flatMap whole.nodes) := by
  induction n using printed.induction with
  | step n ih =>
      have hshown : (n.shown.flatMap whole.nodes).Perm
          (n.shown.flatMap printed.nodes ++
            (n.shown.flatMap lost).flatMap whole.nodes) := by
        rw [List.flatMap_assoc]
        exact (List.Perm.flatMap_left _ ih).trans
          (List.flatMap_append_perm _ _ _).symm
      have hparts : (n.parts.flatMap whole.nodes).Perm
          (n.shown.flatMap printed.nodes ++ (lost n).flatMap whole.nodes) := by
        rw [lost_eq, List.flatMap_append]
        calc n.parts.flatMap whole.nodes
            ~ (n.shown ++ n.hidden).flatMap whole.nodes :=
              n.perm_parts.flatMap_right _
          _ = n.shown.flatMap whole.nodes ++ n.hidden.flatMap whole.nodes := by
              rw [List.flatMap_append]
          _ ~ n.shown.flatMap printed.nodes ++
            (n.shown.flatMap lost).flatMap whole.nodes ++
                n.hidden.flatMap whole.nodes := hshown.append_right _
          _ ~ _ := by
              rw [List.append_assoc]
              exact List.perm_append_comm.append_left _
      rw [whole.nodes_eq, printed.nodes_eq]
      exact hparts.cons n

end Walk

end SqlPrinter
