/-
A retouched statement is refused for the same reason or printed as the same text,
if this is so for each of its sort keys.
-/
import SqlPrinter.Proofs.Retouch.Statement
import SqlPrinter.Proofs.Strict

namespace SqlPrinter.Retouch

open Node (Within exists_mem_flatMap)

variable {σ τ : Settings} {ρ : Retouch}

/-! ## Layouts -/

/-- A node looks as it did if each sort key in it does, given that what is sorted by
does.  A bound parameter calls for one placeholder style. -/
theorem keeps (h : σ.Agree τ) {n : Node}
    (hkeys : ∀ k, Within (.sortKey k) n → ρ.Keeps σ τ (.expr k.key) →
      ρ.Keeps σ τ (.sortKey k))
    (hbind : Within (.expr (.parameter .bind)) n →
      σ.placeholders = τ.placeholders) : ρ.Keeps σ τ n := by
  induction n using Node.induction with
  | step n ih =>
      have hparts (m : Node) (hm : m ∈ n.children) : ρ.Keeps σ τ m :=
        ih m hm (fun k hk => hkeys k (.step hm hk)) fun hb => hbind (.step hm hb)
      cases n with
      | expr e =>
          refine keeps_expr h hparts fun he => hbind ?_
          subst he
          exact .here
      | sortKey k => exact hkeys k .here (hparts _ List.mem_cons_self)
      | call c => exact keeps_call h hparts
      | aggregate a => exact keeps_aggregate h hparts
      | dataType t => exact keeps_dataType h hparts
      | cast c => exact keeps_cast h hparts
      | extract x => exact keeps_extract h hparts
      | anyValue a => exact keeps_anyValue h hparts
      | window w => exact keeps_window hparts
      | bound b => exact keeps_bound hparts
      | query q => exact keeps_query h hparts
      | body b => exact keeps_body hparts
      | select s => exact keeps_select h hparts
      | item i => exact keeps_item h hparts
      | modifier m => exact keeps_modifier hparts
      | table t => exact keeps_table h hparts
      | join j => exact keeps_join h hparts
      | cte c => exact keeps_cte h hparts
      | assignment a => exact keeps_assignment h hparts
      | columnDef c => exact keeps_columnDef h hparts
      | constraint c => exact keeps_constraint h hparts
      | index i => exact keeps_index h i
      | statement s => exact keeps_statement h hparts

/-! ## Features -/

section Parts

variable (ρ)

/-- Retouching the nodes of a list is retouching the list. -/
theorem flatMap_nodes {α : Type} {g : α → Node} {r : α → α}
    (hr : ∀ a, ρ.nodes (g a) = [g (r a)]) (as : List α) :
    (as.map g).flatMap ρ.nodes = (as.map r).map g := by
  induction as with
  | nil => rfl
  | cons a as ih => simp [hr, ih]

@[simp] theorem nodes_exprs (es : List Expr) :
    (Node.exprs es).flatMap ρ.nodes = Node.exprs (es.map ρ.expr) :=
  flatMap_nodes ρ (fun _ => rfl) es

@[simp] theorem nodes_expr? (o : Option Expr) :
    (Node.expr? o).flatMap ρ.nodes = Node.expr? (o.map ρ.expr) := by
  cases o <;> rfl

@[simp] theorem nodes_branches (bs : List (Expr × Expr)) :
    (Node.branches bs).flatMap ρ.nodes =
      Node.branches (bs.map fun b => (ρ.expr b.1, ρ.expr b.2)) := by
  induction bs with
  | nil => rfl
  | cons b bs ih =>
      simp only [Node.branches] at ih
      simp [Node.branches, ih, nodes]

@[simp] theorem nodes_over? (o : Option Over) :
    (Node.over? o).flatMap ρ.nodes = Node.over? (ρ.over? o) := by
  rcases o with _ | _ | w <;> simp [Node.over?, over?, nodes]

@[simp] theorem nodes_frame? (o : Option WindowFrame) :
    (Node.frame? o).flatMap ρ.nodes = Node.frame? (ρ.frame? o) := by
  rcases o with _ | ⟨units, first, _ | last⟩ <;> simp [Node.frame?, frame?, nodes]

/-- A sort key may become several, and they stand in its place. -/
@[simp] theorem nodes_sortKeys (ks : List OrderItem) :
    (ks.map Node.sortKey).flatMap ρ.nodes =
      (ks.flatMap ρ.sortKey).map Node.sortKey := by
  induction ks with
  | nil => rfl
  | cons k ks ih => simp [nodes, ih]

@[simp] theorem nodes_items (is : List SelectItem) :
    (is.map Node.item).flatMap ρ.nodes = (is.map ρ.item).map Node.item :=
  flatMap_nodes ρ (fun _ => rfl) is

@[simp] theorem nodes_tables (ts : List TableRef) :
    (ts.map Node.table).flatMap ρ.nodes = (ts.map ρ.table).map Node.table :=
  flatMap_nodes ρ (fun _ => rfl) ts

@[simp] theorem nodes_joins (js : List Join) :
    (js.map Node.join).flatMap ρ.nodes = (js.map ρ.join).map Node.join :=
  flatMap_nodes ρ (fun _ => rfl) js

@[simp] theorem nodes_modifiers (ms : List GroupModifier) :
    (ms.map Node.modifier).flatMap ρ.nodes =
      (ms.map ρ.modifier).map Node.modifier :=
  flatMap_nodes ρ (fun _ => rfl) ms

@[simp] theorem nodes_windows (ws : List NamedWindow) :
    (ws.map (Node.window ·.window)).flatMap ρ.nodes =
      (ws.map ρ.namedWindow).map (Node.window ·.window) :=
  flatMap_nodes ρ (fun _ => rfl) ws

@[simp] theorem nodes_assignments (as : List Assignment) :
    (as.map Node.assignment).flatMap ρ.nodes =
      (as.map ρ.assignment).map Node.assignment :=
  flatMap_nodes ρ (fun _ => rfl) as

@[simp] theorem nodes_with? (o : Option With) :
    (Node.with? o).flatMap ρ.nodes = Node.with? (ρ.with? o) := by
  rcases o with _ | ⟨recursive, tables⟩
  · rfl
  · simp [Node.with?, with?, flatMap_nodes ρ (g := .cte) (fun _ => rfl)]

@[simp] theorem nodes_into? (o : Option SelectInto) :
    (Node.into? o).flatMap ρ.nodes = Node.into? (ρ.into? o) := by
  rcases o with _ | ⟨position, _ | _ | _ | _⟩ <;> simp [Node.into?, into?, into]

@[simp] theorem nodes_source (s : RowSource) :
    (Node.ofSource s).flatMap ρ.nodes = Node.ofSource (ρ.source s) := by
  cases s <;> simp [Node.ofSource, source, nodes]

@[simp] theorem nodes_conflict? (o : Option ConflictClause) :
    (Node.conflict? o).flatMap ρ.nodes = Node.conflict? (o.map ρ.conflict) := by
  rcases o with _ | ⟨columns, constraint, _ | _ | _⟩ <;>
    simp [Node.conflict?, conflict, conflictAction]

@[simp] theorem nodes_elements (es : List TableElement) :
    (es.map Node.ofElement).flatMap ρ.nodes =
      (es.map ρ.element).map Node.ofElement :=
  flatMap_nodes ρ (fun e => by cases e <;> rfl) es

@[simp] theorem nodes_actions (as : List AlterAction) :
    (as.flatMap Node.ofAction).flatMap ρ.nodes =
      (as.map ρ.action).flatMap Node.ofAction := by
  have haction (a : AlterAction) :
      (Node.ofAction a).flatMap ρ.nodes = Node.ofAction (ρ.action a) := by
    cases a <;> simp [Node.ofAction, action, nodes]
  rw [List.flatMap_assoc, List.flatMap_map]
  exact List.flatMap_congr fun a _ => haction a

/-- The parts of what a node is retouched to are what its parts are retouched to.
What stands in the place of a sort key may have other parts. -/
theorem children_nodes {n : Node} (hn : ∀ k, n ≠ .sortKey k) :
    (ρ.nodes n).flatMap Node.children = n.children.flatMap ρ.nodes := by
  cases n with
  | sortKey k => exact absurd rfl (hn k)
  | expr e => cases e <;> simp [Node.ofExpr, expr, nodes]
  | call c => rcases c with ⟨_, _ | args⟩ <;> simp [call, nodes]
  | aggregate a => cases a; simp [aggregate, nodes]
  | dataType t => cases t; simp [dataType, nodes]
  | cast c =>
      rcases c with ⟨_, _, _, _, _ | ⟨_, _⟩⟩ <;> simp [cast, castTail, nodes]
  | extract x => cases x; simp [extract, nodes]
  | anyValue a =>
      rcases a with ⟨_, _, _ | ⟨_, _⟩⟩ <;> simp [anyValue, anyValueHaving, nodes]
  | window w => cases w; simp [window, nodes]
  | bound b => cases b <;> simp [bound, nodes]
  | query q => cases q; simp [query, nodes]
  | body b => cases b <;> simp [body, nodes]
  | select s => cases s; simp [select, Node.ofSelect, nodes]
  | item i => cases i <;> simp [item, nodes]
  | modifier m => cases m <;> simp [modifier, nodes, List.map_flatten]
  | table t => cases t <;> simp [table, nodes, List.map_flatten]
  | join j => cases j; simp [join, nodes]
  | cte c => cases c; simp [cte, nodes]
  | assignment a => cases a; simp [assignment, nodes]
  | columnDef c => rcases c with ⟨_, _ | _⟩ <;> simp [columnDef, nodes]
  | constraint c => cases c <;> simp [constraint, nodes]
  | index i => simp [nodes]
  | statement s =>
      cases s with
      | createTable t =>
          rcases t with ⟨_, _, _, _, _, _ | _⟩ <;>
            simp [statement, Node.ofStatement, nodes]
      | _ => simp [statement, Node.ofStatement, nodes, insert, update, delete]

/-- The parts that the check looks into are retouched. -/
theorem checked_statement (s : Statement) :
    (ρ.statement s).checked = s.checked.flatMap ρ.nodes := by
  cases s with
  | createTable t =>
      rcases t with ⟨_, _, _, _, _, _ | _⟩ <;>
        simp [statement, Statement.checked, nodes]
  | _ =>
      simp [statement, Statement.checked, Node.ofStatement, nodes, insert,
        update, delete]

end Parts

/-- What a node itself calls for stays. -/
theorem carries_nodes (hdialect : σ.dialect = τ.dialect) {n : Node}
    (hn : ∀ k, n ≠ .sortKey k) {f : Feature} :
    (∃ m ∈ ρ.nodes n, m.Carries σ f) ↔ n.Carries τ f := by
  cases n with
  | sortKey k => exact absurd rfl (hn k)
  | expr e => cases e <;> simp [nodes, expr, Node.Carries]
  | cast c => cases c; simp [nodes, cast, Node.Carries]
  | body b => cases b <;> simp [nodes, body, Node.Carries]
  | select s => cases s; simp [nodes, select, Node.Carries]
  | modifier m => cases m <;> simp [nodes, modifier, Node.Carries]
  | cte c => simp [nodes, cte, Node.Carries]
  | statement s =>
      cases s <;> simp [nodes, statement, insert, update, delete, Node.Carries,
        hdialect]
  | _ => simp [nodes, Node.Carries]

/-- Some nodes use a feature if one of them calls for it or a part of one uses
it. -/
theorem exists_uses_iff {settings : Settings} {f : Feature} (ns : List Node) :
    (∃ m ∈ ns, m.Uses settings f) ↔
      (∃ m ∈ ns, m.Carries settings f) ∨ ∃ k ∈ ns.flatMap Node.children,
        k.Uses settings f := by
  constructor
  · rintro ⟨m, hm, hf⟩
    rcases (Node.uses_iff settings).1 hf with hf | ⟨k, hk, hf⟩
    · exact Or.inl ⟨m, hm, hf⟩
    · exact Or.inr ⟨k, List.mem_flatMap.2 ⟨m, hm, hk⟩, hf⟩
  · rintro (⟨m, hm, hf⟩ | ⟨k, hk, hf⟩)
    · exact ⟨m, hm, (Node.uses_iff settings).2 (Or.inl hf)⟩
    · obtain ⟨m, hm, hk⟩ := List.mem_flatMap.1 hk
      exact ⟨m, hm, hf.of_mem_children settings hk⟩

/-- What a node is retouched to uses a feature under some settings just if the node
itself does under others. -/
def KeepsUse (ρ : Retouch) (σ τ : Settings) (f : Feature) (n : Node) : Prop :=
  (∃ m ∈ ρ.nodes n, m.Uses σ f) ↔ n.Uses τ f

/-- A node uses the features that it used if each sort key in it does, given that
what is sorted by does. -/
theorem keepsUse (hdialect : σ.dialect = τ.dialect) {f : Feature} {n : Node}
    (hkeys : ∀ k, Within (.sortKey k) n →
      ρ.KeepsUse σ τ f (.expr k.key) → ρ.KeepsUse σ τ f (.sortKey k)) :
    ρ.KeepsUse σ τ f n := by
  induction n using Node.induction with
  | step n ih =>
      have hparts (m : Node) (hm : m ∈ n.children) : ρ.KeepsUse σ τ f m :=
        ih m hm fun k hk => hkeys k (.step hm hk)
      by_cases hn : ∀ k, n ≠ .sortKey k
      · calc (∃ m ∈ ρ.nodes n, m.Uses σ f)
            ↔ (∃ m ∈ ρ.nodes n, m.Carries σ f) ∨
                ∃ k ∈ (ρ.nodes n).flatMap Node.children, k.Uses σ f :=
              exists_uses_iff (ρ.nodes n)
          _ ↔ n.Carries τ f ∨ ∃ k ∈ n.children.flatMap ρ.nodes, k.Uses σ f := by
              rw [carries_nodes hdialect hn, children_nodes ρ hn]
          _ ↔ n.Carries τ f ∨ ∃ m ∈ n.children, m.Uses τ f := by
              rw [exists_mem_flatMap]
              exact or_congr_right
                (exists_congr fun m => and_congr_right (hparts m))
          _ ↔ n.Uses τ f := (Node.uses_iff τ).symm
      · obtain ⟨k, rfl⟩ : ∃ k, n = .sortKey k := by simpa using hn
        exact hkeys k .here (hparts _ List.mem_cons_self)

/-! ## Sort keys that stay -/

section Key

variable {k : OrderItem}
  (hk : ρ.nodes (.sortKey k) = [.sortKey { k with key := ρ.expr k.key }])

include hk

/-- A sort key that stays one sort key looks as it did if nulls are put in order in
the same way. -/
theorem keeps_sortKey (h : σ.Agree τ)
    (hnulls : k.nulls ≠ none → σ.nullsByKey = τ.nullsByKey)
    (hkey : ρ.Keeps σ τ (.expr k.key)) : ρ.Keeps σ τ (.sortKey k) := by
  refine keeps_of_nodes hk ?_
  have hsubject := hkey.doc rfl
  simp only [Node.doc] at hsubject ⊢
  have hdirection : (Direction.doc? k.direction).effect σ =
      (Direction.doc? k.direction).effect τ :=
    h.effect (by simp)
  have hplain (nulls : Option NullsOrder) : (NullsOrder.doc? nulls).effect σ =
      (NullsOrder.doc? nulls).effect τ :=
    h.effect (by simp)
  unfold Layout.orderItem
  cases hk : k.nulls with
  | none => simp [hsubject, hdirection, hplain]
  | some nulls =>
      rw [hnulls (by simp [hk]), h.dialect]
      cases τ.nullsByKey <;> cases nulls <;> simp [hsubject, hdirection, hplain]

/-- It uses a feature as it did if it calls for it as it did. -/
theorem keepsUse_sortKey {f : Feature}
    (hcarries : (Node.sortKey k).Carries σ f ↔ (Node.sortKey k).Carries τ f)
    (hkey : ρ.KeepsUse σ τ f (.expr k.key)) : ρ.KeepsUse σ τ f (.sortKey k) := by
  have hsubject : (Node.expr (ρ.expr k.key)).Uses σ f ↔
      (Node.expr k.key).Uses τ f := by
    simpa [KeepsUse, nodes] using hkey
  have hretouched : (Node.sortKey { k with key := ρ.expr k.key }).Carries σ f ↔
      (Node.sortKey k).Carries σ f := Iff.rfl
  unfold KeepsUse
  rw [hk]
  simp only [List.mem_singleton, exists_eq_left]
  rw [Node.uses_iff, Node.uses_iff, hretouched, hcarries]
  simpa [Node.children] using or_congr_right hsubject

end Key

/-- Each sort key stays one sort key. -/
def KeepsKeys (ρ : Retouch) : Prop :=
  ∀ k, ρ.keys k = [k]

section Keys

variable {k : OrderItem} (hρ : ρ.KeepsKeys)

include hρ

/-- Where keys are kept, a sort key becomes one sort key with a retouched
expression. -/
theorem KeepsKeys.nodes_sortKey :
    ρ.nodes (.sortKey k) = [.sortKey { k with key := ρ.expr k.key }] := by
  simp [nodes, sortKey, hρ _]

/-- Where keys are kept, a sort key is printed alike if its key is. -/
theorem KeepsKeys.keeps (h : σ.Agree τ)
    (hnulls : k.nulls ≠ none → σ.nullsByKey = τ.nullsByKey)
    (hkey : ρ.Keeps σ τ (.expr k.key)) : ρ.Keeps σ τ (.sortKey k) :=
  keeps_sortKey hρ.nodes_sortKey h hnulls hkey

/-- Where keys are kept, a sort key uses what it used if its key does. -/
theorem KeepsKeys.keepsUse {f : Feature}
    (hcarries : (Node.sortKey k).Carries σ f ↔ (Node.sortKey k).Carries τ f)
    (hkey : ρ.KeepsUse σ τ f (.expr k.key)) : ρ.KeepsUse σ τ f (.sortKey k) :=
  keepsUse_sortKey hρ.nodes_sortKey hcarries hkey

end Keys

/-! ## Rendering -/

/-- The check looks into parts of a statement. -/
theorem mem_children_of_mem_checked {s : Statement} {n : Node}
    (hn : n ∈ s.checked) : n ∈ (Node.statement s).children := by
  cases s with
  | insert i => exact List.mem_cons_of_mem _ hn
  | createTable t => exact List.mem_append_right _ hn
  | query q => exact hn
  | update u => exact hn
  | delete d => exact hn
  | createView v => exact hn
  | _ => exact absurd hn List.not_mem_nil

/-- Only the features that a dialect lacks matter to the check. -/
theorem firstUnsupported_congr {d : Dialect} {used used' : List Feature}
    (h : ∀ f, d.supports f = false → (f ∈ used ↔ f ∈ used')) :
    Usage.firstUnsupported d used = Usage.firstUnsupported d used' := by
  unfold Usage.firstUnsupported
  congr 1
  funext f
  cases hf : d.supports f with
  | true => simp
  | false => simp [h f hf]

section Statement

variable {s : Statement} (h : σ.Agree τ) (hpolicy : σ.policy = τ.policy)

include h

/-- A retouched statement uses a feature exactly when the statement does. -/
theorem mem_ofStatement {f : Feature}
    (huses : ∀ k, Within (.sortKey k) (.statement s) →
      ρ.KeepsUse σ τ f (.expr k.key) → ρ.KeepsUse σ τ f (.sortKey k)) :
    f ∈ Usage.ofStatement σ (ρ.statement s) ↔ f ∈ Usage.ofStatement τ s := by
  have hcarries : (Node.statement (ρ.statement s)).Carries σ f ↔
      (Node.statement s).Carries τ f := by
    simpa [nodes] using carries_nodes (ρ := ρ) h.dialect (n := .statement s)
      (f := f) (by simp)
  have hparts : (∃ n ∈ (ρ.statement s).checked, n.Uses σ f) ↔
      ∃ n ∈ s.checked, n.Uses τ f := by
    rw [checked_statement, exists_mem_flatMap]
    exact exists_congr fun n => and_congr_right fun hn =>
      keepsUse h.dialect fun k hk =>
        huses k (.step (mem_children_of_mem_checked hn) hk)
  rw [Usage.mem_ofStatement_iff_uses, Usage.mem_ofStatement_iff_uses,
    hcarries, hparts]

include hpolicy

/-- A retouched statement gives the text or the error that it gave, under
settings that agree, if its sort keys look as they did and use the features
that they used. -/
theorem render_statement
    (hbind : Within (.expr (.parameter .bind)) (.statement s) →
      σ.placeholders = τ.placeholders)
    (hkeys : ∀ k, Within (.sortKey k) (.statement s) →
      ρ.Keeps σ τ (.expr k.key) → ρ.Keeps σ τ (.sortKey k))
    (huses : ∀ f, τ.dialect.supports f = false →
      ∀ k, Within (.sortKey k) (.statement s) → ρ.KeepsUse σ τ f (.expr k.key) →
      ρ.KeepsUse σ τ f (.sortKey k)) :
    (ρ.statement s).render σ = s.render τ := by
  have hlook := (keeps h hkeys hbind).doc rfl
  simp only [Node.doc] at hlook
  have hrejection : (ρ.statement s).rejection? σ = s.rejection? τ := by
    unfold Statement.rejection? Settings.reject?
    rw [hpolicy, h.dialect,
      firstUnsupported_congr fun f hf => mem_ofStatement h (huses f hf)]
  unfold Statement.render
  rw [hrejection, Doc.print_eq, hlook, Doc.print_eq]

end Statement

/-- A statement gives the text or the error that it gave if every sort
key stays one. -/
theorem KeepsKeys.render_statement (hρ : ρ.KeepsKeys) (settings : Settings)
    (s : Statement) : (ρ.statement s).render settings = s.render settings :=
  Retouch.render_statement (.refl settings) rfl (fun _ => rfl)
    (fun _ _ => hρ.keeps (.refl settings) fun _ => rfl)
    fun _ _ _ _ => hρ.keepsUse Iff.rfl

end SqlPrinter.Retouch
