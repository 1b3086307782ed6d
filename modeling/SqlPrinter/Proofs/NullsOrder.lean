/-
The order of nulls where a dialect has no words for it.  The settings may spell it
by a second sort key; the statement then has the text or the error that it would
have with two keys in the place of each such key, under settings that spell nothing.
-/
import Mathlib.Algebra.BigOperators.Group.List.Basic
import SqlPrinter.Proofs.Retouch.Render
import SqlPrinter.Proofs.Session
import SqlPrinter.Proofs.Switch

namespace SqlPrinter

open Node (Within)

/-! ## Parts without parameters -/

namespace Node

/-- Neither a bound parameter nor a question mark stands in the node. -/
def LacksParameters (n : Node) : Prop :=
  ¬ Within (.expr (.parameter .bind)) n ∧ ¬ Within (.expr (.parameter .question)) n

theorem LacksParameters.child {m n : Node} (h : n.LacksParameters)
    (hm : m ∈ n.children) : m.LacksParameters :=
  ⟨fun hbind => h.1 (.step hm hbind), fun hquestion => h.2 (.step hm hquestion)⟩

variable {t : Tally} {settings : Settings} {n : Node}

theorem LacksParameters.own (h : n.LacksParameters) : n.own t = 0 := by
  unfold Node.own
  split
  · exact absurd .here h.1
  · exact absurd .here h.2
  · rfl

/-- Where there is no parameter none is counted. -/
theorem LacksParameters.count_doc (h : n.LacksParameters) (hn : n.isPart = true) :
    (n.doc settings).count t = 0 := by
  induction n using Walk.printed.induction with
  | step n ih =>
      have hparts : laid t settings n.shown = 0 := by
        unfold laid Doc.total
        rw [List.map_map]
        apply List.sum_eq_zero
        intro k hk
        obtain ⟨m, hm, rfl⟩ := List.mem_map.1 hk
        exact ih m hm (h.child (mem_children_of_mem_shown hm))
          (isPart_of_mem_parts (mem_parts_of_mem_shown hm))
      rw [isCounted t settings (Or.inl hn), h.own, hparts, Nat.mul_zero]

end Node

namespace Effect

theorem text_append_text_append (s t : String) (a : Effect) :
    text s ++ (text t ++ a) = text (s ++ t) ++ a := by
  rw [← append_assoc, text_append_text]

/-- A part that leaves the counters alone may as well be evaluated a second time. -/
theorem twice_eq {a : Effect} (ha : ∀ c, (a c).counters = c) (lead between : String)
    (e : Error) : a.twice lead between e = text lead ++ a ++ text between ++ a := by
  funext c
  change twice lead between a e c =
    append (append (append (text lead) a) (text between)) a c
  have hc := ha c
  unfold twice append combine text
  rcases h : a c with ⟨_ | _, _⟩
  · simp [h, Except.map]
  · obtain rfl : _ = c := by simpa [h] using hc
    simp [h, Except.map]

end Effect

/-! ## Two keys for one -/

namespace OrderItem

/-- The key that puts nulls at one end: whether the given key is null, in the
direction that brings the nulls there. -/
def nullsKey (key : Expr) (nulls : NullsOrder) : OrderItem where
  key := .paren (.binary key (.standard .is) (.literal .null))
  direction := some (match nulls with | .last => .ascending | .first => .descending)
  nulls := none

/-- The keys that say the same without an order of nulls. -/
def spelled (k : OrderItem) : List OrderItem :=
  match k.nulls with
  | none => [k]
  | some nulls => [nullsKey k.key nulls, { k with nulls := none }]

theorem spelled_ne_nil (k : OrderItem) : k.spelled ≠ [] := by
  unfold spelled
  split <;> exact List.cons_ne_nil _ _

end OrderItem

/-- What follows a key to tell whether it is null. -/
def NullsOrder.test : NullsOrder → String
  | .first => " IS NULL) DESC"
  | .last => " IS NULL) ASC"

namespace OrderItem

variable {settings : Settings} {k : OrderItem}

theorem effect_of_none (hk : k.nulls = none) :
    ((Node.sortKey k).doc settings).effect settings =
      (Layout.expr settings k.key).effect settings ++
        (Direction.doc? k.direction).effect settings := by
  simp [Node.doc, hk, Layout.orderItem, NullsOrder.doc?]

theorem effect_nullsKey (key : Expr) (nulls : NullsOrder) :
    ((Node.sortKey (nullsKey key nulls)).doc settings).effect settings =
      .text "(" ++ (Layout.expr settings key).effect settings ++
        .text nulls.test := by
  rw [effect_of_none rfl]
  cases nulls <;>
    simp [nullsKey, Layout.expr, BinaryOp.isPrintable, BinaryOp.doc, Doc.require,
      StandardOp.text, Literal.doc, Direction.doc?, NullsOrder.test,
        Effect.append_assoc,
      Effect.text_append_text]

/-- Without words for the order of nulls a key is printed in a test for null, and
then as it is. -/
theorem effect_of_some {nulls : NullsOrder} (hby : settings.nullsByKey = true)
    (hk : k.nulls = some nulls)
    (hcounters : ∀ c, ((Layout.expr settings k.key).effect settings c).counters =
      c) : ((Node.sortKey k).doc settings).effect settings =
      .text "(" ++ (Layout.expr settings k.key).effect settings ++
        .text nulls.test ++
        (.text ", " ++ ((Layout.expr settings k.key).effect settings ++
          (Direction.doc? k.direction).effect settings)) := by
  rw [Node.doc, hk]
  cases nulls <;>
    simp [Layout.orderItem, hby, Effect.twice_eq hcounters, NullsOrder.test,
      Effect.append_assoc, Effect.text_append_text_append]

/-- A key that calls for nothing itself uses what is used by what it sorts by. -/
theorem uses_iff_of_not_carries {settings : Settings} {f : Feature}
    (hk : ¬ (Node.sortKey k).Carries settings f) :
    (Node.sortKey k).Uses settings f ↔ (Node.expr k.key).Uses settings f := by
  rw [Node.uses_iff, or_iff_right hk]
  simp [Node.children]

theorem uses_nullsKey {settings : Settings} {f : Feature} {key : Expr}
    {nulls : NullsOrder} :
    (Node.sortKey (nullsKey key nulls)).Uses settings f ↔
      (Node.expr key).Uses settings f := by
  have hnull : ¬ (Node.expr (.literal .null)).Uses settings f := by
    rw [Node.uses_iff]
    simp [Node.Carries, Node.children, Node.ofExpr]
  have htest :
      (Node.expr (.binary key (.standard .is) (.literal .null))).Uses settings f ↔
      (Node.expr key).Uses settings f := by
    rw [Node.uses_iff]
    simp [Node.Carries, Node.children, Node.ofExpr, hnull]
  have hparen :
      (Node.expr (.paren (.binary key (.standard .is) (.literal .null)))).Uses
          settings f ↔
        (Node.expr key).Uses settings f := by
    rw [Node.uses_iff]
    simp [Node.Carries, Node.children, Node.ofExpr, htest]
  rw [uses_iff_of_not_carries (by simp [Node.Carries, nullsKey])]
  exact hparen

end OrderItem

/-- Put two keys in the place of each sort key with an order of nulls. -/
def Retouch.spellNulls : Retouch :=
  { nothing with
    keys := OrderItem.spelled, keys_ne_nil := OrderItem.spelled_ne_nil }

namespace Retouch

variable {σ τ : Settings} {k : OrderItem}

theorem nodes_spellNulls_of_none (hk : k.nulls = none) :
    spellNulls.nodes (.sortKey k) =
      [.sortKey { k with key := spellNulls.expr k.key }] := by
  simp [nodes, sortKey, spellNulls, OrderItem.spelled, hk]

theorem nodes_spellNulls_of_some {nulls : NullsOrder} (hk : k.nulls = some nulls) :
    spellNulls.nodes (.sortKey k) =
      [.sortKey (.nullsKey (spellNulls.expr k.key) nulls),
        .sortKey { k with key := spellNulls.expr k.key, nulls := none }] := by
  simp [nodes, sortKey, spellNulls, OrderItem.spelled, hk]

/-- Two keys look like one that is printed twice, if there is no parameter in it. -/
theorem keeps_spellNulls (h : σ.Agree τ) (hτ : τ.nullsByKey = true)
    (hk : k.nulls ≠ none → (Node.sortKey k).LacksParameters)
    (hkey : spellNulls.Keeps σ τ (.expr k.key)) :
    spellNulls.Keeps σ τ (.sortKey k) := by
  cases hnulls : k.nulls with
  | none =>
      exact keeps_sortKey (nodes_spellNulls_of_none hnulls) h (absurd hnulls) hkey
  | some nulls =>
      have hlacks : (Node.expr k.key).LacksParameters :=
        (hk (by simp [hnulls])).child List.mem_cons_self
      have hcounters (c : Counters) :
          (((Node.expr k.key).doc τ).effect τ c).counters = c :=
        Doc.counters_run τ.placeholders (fun _ => hlacks.count_doc rfl) c
      have hsubject := hkey.doc rfl
      have hdirection : (Direction.doc? k.direction).effect σ =
          (Direction.doc? k.direction).effect τ :=
        h.effect (by simp)
      simp only [Node.doc] at hsubject hcounters
      unfold Keeps
      rw [nodes_spellNulls_of_some hnulls,
        OrderItem.effect_of_some hτ hnulls hcounters]
      simp [Effect.joined, Effect.concat, OrderItem.effect_nullsKey,
        OrderItem.effect_of_none, hsubject, hdirection]

theorem keepsUse_spellNulls {f : Feature} (hτ : τ.emulateNulls = true)
    (hkey : spellNulls.KeepsUse σ τ f (.expr k.key)) :
    spellNulls.KeepsUse σ τ f (.sortKey k) := by
  have hsubject : (Node.expr (spellNulls.expr k.key)).Uses σ f ↔
      (Node.expr k.key).Uses τ f := by
    simpa [KeepsUse, nodes] using hkey
  cases hnulls : k.nulls with
  | none =>
      refine keepsUse_sortKey (nodes_spellNulls_of_none hnulls) ?_ hkey
      simp [Node.Carries, hnulls]
  | some nulls =>
      unfold KeepsUse
      rw [nodes_spellNulls_of_some hnulls,
        OrderItem.uses_iff_of_not_carries (by simp [Node.Carries, hτ])]
      simp [OrderItem.uses_nullsKey, OrderItem.uses_iff_of_not_carries,
        Node.Carries, hsubject]

end Retouch

/-- Where a dialect has no words for the order of nulls, to spell it by keys while
printing or to put those keys into the statement beforehand comes to the same, in
queries, windows and calls of any depth and in the check of features, if no sort key
with an order of nulls has a parameter in it. -/
theorem Statement.render_spellNulls (s : Statement) (settings : Settings)
    (hemulate : settings.emulateNulls = true)
    (hdialect : settings.dialect.supports .nullsOrdering = false)
    (hkeys : ∀ k, Within (.sortKey k) (.statement s) → k.nulls ≠ none →
      (Node.sortKey k).LacksParameters) :
    (Retouch.spellNulls.statement s).render
      { settings with emulateNulls := false } =
      s.render settings := by
  have hby : settings.nullsByKey = true := by
    simp [Settings.nullsByKey, hemulate, hdialect]
  have hagree : Settings.Agree { settings with emulateNulls := false } settings :=
    ⟨rfl, rfl, rfl, rfl, rfl, fun _ _ => rfl⟩
  exact Retouch.render_statement hagree rfl (fun _ => rfl)
    (fun k hk => Retouch.keeps_spellNulls hagree hby (hkeys k hk))
    fun _ _ _ _ => Retouch.keepsUse_spellNulls hemulate

/-- `SELECT * ORDER BY key`, with nulls in some order. -/
def Query.sorted (key : Expr) (nulls : NullsOrder) : Query where
  ctes := none
  body := .select
    { distinct := false, distinctOn := [], options := [], items := [.star],
      into := none, tables := [], joins := [], condition := none, groupBy := [],
      groupModifiers := [], having := none, windows := [],
      orderBy := [⟨key, none, some nulls⟩], limit := none, offset := none,
      locking := none }
  orderBy := []
  limit := none
  offset := none

/-- The rows in the order of a query that is sorted, with a parameter outside. -/
def Query.twiceSorted : Query :=
  { sorted (.subquery (sorted (.literal (.number "1")) .last)) .first with
    limit := some (.parameter .bind) }

/-- In MySQL both orders of nulls are spelled, the inner one twice. -/
theorem Statement.render_spellNulls_twiceSorted :
    let settings := { Settings.standard with emulateNulls := true }
    let s := Statement.query .twiceSorted
    settings.emulateNulls = true ∧
      settings.dialect.supports .nullsOrdering = false ∧
      (∀ k, Within (.sortKey k) (.statement s) → k.nulls ≠ none →
        (Node.sortKey k).LacksParameters) ∧
      s.render settings = .ok ("SELECT * ORDER BY " ++
        "((SELECT * ORDER BY (1 IS NULL) ASC, 1) IS NULL) DESC, " ++
        "(SELECT * ORDER BY (1 IS NULL) ASC, 1) LIMIT ?") ∧
      (Retouch.spellNulls.statement s).render .standard = s.render settings := by
  intro settings s
  have hkeys : ∀ k, Within (.sortKey k) (.statement s) → k.nulls ≠ none →
      (Node.sortKey k).LacksParameters := by
    intro k hk _
    have hcases : k = ⟨.subquery (.sorted (.literal (.number "1")) .last), none,
        some .first⟩ ∨
        k = ⟨.literal (.number "1"), none, some .last⟩ := by
      simpa [s, Query.twiceSorted, Query.sorted, Node.within_iff, Node.ofStatement,
        Node.ofSelect, Node.ofExpr, Node.with?, Node.into?, Node.expr?,
        Node.exprs] using hk
    obtain rfl | rfl := hcases <;>
      simp [Node.LacksParameters, Query.sorted, Node.within_iff, Node.ofSelect,
        Node.ofExpr, Node.with?, Node.into?, Node.expr?, Node.exprs]
  refine ⟨rfl, rfl, hkeys, ?_, render_spellNulls s settings rfl rfl hkeys⟩
  decide +kernel

end SqlPrinter
