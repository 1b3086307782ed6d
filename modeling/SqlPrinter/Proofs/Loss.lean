/-
Parameters that are lost.  A writer that has printed a query has consumed the
parameters of the nodes that are printed.  All other parameters of the query stand
in the parts that layouts leave out, so none is lost exactly if there is none in
these parts.
-/
import SqlPrinter.Proofs.Count.Printed

namespace SqlPrinter

/-- The parameters that a writer has printed since it was fresh. -/
def Writer.consumed (w : Writer) : Nat :=
  (w.counters.next - 1).toNat + w.counters.positional

namespace Node

/-- A parameter for which a value is to be bound. -/
def isParameter : Node → Bool
  | expr (.parameter .bind) | expr (.parameter .question) => true
  | _ => false

/-- A join without a condition that it does not take, a cast to a type without
members, or any other node. -/
def isUsual : Node → Bool
  | join j => j.kind.takesCondition || j.condition.isNone
  | cast c => c.target.values.isEmpty
  | _ => true

/-- In either style a parameter has a number or is a question mark. -/
theorem countP_isParameter (placeholders : PlaceholderStyle) (ns : List Node) :
    ns.countP isParameter =
      ns.countP (isNumbered placeholders) +
        ns.countP (isPositional placeholders) := by
  induction ns with
  | nil => rfl
  | cons n ns ih =>
      have hn : (if n.isParameter then 1 else 0) =
          (if n.isNumbered placeholders then 1 else 0) +
            if n.isPositional placeholders then 1 else 0 := by
        cases n with
        | expr e =>
            cases e with
            | parameter p => cases p <;> cases placeholders <;> rfl
            | _ => rfl
        | _ => rfl
      rw [List.countP_cons, List.countP_cons, List.countP_cons, ih, hn]
      omega

end Node

namespace Root

/-- The parameters in the parts of a statement that its layouts leave out. -/
def lostParameters (root : Root) : Nat :=
  ((Walk.lost root.node).flatMap Walk.whole.nodes).countP Node.isParameter

theorem lostParameters_eq_zero_iff {root : Root} :
    root.lostParameters = 0 ↔
      ∀ part ∈ Walk.lost root.node, ∀ m ∈ Walk.whole.nodes part,
        ¬m.isParameter = true := by
  simp only [lostParameters, List.countP_eq_zero, List.mem_flatMap,
    forall_exists_index, and_imp]
  exact ⟨fun h part hpart m hm => h m part hpart hm,
    fun h m part hpart hm => h part hpart m hm⟩

/-- A parameter is printed or lost. -/
theorem parameters_eq (placeholders : PlaceholderStyle) (root : Root) :
    (Walk.whole.nodes root.node).countP Node.isParameter =
      (Walk.printed.nodes root.node).countP (Node.isNumbered placeholders) +
        (Walk.printed.nodes root.node).countP (Node.isPositional placeholders) +
        root.lostParameters := by
  rw [(Walk.perm_nodes root.node).countP_eq, List.countP_append,
    Node.countP_isParameter placeholders (Walk.printed.nodes root.node)]
  rfl

/-- A writer that has printed a statement has consumed the parameters of the nodes
that are printed.  Up to the largest number these are all parameters of the
statement but for the lost ones, so the writer has consumed them all exactly if no
part with a parameter in it has been left out. -/
theorem consumed_write (settings : Settings) (root : Root)
    (placeholders : PlaceholderStyle)
    (hok : (root.write settings (.fresh placeholders)).1 = none) :
    let written := (root.write settings (.fresh placeholders)).2
    let total := (Walk.whole.nodes root.node).countP Node.isParameter
    written.counters.next = 1 + UInt64.ofNat
        ((Walk.printed.nodes root.node).countP (Node.isNumbered placeholders)) ∧
      written.counters.positional =
        (Walk.printed.nodes root.node).countP (Node.isPositional placeholders) ∧
      (total < UInt64.size → written.consumed + root.lostParameters = total ∧
        (written.consumed = total ↔ ∀ part ∈ Walk.lost root.node,
          ∀ m ∈ Walk.whole.nodes part, ¬m.isParameter = true)) := by
  intro written total
  have hnext : written.counters.next = 1 + UInt64.ofNat
      ((Walk.printed.nodes root.node).countP (Node.isNumbered placeholders)) :=
    next_write hok
  have hpositional : written.counters.positional =
      (Walk.printed.nodes root.node).countP (Node.isPositional placeholders) :=
    (positional_write hok).trans (Nat.zero_add _)
  refine ⟨hnext, hpositional, fun htotal => ?_⟩
  have hparameters := parameters_eq placeholders root
  have hnumbers : (written.counters.next - 1).toNat =
      (Walk.printed.nodes root.node).countP (Node.isNumbered placeholders) := by
    rw [hnext, UInt64.add_comm, UInt64.add_sub_cancel]
    exact UInt64.toNat_ofNat_of_lt' (by omega)
  have hconsumed : written.consumed + root.lostParameters = total := by
    rw [Writer.consumed, hnumbers, hpositional]
    exact hparameters.symm
  refine ⟨hconsumed, ?_⟩
  rw [← lostParameters_eq_zero_iff]
  omega

end Root

/-! ## A join without a table before it -/

/-- `a` selected from nothing, with a join of `t` on a bound parameter. -/
def Select.joinWithoutTable : Select where
  distinct := false
  distinctOn := []
  options := []
  items := [.expr (.column ⟨none, none, "a"⟩) none]
  into := none
  tables := []
  joins := [⟨.inner, .named none "t" none, some (.parameter .bind), none⟩]
  condition := none
  groupBy := []
  groupModifiers := []
  having := none
  windows := []
  orderBy := []
  limit := none
  offset := none
  locking := none

/-- The query that is just this SELECT. -/
def Query.joinWithoutTable : Query :=
  .ofSelect .joinWithoutTable

/-- The nodes of the query, with the join and what stands in it. -/
theorem Query.nodes_joinWithoutTable : Walk.whole.nodes (.query joinWithoutTable) =
    [.query joinWithoutTable, .body joinWithoutTable.body,
      .select .joinWithoutTable, .item (.expr (.column ⟨none, none, "a"⟩) none),
        .expr (.column ⟨none, none, "a"⟩),
      .join ⟨.inner, .named none "t" none, some (.parameter .bind), none⟩,
      .table (.named none "t" none), .expr (.parameter .bind)] := by
  have hleaf {n : Node} (hn : Walk.whole.parts n = []) :
      Walk.whole.nodes n = [n] := by
    rw [Walk.nodes_eq, hn]
    rfl
  have hpart {n m : Node} (hn : Walk.whole.parts n = [m]) :
      Walk.whole.nodes n = n :: Walk.whole.nodes m := by
    rw [Walk.nodes_eq, hn]
    simp
  have htwo {n m k : Node} (hn : Walk.whole.parts n = [m, k]) :
      Walk.whole.nodes n = n :: (Walk.whole.nodes m ++ Walk.whole.nodes k) := by
    rw [Walk.nodes_eq, hn]
    simp
  rw [hpart (m := .body joinWithoutTable.body) rfl,
    hpart (m := .select .joinWithoutTable) rfl,
    htwo (m := .item (.expr (.column ⟨none, none, "a"⟩) none))
      (k := .join ⟨.inner, .named none "t" none, some (.parameter .bind),
        none⟩) rfl,
    hpart (m := .expr (.column ⟨none, none, "a"⟩)) rfl,
    hleaf rfl,
    htwo (m := .table (.named none "t" none)) (k := .expr (.parameter .bind)) rfl,
    hleaf rfl, hleaf rfl]
  rfl

/-- Nothing is left of the join in the text, and its parameter is lost. -/
theorem Root.consumed_write_joinWithoutTable :
    let settings := Settings.ofDialect .postgres
    let root := Root.query .joinWithoutTable
    let written := root.write settings (.fresh .numbered)
    written.1 = none ∧ written.2.buffer = "SELECT \"a\"" ∧ written.2.consumed = 0 ∧
      (Walk.whole.nodes root.node).countP Node.isParameter = 1 ∧
      root.lostParameters = 1 := by
  intro settings root written
  have hok : written.1 = none := by decide +kernel
  have hbuffer : written.2.buffer = "SELECT \"a\"" := by decide +kernel
  have hconsumed : written.2.consumed = 0 := by decide +kernel
  have htotal : (Walk.whole.nodes root.node).countP Node.isParameter = 1 := by
    rw [show root.node = .query .joinWithoutTable from rfl,
      Query.nodes_joinWithoutTable]
    rfl
  obtain ⟨-, -, hword⟩ := consumed_write settings root .numbered hok
  obtain ⟨hlost, -⟩ := hword (by rw [htotal]; decide)
  rw [hconsumed, htotal, Nat.zero_add] at hlost
  exact ⟨hok, hbuffer, hconsumed, htotal, hlost⟩

/-- Not all parameters of a query that is printed are consumed, even if no join has
a condition that it does not take and no cast has a type with members. -/
theorem Query.exists_consumed_ne :
    ¬∀ (settings : Settings) (q : Query) (placeholders : PlaceholderStyle),
      (∀ m ∈ Walk.whole.nodes (.query q), m.isUsual = true) →
      ((Root.query q).write settings (.fresh placeholders)).1 = none →
      ((Root.query q).write settings (.fresh placeholders)).2.consumed =
        (Walk.whole.nodes (.query q)).countP Node.isParameter := by
  intro h
  have husual :
      ∀ m ∈ Walk.whole.nodes (.query joinWithoutTable), m.isUsual = true := by
    rw [nodes_joinWithoutTable]
    exact List.all_eq_true.1 rfl
  have hequal :=
    h (Settings.ofDialect .postgres) joinWithoutTable .numbered husual
      (by decide +kernel)
  rw [nodes_joinWithoutTable] at hequal
  have hconsumed :
      ((Root.query joinWithoutTable).write (Settings.ofDialect .postgres)
      (.fresh .numbered)).2.consumed = 0 := by decide +kernel
  rw [hconsumed] at hequal
  contradiction

end SqlPrinter
