/-
Every node has a pattern, and so has every statement: its layout depends on the
contents of its names, its strings and its bound parameters alone.
-/
import SqlPrinter.Proofs.Node.Induction
import SqlPrinter.Proofs.Pattern.Change
import SqlPrinter.Proofs.Pattern.Schema

namespace SqlPrinter

variable {settings : Settings} {ok : Node.Leaf → Prop}

namespace Node

theorem statement_hasPattern {s : Statement}
    (hleaves : ∀ l ∈ (statement s).leaves, ok l)
    (h : ∀ m ∈ (statement s).children, m.HasPattern settings ok) :
    (statement s).HasPattern settings ok := by
  cases s with
  | query q => exact h (query q) (by simp [children, ofStatement])
  | insert i => exact insert_hasPattern hleaves h
  | update u => exact update_hasPattern h
  | delete d => exact delete_hasPattern hleaves h
  | createTable t => exact createTable_fits hleaves h
  | createDatabase d => exact fun p => .const (createDatabase_pattern hleaves p) p
  | createView v => exact createView_fits hleaves h
  | createIndex i => exact fun p => .const (createIndex_pattern hleaves p) p
  | alterTable t => exact alterTable_fits hleaves h
  | drop d => exact fun p => .const (drop_pattern hleaves p) p
  | list target => exact fun p => .const (list_pattern hleaves) p
  | analyze a => exact fun p => .const (analyze_pattern hleaves p) p
  | attach a => exact attach_fits hleaves h

/-- A node has a pattern if all of its texts are as the condition asks. -/
theorem hasPattern {n : Node} (h : n.Every ok) : n.HasPattern settings ok := by
  induction n using Node.induction with
  | step n ih =>
      obtain ⟨hleaves, hchildren⟩ := every_iff.1 h
      have hparts : ∀ m ∈ n.children, m.HasPattern settings ok := fun m hm =>
        ih m hm (hchildren m hm)
      cases n with
      | expr e => exact expr_hasPattern hleaves hparts
      | call c => exact call_hasPattern hleaves hparts
      | aggregate a => exact aggregate_hasPattern hleaves hparts
      | dataType t => exact dataType_hasPattern hleaves hparts
      | cast c => exact cast_hasPattern hleaves hparts
      | extract x => exact extract_hasPattern hleaves hparts
      | anyValue a => exact anyValue_hasPattern hleaves hparts
      | window w => exact window_hasPattern hleaves hparts
      | bound b => exact bound_hasPattern hparts
      | sortKey k => exact sortKey_hasPattern hparts
      | query q => exact query_hasPattern hparts
      | body b => exact body_hasPattern hparts
      | select s => exact select_hasPattern hleaves hparts
      | item i => exact item_hasPattern hleaves hparts
      | modifier m => exact modifier_hasPattern hparts
      | table t => exact table_hasPattern hleaves hparts
      | join j => exact join_hasPattern hleaves hparts
      | cte c => exact cte_hasPattern hleaves hparts
      | assignment a => exact assignment_hasPattern hleaves hparts
      | columnDef c => exact columnDef_hasPattern hleaves hparts
      | constraint c => exact constraint_hasPattern hleaves hparts
      | index i => exact index_hasPattern hleaves
      | statement s => exact statement_hasPattern hleaves hparts

end Node

end SqlPrinter
