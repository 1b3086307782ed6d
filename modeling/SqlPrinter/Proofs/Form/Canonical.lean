/-
Canonical statements: no operator that is only spelled out is one that has a name
of its own.  The spelling of such an operator would be read as the name.
-/
import SqlPrinter.Proofs.Form.Reading
import SqlPrinter.Proofs.Form.Yielding
import SqlPrinter.Proofs.Node.Walk

namespace SqlPrinter

open Form

/-! ## Operators -/

/-- Reading what a standard operator prints gives the operator back. -/
theorem StandardOp.ofText?_text (op : StandardOp) : ofText? op.text = some op := by
  cases op <;> decide +kernel

namespace BinaryOp

/-- An operator that is spelled out has no name of its own. -/
def IsCanonical : BinaryOp → Prop
  | standard _ => True
  | other spelling => (ofText spelling).isStandard = false

/-- A canonical operator is read back from its text. -/
theorem ofText_text {op : BinaryOp} (h : op.IsCanonical) : ofText op.text = op := by
  cases op with
  | standard op => rw [text, ofText, StandardOp.ofText?_text]
  | other spelling =>
      rw [IsCanonical] at h
      rw [text, ofText]
      cases hs : StandardOp.ofText? spelling with
      | none => rfl
      | some op => rw [ofText, hs, isStandard] at h; contradiction

/-- What is read from a text is canonical: no known operator is read as another. -/
theorem isCanonical_ofText (s : String) : (ofText s).IsCanonical := by
  cases hs : StandardOp.ofText? s with
  | none => simp [ofText, hs, IsCanonical, isStandard]
  | some op => simp [ofText, hs, IsCanonical]

theorem reads {d : Nat} {op : BinaryOp} (h : op.IsCanonical) :
    read.Reads d op.toJson op where
  ne_null := nofun
  eq_ok _ _ := by simp only [read, toJson, Reader.text, Except.map, ofText_text h]

theorem read_yields : read.Yields IsCanonical := by
  intro inVariant j op hread
  obtain ⟨s, -, rfl⟩ := map_eq_ok.1 hread
  exact isCanonical_ofText s

end BinaryOp

/-! ## Nodes -/

namespace Node

/-- The operator of a node is canonical if it has one. -/
def HasCanonicalOp : Node → Prop
  | expr (.binary _ op _) => op.IsCanonical
  | _ => True

/-- All operators in a node are canonical, at any depth. -/
def IsCanonical (n : Node) : Prop :=
  ∀ m ∈ Walk.whole.nodes n, m.HasCanonicalOp

/-- A node is canonical when its own operator and all its parts are. -/
theorem isCanonical_iff {n : Node} :
    n.IsCanonical ↔ n.HasCanonicalOp ∧ ∀ m ∈ n.parts, m.IsCanonical :=
  Walk.whole.forall_nodes_iff

theorem isCanonical_of_no_part {n : Node} (hop : n.HasCanonicalOp)
    (hparts : n.parts = []) : n.IsCanonical := by
  rw [isCanonical_iff, hparts]
  exact ⟨hop, List.forall_mem_nil _⟩

theorem isCanonical_of_part {m n : Node} (hop : n.HasCanonicalOp)
    (hparts : n.parts = [m]) (hm : m.IsCanonical) : n.IsCanonical := by
  rw [isCanonical_iff, hparts]
  exact ⟨hop, List.forall_mem_singleton.2 hm⟩

/-! ## What holds of all parts -/

variable {P : Node → Prop}

theorem forall_exprs {es : List Expr} :
    (∀ m ∈ exprs es, P m) ↔ ∀ e ∈ es, P (expr e) :=
  List.forall_mem_map

theorem forall_expr? {e : Option Expr} :
    (∀ m ∈ expr? e, P m) ↔ ∀ a ∈ e, P (expr a) := by
  simp [expr?, forall_exprs]

theorem forall_args {args : Option (List Expr)} :
    (∀ m ∈ exprs (args.getD []), P m) ↔ ∀ es ∈ args, ∀ e ∈ es, P (expr e) := by
  cases args <;> simp [forall_exprs]

theorem forall_rows {rows : List (List Expr)} :
    (∀ m ∈ exprs rows.flatten, P m) ↔ ∀ row ∈ rows, ∀ e ∈ row, P (expr e) := by
  rw [forall_exprs]
  simp only [List.mem_flatten]
  exact ⟨fun h row hrow e he => h e ⟨row, hrow, he⟩,
    fun h e ⟨row, hrow, he⟩ => h row hrow e he⟩

theorem forall_branches {bs : List (Expr × Expr)} :
    (∀ m ∈ branches bs, P m) ↔ ∀ b ∈ bs, P (expr b.1) ∧ P (expr b.2) := by
  rw [branches, List.forall_mem_flatMap]
  exact forall₂_congr fun b _ => by simp

theorem forall_over? {o : Option Over} :
    (∀ m ∈ over? o, P m) ↔ ∀ w, o = some (.spec w) → P (window w) := by
  rcases o with _ | _ | w <;> simp [over?]

theorem forall_frame? {f : Option WindowFrame} :
    (∀ m ∈ frame? f, P m) ↔ ∀ a ∈ f, P (bound a.first) ∧
      ∀ b ∈ a.last, P (bound b) := by
  rcases f with _ | ⟨_, _, _⟩ <;> simp [frame?]

theorem forall_with? {o : Option With} :
    (∀ m ∈ with? o, P m) ↔ ∀ a ∈ o, ∀ c ∈ a.tables, P (cte c) := by
  rcases o with _ | ⟨_, _⟩ <;> simp [with?]

theorem forall_into? {o : Option SelectInto} :
    (∀ m ∈ into? o, P m) ↔ ∀ a ∈ o, ∀ vars, a.target = .vars vars →
      ∀ e ∈ vars, P (expr e) := by
  rcases o with _ | ⟨_, _ | _ | _ | _⟩ <;> simp [into?, forall_exprs]

end Node

end SqlPrinter
