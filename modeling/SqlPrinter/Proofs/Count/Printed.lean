/-
The parameters that are printed, counted in the statement.  A writer counts as
many as there are among the nodes that the layouts show, and of a sort key that
is printed twice none is a question mark.
-/
import Mathlib.Algebra.Order.BigOperators.Group.List
import SqlPrinter.Proofs.Count.Statement
import SqlPrinter.Proofs.Numbering

namespace SqlPrinter

namespace Node

variable {t : Tally} {settings : Settings}

/-! ## Sums over nodes -/

/-- What is printed once counts as much as the nodes that are printed. -/
theorem count_doc (hrepeats : t.repeats = 1) {n : Node}
    (h : n.isPart = true ∨ (n.doc settings).hasFault = false) :
    (n.doc settings).count t = ((Walk.printed.nodes n).map (own t)).sum := by
  induction n using Walk.printed.induction with
  | step n ih =>
      have hcopies : n.copies t settings = 1 := by
        cases n <;> simp [copies, hrepeats]
      have hparts (ns : List Node) (hns : ∀ m ∈ ns, m ∈ n.shown) :
          laid t settings ns =
            ((ns.flatMap Walk.printed.nodes).map (own t)).sum := by
        induction ns with
        | nil => rfl
        | cons m ns ihParts =>
            have hm := hns m List.mem_cons_self
            have hcount :=
              ih m hm (.inl (isPart_of_mem_parts (mem_parts_of_mem_shown hm)))
            have hrest := ihParts fun k hk => hns k (List.mem_cons_of_mem m hk)
            rw [laid_cons, List.flatMap_cons, List.map_append, List.sum_append,
              hcount, hrest]
      rw [isCounted t settings h, hcopies, Nat.one_mul, Walk.nodes_eq,
        List.map_cons, List.sum_cons, hparts n.shown fun _ hm => hm]
      rfl

/-- A parameter that gets a number in a placeholder style. -/
def isNumbered (placeholders : PlaceholderStyle) : Node → Bool
  | expr (.parameter .bind) => placeholders = .numbered
  | _ => false

/-- A parameter that is printed as a question mark in a placeholder style. -/
def isPositional (placeholders : PlaceholderStyle) : Node → Bool
  | expr (.parameter .bind) => placeholders = .question
  | expr (.parameter .question) => true
  | _ => false

variable {placeholders : PlaceholderStyle}

theorem own_numbers (n : Node) :
    n.own (.numbers placeholders) = if n.isNumbered placeholders then 1 else 0 := by
  cases n with
  | expr e =>
      cases e with
      | parameter p => cases p <;> cases placeholders <;> rfl
      | _ => rfl
  | _ => rfl

theorem own_marks (repeats : Nat) (n : Node) :
    n.own (.marks repeats placeholders) = if n.isPositional placeholders then 1
      else 0 := by
  cases n with
  | expr e =>
      cases e with
      | parameter p => cases p <;> cases placeholders <;> rfl
      | _ => rfl
  | _ => rfl

/-- The nodes of a kind are counted if each of them counts for one and all other
nodes for nothing. -/
theorem sum_own {isKind : Node → Bool}
    (h : ∀ n, own t n = if isKind n then 1 else 0) (ns : List Node) :
    (ns.map (own t)).sum = ns.countP isKind := by
  induction ns with
  | nil => rfl
  | cons n ns ih =>
      rw [List.map_cons, List.sum_cons, ih, h, List.countP_cons, Nat.add_comm]

section Printed

variable {n : Node} (h : n.isPart = true ∨ (n.doc settings).hasFault = false)

include h

theorem count_numbers : (n.doc settings).count (.numbers placeholders) =
    (Walk.printed.nodes n).countP (isNumbered placeholders) := by
  have hrepeats : (Tally.numbers placeholders).repeats = 1 := by
    cases placeholders <;> rfl
  rw [count_doc hrepeats h, sum_own own_numbers]

theorem count_marks : (n.doc settings).count (.marks 1 placeholders) =
    (Walk.printed.nodes n).countP (isPositional placeholders) := by
  have hrepeats : (Tally.marks 1 placeholders).repeats = 1 := by
    cases placeholders <;> rfl
  rw [count_doc hrepeats h, sum_own (own_marks 1)]

end Printed

/-! ## Sort keys that are printed twice -/

/-- A sort key that is printed twice, to put null values in order. -/
def isRepeated (settings : Settings) : Node → Bool
  | sortKey k => settings.nullsByKey && k.nulls.isSome
  | _ => false

/-- Printing a part twice does not make it count for less. -/
theorem count_marks_le (placeholders : PlaceholderStyle) (d : Doc) :
    d.count (.marks 1 placeholders) ≤ d.count (.marks 2 placeholders) := by
  have hrepeats (k : Nat) : (Tally.marks k placeholders).repeats = k := by
    cases placeholders <;> rfl
  induction d with
  | placeholder => cases placeholders <;> exact Nat.le_refl _
  | question => cases placeholders <;> exact Nat.le_refl _
  | append first second ihFirst ihSecond => exact Nat.add_le_add ihFirst ihSecond
  | isolated d ih => exact ih
  | beside separator first second ihFirst ihSecond =>
      exact Nat.add_le_add ihFirst ihSecond
  | twice lead between part e ih =>
      rw [Doc.count_twice, Doc.count_twice, hrepeats, hrepeats]
      exact Nat.mul_le_mul (by decide) ih
  | _ => exact Nat.le_refl _

theorem laid_marks_le (placeholders : PlaceholderStyle) (settings : Settings)
    (ns : List Node) :
    laid (.marks 1 placeholders) settings ns ≤
      laid (.marks 2 placeholders) settings ns := by
  induction ns with
  | nil => exact Nat.le_refl _
  | cons n ns ih =>
      rw [laid_cons, laid_cons]
      exact Nat.add_le_add (count_marks_le placeholders _) ih

/-- Some parts count for no more if those that are printed twice are counted
twice: then so does each of them. -/
theorem count_marks_eq {ns : List Node}
    (h : laid (.marks 2 placeholders) settings ns ≤
      laid (.marks 1 placeholders) settings ns) :
    ∀ m ∈ ns, (m.doc settings).count (.marks 2 placeholders) =
      (m.doc settings).count (.marks 1 placeholders) := by
  induction ns with
  | nil => exact fun m hm => absurd hm List.not_mem_nil
  | cons n ns ih =>
      have hn := count_marks_le placeholders (n.doc settings)
      have hns := laid_marks_le placeholders settings ns
      rw [laid_cons, laid_cons] at h
      intro m hm
      rcases List.mem_cons.1 hm with rfl | hm
      · omega
      · exact ih (by omega) m hm

theorem copies_marks (k : Nat) (n : Node) :
    n.copies (.marks k placeholders) settings = if n.isRepeated settings then k
      else 1 := by
  have hrepeats : (Tally.marks k placeholders).repeats = k := by
    cases placeholders <;> rfl
  cases n <;> simp [copies, isRepeated, hrepeats]

/-- If the parts that are printed twice count for no more, there is no question
mark in them. -/
theorem count_marks_of_isRepeated {n : Node}
    (h : n.isPart = true ∨ (n.doc settings).hasFault = false)
    (honce : (n.doc settings).count (.marks 2 placeholders) =
      (n.doc settings).count (.marks 1 placeholders)) :
    ∀ m ∈ Walk.printed.nodes n, m.isRepeated settings = true →
      (m.doc settings).count (.marks 1 placeholders) = 0 := by
  induction n using Walk.printed.induction with
  | step n ih =>
      have hle := laid_marks_le placeholders settings n.shown
      have honly := isCounted (.marks 1 placeholders) settings h
      have htwice := isCounted (.marks 2 placeholders) settings h
      rw [IsCounted, own_marks, copies_marks] at honly htwice
      have hparts : laid (.marks 2 placeholders) settings n.shown ≤
          laid (.marks 1 placeholders) settings n.shown := by
        cases hn : n.isRepeated settings <;>
          simp only [hn, if_true, Bool.false_eq_true, if_false]
            at honly htwice <;> omega
      intro m hm hrepeated
      rw [Walk.nodes_eq, List.mem_cons, List.mem_flatMap] at hm
      rcases hm with rfl | ⟨k, hk, hm⟩
      · have hown : m.isPositional placeholders = false := by
          cases m with
          | sortKey k => rfl
          | _ => contradiction
        simp only [hrepeated, hown, if_true, Bool.false_eq_true, if_false]
          at honly htwice
        omega
      · exact ih k hk (.inl (isPart_of_mem_parts (mem_parts_of_mem_shown hk)))
          (count_marks_eq hparts k hk) m hm hrepeated

end Node

/-! ## Writing -/

namespace Root

/-- The node of it. -/
def node : Root → Node
  | expr e => .expr e
  | query q => .query q
  | statement s => .statement s

theorem doc_eq_node (settings : Settings) (root : Root) :
    root.doc settings = root.node.doc settings := by
  cases root <;> rfl

section Write

variable {settings : Settings} {root : Root} {w : Writer}
  (h : (root.write settings w).1 = none)

include h

/-- What is written without an error is not refused, and its layout is evaluated
without a fault. -/
theorem run_of_write :
    ((root.node.doc settings).run w.placeholders w.counters).failure = none ∧
      root.write settings w =
        w.add settings ((root.node.doc settings).run w.placeholders
          w.counters) := by
  unfold write at *
  rw [← doc_eq_node, ← Writer.write_eq]
  cases hrejection : root.rejection? settings with
  | some e =>
      rw [hrejection] at h
      contradiction
  | none =>
      rw [hrejection] at h
      have hwrite := w.write_eq settings (root.doc settings)
      exact ⟨(congrArg Prod.fst hwrite).symm.trans h, rfl⟩

theorem advance_write : (root.node.doc settings).Advance w.placeholders w.counters
    (root.write settings w).2.counters := by
  obtain ⟨hrun, hwrite⟩ := run_of_write h
  rw [hwrite]
  exact Doc.advance hrun

theorem isPart_or_not_hasFault :
    root.node.isPart = true ∨ (root.node.doc settings).hasFault = false :=
  Or.inr (Doc.hasFault_eq_false (run_of_write h).1)

/-- Each parameter that gets a number moves the next number on by one. -/
theorem next_write : (root.write settings w).2.counters.next =
    w.counters.next +
      UInt64.ofNat ((Walk.printed.nodes root.node).countP
        (Node.isNumbered w.placeholders)) := by
  rw [(advance_write h).next, Node.count_numbers (isPart_or_not_hasFault h)]

/-- Each question mark is counted. -/
theorem positional_write : (root.write settings w).2.counters.positional =
    w.counters.positional +
      (Walk.printed.nodes root.node).countP (Node.isPositional w.placeholders) := by
  rw [(advance_write h).positional, Node.count_marks (isPart_or_not_hasFault h)]

/-- No question mark stands in a sort key that is printed twice, however deep. -/
theorem not_isPositional_of_isRepeated {k : Node}
    (hk : k ∈ Walk.printed.nodes root.node)
    (hrepeated : k.isRepeated settings = true) :
    ∀ m ∈ Walk.printed.nodes k, ¬m.isPositional w.placeholders = true := by
  have hzero := Node.count_marks_of_isRepeated (isPart_or_not_hasFault h)
    ((advance_write h).once 2) k hk hrepeated
  have hpart : k.isPart = true := by
    cases k with
    | sortKey _ => rfl
    | _ => contradiction
  rw [Node.count_marks (.inl hpart), List.countP_eq_zero] at hzero
  exact hzero

end Write

end Root

end SqlPrinter
