/-
The strict policy.  No part of the printer looks at the policy, which is handed to
all of them: it refuses some statements and leaves the text of the others as it is
under the lenient policy, in a list as well as on its own.
-/
import SqlPrinter.Proofs.Batch
import SqlPrinter.Proofs.Count.Query
import SqlPrinter.Proofs.Policy.Layout

namespace SqlPrinter

variable {σ τ : Settings}

/-! ## Parts of a statement under two settings -/

/-- Nodes have one layout under settings that agree, whatever stands in them. -/
theorem Node.doc_congr (h : σ.SameLayout τ) (n : Node) : n.doc σ = n.doc τ := by
  cases n with
  | expr e => exact h.expr e
  | call c => exact h.functionCall c
  | aggregate a => exact h.aggregate a
  | dataType t => exact h.typeDoc t
  | cast c => exact h.castExpr c
  | extract x => exact h.extractCall x
  | anyValue a => exact h.anyValue a
  | window w => exact h.windowSpec w
  | bound b => exact h.frameBound b
  | sortKey k => simp only [doc, h.expr, h.orderItem]
  | query q => exact h.queryDoc q
  | body b => exact h.bodyDoc b
  | select s => exact h.selectDoc s
  | item i => exact h.selectItem i
  | modifier m => cases m <;> simp only [doc, Layout.keySets, h.rows]
  | table t => exact h.tableRef t
  | join j => simp only [doc, Layout.joinDoc, h.tableRef, h.expr?]
  | cte c => simp only [doc, Layout.cteDoc, h.queryDoc]
  | assignment a => exact h.assignment .excluded a
  | columnDef c => exact h.columnDef c
  | constraint c => exact h.tableConstraint c
  | index i => rfl
  | statement s => exact s.doc_congr h

/-- A writer looks at the settings to quote a name and for nothing else. -/
theorem Writer.write_congr (h : ∀ name, Ident.quote σ name = Ident.quote τ name)
    (w : Writer) (d : Doc) : w.write σ d = w.write τ d := by
  induction d generalizing w with
  | name s => simp only [write, h]
  | append first second ihFirst ihSecond => simp only [write, ihFirst, ihSecond]
  | isolated d ih => simp only [write, ih]
  | beside separator first second ihFirst ihSecond =>
      simp only [write, ihFirst, ihSecond]
  | twice lead between part onQuestion ih => simp only [write, ih]
  | _ => rfl

/-- What is printed depends on how names are quoted and on the placeholders, and on
nothing else. -/
theorem Doc.print_congr (h : ∀ name, Ident.quote σ name = Ident.quote τ name)
    (hplaceholders : σ.placeholders = τ.placeholders) (d : Doc) :
    d.print σ = d.print τ := by
  rw [print, print, hplaceholders, Writer.write_congr h]

/-! ## The policy -/

/-- The same settings under another policy. -/
def Settings.under (settings : Settings) (policy : Policy) : Settings :=
  { settings with policy }

variable (settings : Settings) (p q : Policy)

/-- Two policies give settings of one layout. -/
theorem Settings.sameLayout_under :
    (settings.under p).SameLayout (settings.under q) :=
  ⟨rfl, rfl, rfl, rfl, rfl⟩

/-- Names are quoted alike under every policy. -/
theorem Ident.quote_under (name : String) :
    quote (settings.under p) name = quote (settings.under q) name :=
  rfl

/-- A part of a statement is written in the same way under every policy,
to any writer. -/
theorem Node.write_under (n : Node) (w : Writer) :
    w.write (settings.under p) (n.doc (settings.under p)) =
      w.write (settings.under q) (n.doc (settings.under q)) := by
  rw [n.doc_congr (settings.sameLayout_under p q),
    Writer.write_congr (Ident.quote_under settings p q)]

/-- Every part of the syntax prints the same text, or fails with the same error,
under every policy. -/
theorem Node.print_under (n : Node) :
    (n.doc (settings.under p)).print (settings.under p) =
      (n.doc (settings.under q)).print (settings.under q) := by
  rw [n.doc_congr (settings.sameLayout_under p q),
    Doc.print_congr (Ident.quote_under settings p q) rfl]

/-- A query is not validated, so the policy changes nothing for it. -/
theorem Query.render_under (query : Query) :
    query.render (settings.under p) = query.render (settings.under q) :=
  Node.print_under settings p q (.query query)

namespace Statement

/-- The lenient policy refuses nothing. -/
theorem rejection?_lenient (s : Statement) :
    s.rejection? (settings.under .lenient) = none :=
  rfl

/-- Printing strictly is checking first and printing leniently then. -/
theorem render_strict (s : Statement) :
    s.render (settings.under .strict) =
      match s.rejection? (settings.under .strict) with
      | some e => .error e
      | none => s.render (settings.under .lenient) := by
  rw [render, render, rejection?_lenient]
  cases s.rejection? (settings.under .strict) with
  | some e => rfl
  | none => exact Node.print_under settings .strict .lenient (.statement s)

/-- A statement is printed strictly when it is not refused and is printed leniently,
with the same text. -/
theorem render_strict_eq_ok {s : Statement} {text : String} :
    s.render (settings.under .strict) = .ok text ↔
      s.rejection? (settings.under .strict) = none ∧
        s.render (settings.under .lenient) = .ok text := by
  rw [render_strict]
  cases s.rejection? (settings.under .strict) <;> simp

/-- A refusal comes before any fault in the statement. -/
theorem failure?_strict (s : Statement) :
    s.failure? (settings.under .strict) =
      (s.rejection? (settings.under .strict)).or
        (s.failure? (settings.under .lenient)) := by
  rw [failure?, render_strict]
  cases s.rejection? (settings.under .strict) <;> rfl

end Statement

/-- A list is printed strictly if none of its statements is refused and it is
printed leniently. -/
theorem renderAll_strict_eq_ok {statements : List Statement} {text : String} :
    renderAll (settings.under .strict) statements = .ok text ↔
      (∀ s ∈ statements, s.rejection? (settings.under .strict) = none) ∧
        renderAll (settings.under .lenient) statements = .ok text := by
  have hmap (texts : List String) :
      statements.map (Statement.render (settings.under .strict)) = texts.map .ok ↔
        (∀ s ∈ statements, s.rejection? (settings.under .strict) = none) ∧
          statements.map (Statement.render (settings.under .lenient)) =
            texts.map .ok := by
    induction statements generalizing texts with
    | nil => simp
    | cons s statements ih =>
        cases texts with
        | nil => simp
        | cons text texts =>
            simp only [List.map_cons, List.cons.injEq, ih,
              Statement.render_strict_eq_ok, List.forall_mem_cons]
            exact and_and_and_comm
  simp only [renderAll_eq_ok, hmap, and_assoc, exists_and_left]

/-- The strict policy only filters.  (1) What is written for a part of a statement,
at any depth and to any writer, does not depend on the policy.  (2) So a statement
is refused, or it has the text or the error that it has under the lenient policy;
(3) for a query this is the check of the query followed by the printing of the
query; and (4) a list is printed under the strict policy exactly if all of it is
accepted and printed under the lenient one, with the first fault of either kind as
the error otherwise. -/
theorem render_strict_eq_filter :
    (∀ (n : Node) (w : Writer) (p q : Policy),
      w.write (settings.under p) (n.doc (settings.under p)) =
        w.write (settings.under q) (n.doc (settings.under q))) ∧
    (∀ s : Statement, s.render (settings.under .strict) =
      match s.rejection? (settings.under .strict) with
      | some e => .error e
      | none => s.render (settings.under .lenient)) ∧
    (∀ q : Query,
        q.render (settings.under .strict) = q.render (settings.under .lenient) ∧
      (Statement.query q).render (settings.under .strict) =
        match q.rejection? (settings.under .strict) with
        | some e => .error e
        | none => q.render (settings.under .strict)) ∧
    ∀ statements : List Statement,
      (∀ text, renderAll (settings.under .strict) statements = .ok text ↔
        (∀ s ∈ statements, s.rejection? (settings.under .strict) = none) ∧
          renderAll (settings.under .lenient) statements = .ok text) ∧
      ∀ e, renderAll (settings.under .strict) statements = .error e ↔
        statements.findSome? (fun s =>
          (s.rejection? (settings.under .strict)).or
            (s.failure? (settings.under .lenient))) = some e := by
  refine ⟨fun n w p q => Node.write_under settings p q n w,
    Statement.render_strict settings,
    fun q => ⟨Query.render_under settings _ _ q, ?_⟩, fun statements => ⟨?_, ?_⟩⟩
  · have hquery := Statement.render_strict settings (.query q)
    have hlenient : (Statement.query q).render (settings.under .lenient) =
        q.render (settings.under .strict) :=
      Query.render_under settings .lenient .strict q
    rw [hlenient] at hquery
    exact hquery
  · exact fun _ => renderAll_strict_eq_ok settings
  · intro e
    rw [renderAll_eq_error, funext (Statement.failure?_strict settings)]

/-- `DELETE FROM t`, with or without `RETURNING *`. -/
def Delete.ofName (name : String) (returning : List SelectItem) : Delete where
  ctes := none
  targets := []
  tables := [.named none name none]
  joins := []
  usingTables := []
  condition := none
  orderBy := []
  limit := none
  returning := returning

/-- In MySQL one statement of two is refused for its `RETURNING`, and so is the list
of both; the other one is printed as it is under the lenient policy. -/
theorem render_strict_eq_filter_returning :
    let settings := Settings.ofDialect .mysql
    let refused := Statement.delete (.ofName "t" [.star])
    let accepted := Statement.delete (.ofName "u" [])
    refused.rejection? (settings.under .strict) =
        some (.unsupportedFeature .returning .mysql) ∧
      refused.render (settings.under .lenient) = .ok "DELETE FROM `t` RETURNING *" ∧
      refused.render (settings.under .strict) =
          .error (.unsupportedFeature .returning .mysql) ∧
      accepted.render (settings.under .strict) = .ok "DELETE FROM `u`" ∧
      renderAll (settings.under .lenient) [accepted, refused] =
        .ok "DELETE FROM `u` ; DELETE FROM `t` RETURNING *" ∧
      renderAll (settings.under .strict) [accepted, refused] =
        .error (.unsupportedFeature .returning .mysql) := by
  intro settings refused accepted
  have hrefused : refused.rejection? (settings.under .strict) =
      some (.unsupportedFeature .returning .mysql) := by decide +kernel
  have haccepted : accepted.rejection? (settings.under .strict) = none := by
    decide +kernel
  have hlenient : accepted.render (settings.under .lenient) =
      .ok "DELETE FROM `u`" := by decide +kernel
  obtain ⟨-, hstatement, -, hlist⟩ := render_strict_eq_filter settings
  refine ⟨hrefused, by decide +kernel, ?_, ?_, by decide +kernel, ?_⟩
  · rw [hstatement, hrefused]
  · rw [hstatement, haccepted, hlenient]
  · refine ((hlist [accepted, refused]).2 _).2 ?_
    have hfailure := Statement.failure?_eq_none.2 ⟨_, hlenient⟩
    simp only [List.findSome?_cons, haccepted, hrefused, hfailure, Option.or]

end SqlPrinter
