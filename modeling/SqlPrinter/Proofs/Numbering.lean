/-
The numbers of bound parameters.  They are given out in the order in which the
parameters appear in the text, one after the other from the number of the writer
on, so that the values of the parameters can be bound in this order.
-/
import SqlPrinter.Proofs.Filling.Usage
import SqlPrinter.Proofs.Pattern.Statement
import SqlPrinter.Proofs.Template
import SqlPrinter.Render
import SqlPrinter.Writer

namespace SqlPrinter

/-! ## What can be written -/

/-- What a writer can be given. -/
inductive Root where
  | expr (e : Expr)
  | query (q : Query)
  | statement (s : Statement)

namespace Root

/-- The layout under some settings. -/
def doc (settings : Settings) : Root → Doc
  | expr e => Layout.expr settings e
  | query q => Layout.queryDoc settings q
  | statement s => s.doc settings

/-- The reason to refuse it.  Only statements are checked. -/
def rejection? (settings : Settings) : Root → Option Error
  | expr _ | query _ => none
  | statement s => s.rejection? settings

/-- Write it at the end of a text, unless the policy refuses it. -/
def write (settings : Settings) (root : Root) (w : Writer) :
    Option Error × Writer :=
  match root.rejection? settings with
  | some e => (some e, w)
  | none => w.write settings (root.doc settings)

/-- The text of it on its own. -/
def render (settings : Settings) : Root → Except Error String
  | expr e => e.render settings
  | query q => q.render settings
  | statement s => s.render settings

/-- On its own it has the text that a fresh writer gets. -/
theorem render_eq_write (settings : Settings) (root : Root) :
    root.render settings =
      match root.write settings (.fresh settings.placeholders) with
      | (some e, _) => .error e
      | (none, w) => .ok w.buffer := by
  have hprint (d : Doc) : d.print settings =
      match (Writer.fresh settings.placeholders).write settings d with
      | (some e, _) => .error e
      | (none, w) => .ok w.buffer := by
    rw [Doc.print]
    rcases (Writer.fresh settings.placeholders).write settings d
      with ⟨_ | e, w⟩ <;> rfl
  cases root with
  | expr e => exact hprint _
  | query q => exact hprint _
  | statement s =>
      simp only [render, Statement.render, write, rejection?]
      cases s.rejection? settings with
      | some e => rfl
      | none => exact hprint _

/-- Put parameters in the place of the bound ones. -/
def bind (binds : Site → Parameter) : Root → Root
  | expr e => .expr ((Filling.binds binds).expr [] e)
  | query q => .query ((Filling.binds binds).query [] q)
  | statement s => .statement ((Filling.binds binds).statement [] s)

/-- Other parameters do not change whether it is refused. -/
theorem rejection?_bind (settings : Settings) (binds : Site → Parameter)
    (root : Root) :
    (root.bind binds).rejection? settings = root.rejection? settings := by
  cases root with
  | expr e => rfl
  | query q => rfl
  | statement s => exact Filling.rejection?_statement _ settings [] s

/-- A statement, an expression or a query has a pattern whose sites are all
different. -/
theorem exists_pattern (settings : Settings) (root : Root) :
    ∃ l F, Pattern settings (fun _ => True) l F ∧ l.Nodup ∧
      F .same = root.doc settings ∧
        ∀ binds, F (.binds binds) = (root.bind binds).doc settings := by
  have hpattern (n : Node) : n.HasPattern settings fun _ => True :=
    Node.hasPattern fun _ _ _ _ => trivial
  cases root with
  | expr e =>
      obtain ⟨l, hF, hl, -⟩ := hpattern (.expr e) []
      exact ⟨l, _, hF, hl, by rw [Filling.same_expr]; rfl, fun _ => rfl⟩
  | query q =>
      obtain ⟨l, hF, hl, -⟩ := hpattern (.query q) []
      exact ⟨l, _, hF, hl, by rw [Filling.same_query]; rfl, fun _ => rfl⟩
  | statement s =>
      obtain ⟨l, hF, hl, -⟩ := hpattern (.statement s) []
      exact ⟨l, _, hF, hl, by rw [Filling.same_statement]; rfl, fun _ => rfl⟩

end Root

/-! ## Question marks -/

/-- A bound parameter is a question mark where all parameters are. -/
theorem Pattern.run_question {settings : Settings} {ok : Node.Leaf → Prop}
    {l : List Site} {F : Filling → Doc} (hF : Pattern settings ok l F) :
    (F (.binds fun _ => .question)).run .question = (F .same).run .question := by
  induction hF with
  | append _ _ ihF ihG =>
      funext c
      simp only [HAppend.hAppend, Append.append, Doc.run]
      rw [ihF, ihG]
  | parens _ ih =>
      funext c
      simp only [Doc.parens, HAppend.hAppend, Append.append, Doc.run]
      rw [ih]
  | isolated _ ih =>
      funext c
      simp only [Doc.run]
      rw [ih]
  | beside _ _ ihF ihG =>
      funext c
      simp only [Doc.run]
      rw [ihF, ihG]
  | twice _ _ _ _ ih =>
      funext c
      simp only [Doc.run]
      rw [ih]
  | _ => rfl

/-! ## Numbers -/

/-- The sites of the parameters in a text, in the order in which they appear for
the first time. -/
def Slot.parameters (slots : List Slot) : List Site :=
  (sites slots).eraseDups

/-- How the parameters of a text are numbered. -/
structure Root.Numbering (settings : Settings) (root : Root) (w : Writer)
    (slots : List Slot) : Prop where
  /-- The slots show where each bound parameter stands: with numbers in the place
  of the parameters the text is the one that the slots have for these numbers. -/
  template : ∀ numbers : Site → UInt64,
    (root.bind fun b => .dollar (numbers b)).write settings w =
      (none, { w with
        buffer := w.buffer ++ Slot.textOf settings numbers slots
        counters :=
          { (root.write settings w).2.counters with next := w.counters.next } })
  /-- The text does not change if the parameters in it are replaced by the numbers
  from the first one on, in the order in which the parameters appear. -/
  dollars :
    (root.bind fun b =>
        if b ∈ Slot.parameters slots then
          .dollar (b.number w.counters.next (Slot.parameters slots))
        else .bind).write settings w =
      (none, { (root.write settings w).2 with
        counters :=
          { (root.write settings w).2.counters with next := w.counters.next } })
  /-- No number is left out. -/
  next : (root.write settings w).2.counters.next =
    w.counters.next + UInt64.ofNat (Slot.parameters slots).length
  /-- Different parameters have different numbers, unless there are more of them
  than numbers. -/
  distinct : (Slot.parameters slots).length ≤ UInt64.size →
    ∀ b ∈ Slot.parameters slots, ∀ b' ∈ Slot.parameters slots,
      Site.number w.counters.next (Slot.parameters slots) b =
        Site.number w.counters.next (Slot.parameters slots) b' → b = b'
  /-- Only an emulated sort key is printed twice. -/
  once : ∀ b, 1 < (Slot.sites slots).count b →
    settings.nullsByKey = true ∧ Step.nullsKey ∈ b

section Write

variable {settings : Settings} {w : Writer}

/-- What a writer is left with by a layout that prints slots. -/
theorem Root.write_of_prints {root : Root} {numbers : Site → UInt64}
    {slots : List Slot} {c : Counters} (hnone : root.rejection? settings = none)
    (hw : w.placeholders = .numbered)
    (h : ((root.doc settings).run .numbered w.counters).Prints settings numbers
      slots c) :
    root.write settings w =
      (none, { w with
        buffer := w.buffer ++ Slot.textOf settings numbers slots
        counters := c }) := by
  rw [write, hnone]
  simp only [Writer.write_eq, Writer.add, hw, h.failure, h.counters, h.pieces.text]

/-- Different sites get different numbers, as long as the numbers do not run
over. -/
theorem Site.number_inj {n : UInt64} {l : List Site} (hl : l.length ≤ UInt64.size)
    {b b' : Site} (hb : b ∈ l) (hb' : b' ∈ l)
    (h : Site.number n l b = Site.number n l b') : b = b' := by
  have hindex : UInt64.ofNat (l.idxOf b) = UInt64.ofNat (l.idxOf b') :=
    (UInt64.add_right_inj n).1 h
  have hlt : l.idxOf b < l.length := List.idxOf_lt_length_of_mem hb
  have hlt' : l.idxOf b' < l.length := List.idxOf_lt_length_of_mem hb'
  have hsame : l.idxOf b = l.idxOf b' := by
    have hnat := congrArg UInt64.toNat hindex
    rwa [UInt64.toNat_ofNat_of_lt' (Nat.lt_of_lt_of_le hlt hl),
      UInt64.toNat_ofNat_of_lt' (Nat.lt_of_lt_of_le hlt' hl)] at hnat
  calc
    b = l[l.idxOf b] := (List.getElem_idxOf hlt).symm
    _ = l[l.idxOf b'] := by simp only [hsame]
    _ = b' := List.getElem_idxOf hlt'

/-- Where a numbered layout is written there is a numbering of its sites. -/
theorem Root.exists_numbering {root : Root} (hw : w.placeholders = .numbered)
    (hok : (root.write settings w).1 = none) :
    ∃ slots, root.Numbering settings w slots := by
  obtain ⟨l, F, hF, hl, hsame, hbind⟩ := root.exists_pattern settings
  have hnone : root.rejection? settings = none := by
    cases hrejection : root.rejection? settings with
    | none => rfl
    | some e =>
        rw [write, hrejection] at hok
        contradiction
  have hrun : ((F .same).run .numbered w.counters).failure = none := by
    rw [hsame, ← hw]
    have hwrite : w.write settings (root.doc settings) = root.write settings w := by
      rw [write, hnone]
    rw [Writer.write_eq] at hwrite
    exact (congrArg Prod.fst hwrite).trans hok
  obtain ⟨slots, k, h⟩ := hF.exists_template hl hrun
  have hparameters : Slot.parameters slots = l := h.sites
  have hwrite {binds : Site → Parameter} {numbers : Site → UInt64} {m : UInt64}
      (hnumbers : Numbered binds numbers l w.counters.next m) :
      (root.bind binds).write settings w =
        (none, { w with
          buffer := w.buffer ++ Slot.textOf settings numbers slots
          counters := ⟨m, w.counters.positional + k⟩ }) := by
    have hprints := h.run hnumbers
    rw [hbind] at hprints
    exact write_of_prints ((root.rejection?_bind settings binds).trans hnone)
      hw hprints
  have htext : root.write settings w =
      (none, { w with
        buffer := w.buffer ++
          Slot.textOf settings (Site.number w.counters.next l) slots
        counters :=
          ⟨w.counters.next + UInt64.ofNat l.length,
            w.counters.positional + k⟩ }) := by
    have hprints := h.run (Numbered.of_binds hl w.counters.next)
    rw [← Filling.same, hsame] at hprints
    exact write_of_prints hnone hw hprints
  refine ⟨slots, ?_, ?_, ?_, ?_, h.once⟩
  · intro numbers
    rw [hwrite (Numbered.of_dollars (fun _ _ => rfl) _), htext]
  · rw [hparameters, htext]
    refine hwrite (Numbered.of_dollars (fun b hb => ?_) _)
    rw [if_pos hb]
  · rw [hparameters, htext]
  · rw [hparameters]
    exact fun hlength b hb b' hb' hnumber => Site.number_inj hlength hb hb' hnumber

end Write

/-- Bound parameters are numbered in the order in which they appear in the text,
without gaps and without sharing a number; as question marks they are the same
as question marks of the statement. -/
theorem Root.write_bound (settings : Settings) (root : Root) (w : Writer) :
    (w.placeholders = .numbered → (root.write settings w).1 = none →
      ∃ slots, root.Numbering settings w slots) ∧
    (w.placeholders = .question →
      (root.bind fun _ => .question).write settings w = root.write settings w) := by
  constructor
  · exact exists_numbering
  · intro hw
    obtain ⟨l, F, hF, -, hsame, hbind⟩ := root.exists_pattern settings
    have hrun := hF.run_question
    rw [hbind, hsame] at hrun
    rw [write, write, rejection?_bind]
    cases root.rejection? settings with
    | some e => rfl
    | none => simp only [Writer.write_eq, Writer.add, hw, hrun]

/-- `SELECT ? ORDER BY ? NULLS LAST LIMIT ? OFFSET ?`, all of them bound. -/
def Query.sortedByParameter : Query where
  ctes := none
  body := .select
    { distinct := false, distinctOn := [], options := [],
      items := [.expr (.parameter .bind) none], into := none, tables := [],
      joins := [], condition := none, groupBy := [], groupModifiers := [],
      having := none, windows := [], orderBy := [], limit := none, offset := none,
      locking := none }
  orderBy := [{ key := .parameter .bind, direction := none, nulls := some .last }]
  limit := some (.parameter .bind)
  offset := some (.parameter .bind)

/-- The sort key prints its number twice, and the offset has its number before
the limit has. -/
theorem Root.write_bound_sortedByParameter :
    let settings :=
      { Settings.ofDialect .mysql with
        emulateNulls := true, mysqlLimit := .offsetCommaLimit }
    let root := Root.query .sortedByParameter
    let w : Writer := ⟨"", ⟨5, 0⟩, .numbered⟩
    let v : Writer := ⟨"", ⟨5, 0⟩, .question⟩
    (w.placeholders = .numbered ∧ (root.write settings w).1 = none ∧
      (root.write settings w).2.buffer =
        "SELECT $5 ORDER BY ($6 IS NULL) ASC, $6 LIMIT $7, $8" ∧
      ∃ slots, root.Numbering settings w slots) ∧
    (v.placeholders = .question ∧
      (root.bind fun _ => .question).write settings v = root.write settings v) := by
  intro settings root w v
  have hok : (root.write settings w).1 = none := by decide +kernel
  have hbuffer : (root.write settings w).2.buffer =
      "SELECT $5 ORDER BY ($6 IS NULL) ASC, $6 LIMIT $7, $8" := by decide +kernel
  exact ⟨⟨rfl, hok, hbuffer, (write_bound settings root w).1 rfl hok⟩,
    rfl, (write_bound settings root v).2 rfl⟩

end SqlPrinter
