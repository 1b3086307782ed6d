/-
Question marks.  Where no text of a statement has one, the question marks of the
printed text are those of the positional parameters: there are as many as the
writer has counted and as the statement has among the nodes that are printed.
-/
import SqlPrinter.Proofs.Count.Printed
import SqlPrinter.Proofs.Language

namespace SqlPrinter

/-! ## Texts without question marks -/

/-- The text has no question mark in it. -/
def Node.Leaf.LacksQuestion : Node.Leaf → Prop
  | .verbatim s | .name s | .string s | .mark s => '?' ∉ s.toList

section Texts

variable {s t : String}

/-- Without question marks none are counted. -/
theorem count_question_eq_zero (h : ∀ c ∈ s.toList, c ≠ '?') :
    s.toList.count '?' = 0 :=
  List.count_eq_zero.2 fun hmem => h '?' hmem rfl

theorem ne_question_of_notMem (h : '?' ∉ s.toList) : ∀ c ∈ s.toList, c ≠ '?' :=
  fun _ hc heq => h (heq ▸ hc)

/-- Question marks are counted text by text. -/
theorem count_question_append :
    (s ++ t).toList.count '?' = s.toList.count '?' + t.toList.count '?' := by
  rw [String.toList_append, List.count_append]

/-- No letter is a question mark. -/
theorem ne_question_of_isAlpha (c : Char) (hc : c.isAlpha = true) : c ≠ '?' := by
  rintro rfl
  contradiction

theorem QuoteMarks.opening_ne_question (marks : QuoteMarks) :
    marks.opening ≠ '?' := by
  cases marks <;> decide

theorem QuoteMarks.closing_ne_question (marks : QuoteMarks) :
    marks.closing ≠ '?' := by
  cases marks <;> decide

theorem Ident.count_question_quote (settings : Settings) (h : '?' ∉ s.toList) :
    (quote settings s).toList.count '?' = 0 :=
  count_question_eq_zero (forall_mem_quote ne_question_of_isAlpha
    settings.dialect.quoteMarks.opening_ne_question
      settings.dialect.quoteMarks.closing_ne_question
    (ne_question_of_notMem h))

theorem IsPlain.count_question (h : IsPlain s) : s.toList.count '?' = 0 := by
  refine count_question_eq_zero fun c hc heq => ?_
  have hplain : isPlainChar c = true := List.all_eq_true.1 h c hc
  rw [heq] at hplain
  contradiction

end Texts

/-- Texts with as many question marks as are counted. -/
def Language.questions (settings : Settings) :
    Language settings Node.Leaf.LacksQuestion where
  Mem k s := s.toList.count '?' = k
  append hs ht := by rw [count_question_append, hs, ht]
  parens hs := by
    rw [count_question_append, count_question_append, hs]
    exact Nat.zero_add _
  nullsKey hbetween hs := by
    rw [count_question_append, count_question_append, count_question_append, hs]
    rcases hbetween with rfl | rfl <;> rfl
  question := rfl
  plain hs := hs.count_question
  dims := rfl
  verbatim hs := List.count_eq_zero.2 hs
  word hs := count_question_eq_zero
    (Text.forall_mem_toUpper ne_question_of_isAlpha (ne_question_of_notMem hs))
  digits hlead hs := by
    rw [count_question_append, count_question_append, List.count_eq_zero.2 hs]
    rcases hlead with rfl | rfl <;> rfl
  mark hs := List.count_eq_zero.2 hs
  name hs := Ident.count_question_quote settings hs
  row := Ident.count_question_quote settings (by decide)
  string hs := count_question_eq_zero
    (Quoted.forall_mem_wrap (by decide) (by decide) (ne_question_of_notMem hs))

/-! ## Question marks in printed texts -/

namespace Root

/-- A text without question marks of its own has as many as are counted. -/
theorem count_question_write {settings : Settings} {root : Root}
    {placeholders : PlaceholderStyle} (h : root.node.Every Node.Leaf.LacksQuestion)
    (hw : (root.write settings (.fresh placeholders)).1 = none) :
    (root.write settings (.fresh placeholders)).2.buffer.toList.count '?' =
      (root.write settings (.fresh placeholders)).2.counters.positional := by
  obtain ⟨s, hs, hcount⟩ := exists_text_of_write (.questions settings) h hw
  have hbuffer : (root.write settings (.fresh placeholders)).2.buffer = s := by
    rw [hs]
    exact String.empty_append
  rw [hbuffer]
  exact hcount

/-- One question mark is printed for each positional parameter.  If a statement is
printed, the writer has counted as many as there are among the nodes that are
printed, and these are all question marks of the text if no text of the statement
has one.  A statement is not printed if a positional parameter stands in a sort
key that is printed twice, at any depth. -/
theorem write_positional (settings : Settings) (root : Root)
    (placeholders : PlaceholderStyle) :
    let written := root.write settings (.fresh placeholders)
    (written.1 = none →
      written.2.counters.positional =
        (Walk.printed.nodes root.node).countP (Node.isPositional placeholders) ∧
      (root.node.Every Node.Leaf.LacksQuestion →
        written.2.buffer.toList.count '?' = written.2.counters.positional)) ∧
    ∀ k ∈ Walk.printed.nodes root.node, k.isRepeated settings = true →
      (∃ m ∈ Walk.printed.nodes k, m.isPositional placeholders = true) →
      written.1 ≠ none := by
  intro written
  constructor
  · intro hw
    have hpositional := positional_write hw
    rw [Writer.fresh, Counters.start, Nat.zero_add] at hpositional
    exact ⟨hpositional, fun h => count_question_write h hw⟩
  · rintro k hk hrepeated ⟨m, hm, hmark⟩ hw
    exact not_isPositional_of_isRepeated hw hk hrepeated m hm hmark

/-- A query without texts lacks question marks. -/
theorem lacksQuestion_sortedByParameter :
    (Node.query .sortedByParameter).Every Node.Leaf.LacksQuestion := by
  have hbound : (Node.expr (.parameter .bind)).Every Node.Leaf.LacksQuestion :=
    Node.every_iff.2
      ⟨by simp [Node.exprLeaves, Node.parameterLeaves], by simp [Node.ofExpr]⟩
  have hitem :
      (Node.item (.expr (.parameter .bind) none)).Every Node.Leaf.LacksQuestion :=
    Node.every_iff.2 ⟨by simp [Node.names], by simpa using hbound⟩
  have hkey : (Node.sortKey ⟨.parameter .bind, none, some .last⟩).Every
      Node.Leaf.LacksQuestion :=
    Node.every_iff.2 ⟨by simp, by simpa using hbound⟩
  have hbody :
      (Node.body (Query.sortedByParameter).body).Every Node.Leaf.LacksQuestion := by
    refine Node.every_iff.2 ⟨by simp, ?_⟩
    simp only [Query.sortedByParameter, Node.children, List.mem_singleton,
      forall_eq]
    refine Node.every_iff.2 ⟨?_, ?_⟩
    · simp [Node.verbatims, Node.intoLeaves, Node.lockLeaves, Node.names]
    · simpa [Node.ofSelect, Node.exprs, Node.into?, Node.expr?] using hitem
  refine Node.every_iff.2 ⟨by simp, ?_⟩
  simpa [Query.sortedByParameter, Node.with?, Node.expr?, Node.exprs] using
    ⟨hbody, hkey, hbound⟩

/-- The query is printed with four question marks, unless null values are put in
order by a second sort key. -/
theorem write_positional_sortedByParameter :
    let settings := Settings.ofDialect .mysql
    let emulating := { settings with emulateNulls := true }
    let root := Root.query .sortedByParameter
    let written := root.write settings (.fresh .question)
    (written.1 = none ∧ root.node.Every Node.Leaf.LacksQuestion ∧
      written.2.buffer = "SELECT ? ORDER BY ? NULLS LAST LIMIT ? OFFSET ?" ∧
      written.2.counters.positional =
        (Walk.printed.nodes root.node).countP (Node.isPositional .question) ∧
      written.2.buffer.toList.count '?' = written.2.counters.positional) ∧
    (∃ k ∈ Walk.printed.nodes root.node, k.isRepeated emulating = true ∧
      ∃ m ∈ Walk.printed.nodes k, m.isPositional .question = true) ∧
    (root.write emulating (.fresh .question)).1 ≠ none := by
  intro settings emulating root written
  have hok : written.1 = none := by decide +kernel
  have hbuffer :
      written.2.buffer = "SELECT ? ORDER BY ? NULLS LAST LIMIT ? OFFSET ?" := by
    decide +kernel
  have hlacks : root.node.Every Node.Leaf.LacksQuestion :=
    lacksQuestion_sortedByParameter
  obtain ⟨hpositional, hcount⟩ := (write_positional settings root .question).1 hok
  have hkey : Node.sortKey ⟨.parameter .bind, none, some .last⟩ ∈
      Walk.printed.nodes root.node := by
    refine Walk.mem_nodes_of_mem_parts _ ?_ (Walk.self_mem_nodes _ _)
    simp [root, Root.node, Walk.printed, Node.shown, Query.sortedByParameter]
  have hmark : Node.expr (.parameter .bind) ∈
      Walk.printed.nodes (.sortKey ⟨.parameter .bind, none, some .last⟩) := by
    refine Walk.mem_nodes_of_mem_parts _ ?_ (Walk.self_mem_nodes _ _)
    simp [Walk.printed, Node.shown]
  have hrepeated : (Node.sortKey ⟨.parameter .bind, none, some .last⟩).isRepeated
      emulating = true := rfl
  exact ⟨⟨hok, hlacks, hbuffer, hpositional, hcount hlacks⟩,
    ⟨_, hkey, hrepeated, _, hmark, rfl⟩,
    (write_positional emulating root .question).2 _ hkey hrepeated ⟨_, hmark, rfl⟩⟩

end Root

end SqlPrinter
