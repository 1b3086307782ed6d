/-
How the parts without expressions are laid out under a rule of spacing, and the
clauses that are put together from the layouts of their parts.  Where a text may be
empty, it has to stand in a place at which nothing is left of it.
-/
import SqlPrinter.Proofs.Pattern.Query
import SqlPrinter.Proofs.Sight.Query
import SqlPrinter.Proofs.Spacing

namespace SqlPrinter

variable {S : Spacing} {settings : Settings} {p q : Side}

/-! ## Texts -/

variable (S) in
/-- In the use that is made of a text it keeps to the rule. -/
def Node.Leaf.IsSpaced (settings : Settings) : Node.Leaf → Prop
  | .verbatim s => S.Piece? .word .word s ∧ S.Piece? .word .word s.toUpper
  | .name s => S.Piece .word .word (Ident.quote settings s)
  | .string s => S.Piece .word .word (Quoted.string s)
  | .mark s => S.Piece? .word .word s

/-- The keyword, the symbol and the value are all empty. -/
def KeywordValue.IsBlank (kv : KeywordValue) : Prop :=
  kv.fragments.parts = []

namespace Doc

open Node.Leaf

variable {ss : List String} {o : Option String} {s : String}

theorem lays?_word (h : (Node.Leaf.verbatim s).IsSpaced S settings) :
    (word s).Lays? S settings .word .word :=
  lays?_verbatim h.2

/-- A text with a character stays a text in upper case. -/
theorem lays_word (h : (Node.Leaf.verbatim s).IsSpaced S settings)
    (hs : S.Empty ∨ s ≠ "") : (word s).Lays S settings .word .word := by
  refine lays_verbatim (h.2.piece (hs.imp_right fun hne => ?_))
  rwa [ne_eq, Text.toUpper_eq_empty_iff]

theorem lays_verbatim_of_ne (h : (Node.Leaf.verbatim s).IsSpaced S settings)
    (hs : s ≠ "") : (verbatim s).Lays S settings .word .word :=
  lays_verbatim (h.1.piece (Or.inr hs))

theorem lays?_words (h : ∀ s ∈ ss, (Node.Leaf.verbatim s).IsSpaced S settings) :
    (words ss).Lays? S settings .word .word := by
  refine lays?_fragments fun d hd => ?_
  obtain ⟨s, hs, rfl⟩ := List.mem_map.1 hd
  exact lays?_word (h s hs)

theorem lays_words (h : ∀ s ∈ ss, (Node.Leaf.verbatim s).IsSpaced S settings)
    (hss : S.Empty ∨ ∃ s ∈ ss, s ≠ "") :
    (words ss).Lays S settings .word .word := by
  rcases hss with hempty | ⟨s, hs, hne⟩
  · exact fun c s c' hwrites => (lays?_words h _ _ _ hwrites).piece (Or.inl hempty)
  · refine lays_fragments (fun d hd => ?_) ⟨word s, List.mem_map_of_mem hs, ?_⟩
    · obtain ⟨s, hs, rfl⟩ := List.mem_map.1 hd
      exact lays?_word (h s hs)
    · exact lays_word (h s hs) (Or.inr hne)

theorem lays_path (h : ∀ s ∈ ss, (Node.Leaf.name s).IsSpaced S settings)
    (hne : ss ≠ []) : (path ss).Lays S settings .word .word := by
  refine lays_joined (lays_text rfl) (fun d hd => ?_) (by simpa using hne)
  obtain ⟨s, hs, rfl⟩ := List.mem_map.1 hd
  exact lays_name (h s hs)

theorem lays_names {node field : String}
    (h : ∀ s ∈ ss, (Node.Leaf.name s).IsSpaced S settings) (hne : ss ≠ []) :
    (names node field ss).Lays S settings .word .word := by
  obtain ⟨s, ss, rfl⟩ := List.exists_cons_of_ne_nil hne
  obtain ⟨hs, hss⟩ := List.forall_mem_cons.1 h
  refine (lays?_require.append_lays (lays_name hs)).append_lays?
    (lays?_concat fun d hd => ?_)
  obtain ⟨t, ht, rfl⟩ := List.mem_map.1 hd
  have hname := lays_name (hss t ht)
  exact ((lays?_require.append_lays (lays_text rfl)).append (q := .gap) hname).lays?

theorem lays?_names {node field : String}
    (h : ∀ s ∈ ss, (Node.Leaf.name s).IsSpaced S settings) :
    (names node field ss).Lays? S settings .word .word := by
  by_cases hne : ss = []
  · rw [hne]
    exact lays?_empty
  · exact (lays_names h hne).lays?

/-- A list of names in parentheses that is left out if it is empty. -/
theorem lays?_namesInParens {node field : String}
    (h : ∀ s ∈ ss, (Node.Leaf.name s).IsSpaced S settings) :
    (if ss.isEmpty then empty else text " " ++ parens (names node field ss)).Lays?
      S settings .gap .word := by
  split
  · exact lays?_empty
  · exact ((lays_text (q := .gap) rfl).append (lays?_names h).parens).lays?

theorem lays?_rename {withAs : Bool}
    (h : ∀ s ∈ o, (Node.Leaf.name s).IsSpaced S settings) :
    (rename withAs o).Lays? S settings .gap .word := by
  unfold rename
  split
  · exact lays?_empty
  · next s hs =>
      have hlead : isFixed .gap .gap (if withAs then " AS " else " ") = true := by
        cases withAs <;> rfl
      exact ((lays_text hlead).append
        (lays_name (h s (Text.mem_of_mem_nonEmpty hs)))).lays?

end Doc

open Doc

/-! ## Leaves -/

theorem ColumnRef.lays_doc {ref : ColumnRef}
    (h : ∀ l ∈ Node.columnLeaves ref, l.IsSpaced S settings) :
    ref.doc.Lays S settings .word .word := by
  refine lays?_require.append_lays (lays_path (fun s hs => h _ ?_) (by simp))
  refine List.mem_map_of_mem ?_
  simp only [List.mem_append, Option.mem_toList, List.mem_singleton] at hs ⊢
  exact hs.imp_left fun hs =>
    hs.imp Text.mem_of_mem_nonEmpty Text.mem_of_mem_nonEmpty

theorem ObjectName.lays_doc {object : ObjectName}
    (h : ∀ l ∈ Node.objectLeaves object, l.IsSpaced S settings) :
    object.doc.Lays S settings .word .word := by
  refine lays?_require.append_lays (lays_path (fun s hs => h _ ?_) (by simp))
  refine List.mem_map_of_mem ?_
  simp only [List.mem_append, Option.mem_toList, List.mem_singleton] at hs ⊢
  exact hs.imp_left Text.mem_of_mem_nonEmpty

namespace KeywordValue

variable {kv : KeywordValue}

theorem piece_intercalate {ss : List String} (h : ∀ s ∈ ss, S.Piece .word .word s)
    (hne : ss ≠ []) : S.Piece .word .word (" ".intercalate ss) := by
  obtain ⟨s, ss, rfl⟩ := List.exists_cons_of_ne_nil hne
  clear hne
  induction ss generalizing s with
  | nil =>
      rw [String.intercalate_singleton]
      exact h s List.mem_cons_self
  | cons t ss ih =>
      obtain ⟨hs, hss⟩ := List.forall_mem_cons.1 h
      rw [String.intercalate_cons_cons]
      exact (hs.append (Spacing.piece_of_isFixed (q := .gap) rfl)).append (ih t hss)

theorem piece_of_mem_parts
    (h : ∀ l ∈ Node.keywordLeaves kv, l.IsSpaced S settings) :
    ∀ s ∈ kv.fragments.parts, S.Piece .word .word s := by
  have hleaf {s : String}
      (hs : s ∈ kv.keyword :: (kv.symbol.toList ++ [kv.value])) :
      (Node.Leaf.verbatim s).IsSpaced S settings :=
    h _ (List.mem_map_of_mem hs)
  intro s hs
  have hne := Or.inr (a := S.Empty) (kv.fragments.parts_ne_empty s hs)
  rcases kv.mem_parts_fragments hs with rfl | hs | rfl
  · exact (hleaf List.mem_cons_self).2.piece hne
  · exact (hleaf (by simp [Option.mem_def.1 hs])).1.piece hne
  · exact (hleaf (by simp)).2.piece hne

theorem lays?_doc (h : ∀ l ∈ Node.keywordLeaves kv, l.IsSpaced S settings) :
    kv.doc.Lays? S settings .word .word := by
  apply lays?_verbatim
  by_cases hblank : kv.IsBlank
  · rw [Fragments.join, hblank, String.intercalate_nil]
    exact Spacing.piece?_empty
  · exact (piece_intercalate (piece_of_mem_parts h) hblank).piece?

/-- Something is printed if one of the parts is not empty. -/
theorem lays_doc (h : ∀ l ∈ Node.keywordLeaves kv, l.IsSpaced S settings)
    (hfull : S.Empty ∨ ¬kv.IsBlank) : kv.doc.Lays S settings .word .word := by
  rcases hfull with hempty | hblank
  · exact fun c s c' hwrites => (lays?_doc h _ _ _ hwrites).piece (Or.inl hempty)
  · exact lays_verbatim (piece_intercalate (piece_of_mem_parts h) hblank)

end KeywordValue

theorem lays?_charsetDoc {o : Option String}
    (h : ∀ s ∈ o, (Node.Leaf.verbatim s).IsSpaced S settings) :
    (charsetDoc o).Lays? S settings .word .gap := by
  unfold charsetDoc
  split
  · exact lays?_empty
  · next s hs =>
      have hword := h s (Text.mem_of_mem_nonEmpty hs)
      exact ((lays_word hword (Or.inr (Text.ne_empty_of_nonEmpty hs))).append
        (lays_text rfl)).lays?

/-- Digits after a fixed text that may stand alone. -/
theorem lays_text_verbatim {t s : String} (ht : isFixed .word .word t = true)
    (ht' : isFixed .word .gap t = true)
    (h : (Node.Leaf.verbatim s).IsSpaced S settings) :
    (text t ++ verbatim s).Lays S settings .word .word := by
  rcases h.1 with rfl | hs
  · exact (lays_text ht).append_lays? (q := .word)
      (lays?_verbatim Spacing.piece?_empty)
  · exact (lays_text ht').append (lays_verbatim hs)

theorem Literal.lays_doc {value : Literal}
    (h : ∀ l ∈ Node.literalLeaves value, l.IsSpaced S settings)
    (hfull : S.Empty ∨ ∀ s, value ≠ .typed "" s) (hnumber : value ≠ .number "") :
    (value.doc settings).Lays S settings .word .word := by
  cases value with
  | string value charset =>
      refine (lays?_charsetDoc fun s hs => h _ ?_).append_lays
        (lays_string (h (.string value) ?_))
      · simp [Node.literalLeaves, Node.verbatims, Option.mem_def.1 hs]
      · simp [Node.literalLeaves]
  | national value =>
      exact (lays_text (q := .gap) rfl).append (lays_string (h (.string value) (by
        simp [Node.literalLeaves])))
  | hex digits form charset =>
      have hdigits : (Node.Leaf.verbatim digits).IsSpaced S settings :=
        h _ (by simp [Node.literalLeaves, Node.verbatims])
      refine (lays?_charsetDoc fun s hs => h _ ?_).append_lays ?_
      · simp [Node.literalLeaves, Node.verbatims, Option.mem_def.1 hs]
      · split
        · exact lays_text_verbatim rfl rfl hdigits
        · exact (lays?_verbatim hdigits.1).enclose rfl rfl rfl
  | bit digits form charset =>
      have hdigits : (Node.Leaf.verbatim digits).IsSpaced S settings :=
        h _ (by simp [Node.literalLeaves, Node.verbatims])
      refine (lays?_charsetDoc fun s hs => h _ ?_).append_lays ?_
      · simp [Node.literalLeaves, Node.verbatims, Option.mem_def.1 hs]
      · cases form with
        | quoted => exact (lays?_verbatim hdigits.1).enclose rfl rfl rfl
        | zeroB => exact lays_text_verbatim rfl rfl hdigits
  | number digits =>
      have hne : digits ≠ "" := fun hempty => hnumber (hempty ▸ rfl)
      exact lays?_require.append_lays (lays_verbatim_of_ne
        (h _ (by simp [Node.literalLeaves])) hne)
  | bool value => cases value <;> exact lays_text rfl
  | null => exact lays_text rfl
  | typed kind value =>
      have hkind : S.Empty ∨ kind ≠ "" :=
        hfull.imp_right fun hne hempty => hne value (hempty ▸ rfl)
      refine ((lays_word (h _ ?_) hkind).append (lays_text rfl)).append (q := .gap)
        (lays_string (h (.string value) ?_))
      · simp [Node.literalLeaves]
      · simp [Node.literalLeaves]

theorem Parameter.lays_doc {p : Parameter}
    (h : ∀ l ∈ Node.parameterLeaves p, l.IsSpaced S settings) :
    p.doc.Lays S settings .word .word := by
  cases p with
  | question => exact lays_question
  | dollar index => exact (lays_text (q := .gap) rfl).append lays_number
  | named s =>
      exact lays_text_verbatim rfl rfl (h _ (by simp [Node.parameterLeaves]))
  | bind => exact lays_placeholder

/-- A printable operator is a word, if its text is when it is not a known one. -/
theorem BinaryOp.lays_doc {op : BinaryOp}
    (h : ∀ s, op = .other s → (Node.Leaf.verbatim s).IsSpaced S settings)
    (hprintable : op.isPrintable = true) : op.doc.Lays S settings .word .word := by
  cases op with
  | standard op => cases op <;> exact lays_text rfl
  | other s =>
      refine lays_verbatim_of_ne (h s rfl) ?_
      rintro rfl
      contradiction

/-- Array dimensions may follow a word directly. -/
theorem ArrayDim.lays_doc (dims : ArrayDim) :
    dims.doc.Lays S settings .gap .word := by
  cases dims <;> exact lays_text rfl

theorem Direction.lays?_doc? (d : Option Direction) :
    (doc? d).Lays? S settings .gap .word := by
  rcases d with _ | _ | _
  · exact lays?_empty
  · exact (lays_text rfl).lays?
  · exact (lays_text rfl).lays?

theorem NullsOrder.lays?_doc? (n : Option NullsOrder) :
    (doc? n).Lays? S settings .gap .word := by
  rcases n with _ | _ | _
  · exact lays?_empty
  · exact (lays_text rfl).lays?
  · exact (lays_text rfl).lays?

theorem Materialization.lays?_doc? (m : Option Materialization) :
    (doc? m).Lays? S settings .gap .word := by
  rcases m with _ | _ | _
  · exact lays?_empty
  · exact (lays_text rfl).lays?
  · exact (lays_text rfl).lays?

/-- A locking clause follows with a space of its own. -/
theorem Locking.lays_doc {lock : Locking}
    (h : ∀ s ∈ lock.tables, (Node.Leaf.name s).IsSpaced S settings) :
    lock.doc.Lays S settings .gap .word := by
  have hdetails : lock.details.Lays? S settings .gap .word := by
    refine Lays?.append (q := .word) ?_ ?_
    · by_cases htables : lock.tables.isEmpty
      · rw [if_pos htables]
        exact lays?_empty
      · rw [if_neg htables]
        have hne : lock.tables ≠ [] := by simpa using htables
        exact ((lays_text (q := .gap) rfl).append (lays_names h hne)).lays?
    · split
      · exact lays?_empty
      · exact (lays_text rfl).lays?
      · exact (lays_text rfl).lays?
  unfold doc
  split
  · exact lays_text rfl
  · exact (lays_text rfl).append_lays? (q := .word) hdetails
  · exact (lays_text rfl).append_lays? (q := .word) hdetails

/-! ## Clauses -/

namespace Layout

/-- A sort key is a word, with its nulls emulated or not. -/
theorem lays_orderItem {key : Doc} (direction : Option Direction)
    (nulls : Option NullsOrder) (hkey : key.Lays S settings .word .word) :
    (orderItem settings key direction nulls).Lays S settings .word .word := by
  have hdirection : (Direction.doc? direction).Lays? S settings .gap .word :=
    Direction.lays?_doc? direction
  unfold orderItem
  dsimp only
  split
  · exact (lays_twice rfl rfl hkey).append_lays? hdirection
  · exact (lays_twice rfl rfl hkey).append_lays? hdirection
  · exact (hkey.append_lays? hdirection).append_lays? (NullsOrder.lays?_doc? _)

/-- ORDER BY follows with a space of its own, or is empty. -/
theorem lays?_orderBy {keys : List Doc}
    (h : ∀ d ∈ keys, d.Lays S settings .word .word) :
    (orderBy keys).Lays? S settings .gap .word := by
  unfold orderBy
  split
  · exact lays?_empty
  · next hne =>
      exact ((lays_text (q := .gap) rfl).append
        (lays_commas h (by simpa using hne))).lays?

/-- A limit follows with a space of its own in each spelling, or is empty. -/
theorem lays?_limit {count offset : Option Doc}
    (hcount : ∀ d ∈ count, d.Lays S settings .word .word)
    (hoffset : ∀ d ∈ offset, d.Lays S settings .word .word) :
    (limit settings count offset).Lays? S settings .gap .word := by
  unfold limit
  split
  · next count offset _ _ =>
      exact ((((lays_text (q := .gap) rfl).append (hoffset offset rfl)).append
        (lays_text (q := .gap) rfl)).append (hcount count rfl)).lays?
  · exact (lays?_clause rfl hcount).append (q := .word) (lays?_clause rfl hoffset)

/-- GROUP BY follows with a space of its own, or is empty. -/
theorem lays?_groupBy {keys : List Doc} (modifiers : List GroupModifier)
    {sets : Option Doc}
    (hkeys : sets = none → ∀ d ∈ keys, d.Lays S settings .word .word)
    (hsets : ∀ d ∈ sets, d.Lays? S settings .word .word) :
    (groupBy settings keys modifiers sets).Lays? S settings .gap .word := by
  cases sets with
  | some sets =>
      exact ((lays_text (q := .gap) rfl).append (hsets sets rfl).parens).lays?
  | none =>
      by_cases hempty : keys = []
      · rw [groupBy, hempty]
        exact lays?_empty
      have hlist := lays_commas (hkeys rfl) hempty
      have hnonempty : keys.isEmpty = false := by simpa using hempty
      simp only [groupBy, hnonempty]
      split
      · contradiction
      split
      · exact ((lays_text (q := .gap) rfl).append hlist.lays?.parens).lays?
      split
      · split
        · exact (((lays_text (q := .gap) rfl).append hlist).append
            (lays_text rfl)).lays?
        · exact ((lays_text (q := .gap) rfl).append hlist.lays?.parens).lays?
      · exact ((lays_text (q := .gap) rfl).append hlist).lays?

theorem lays_tables {ts js : List Doc}
    (hts : (commas ts).Lays S settings .word .word)
    (hjs : ∀ d ∈ js, d.Lays S settings .word .word) :
    (tables ts js).Lays S settings .word .word := by
  refine hts.append_lays? (lays?_concat fun d hd => ?_)
  obtain ⟨j, hj, rfl⟩ := List.mem_map.1 hd
  exact ((lays_text rfl).append (q := .gap) (hjs j hj)).lays?

/-- ON and USING follow with a space of their own, or there is no condition. -/
theorem lays?_joinCondition (kind : JoinKind) {condition : Option Doc}
    {columns : Option (List String)}
    (hcondition : kind.takesCondition = true →
      ∀ d ∈ condition, d.Lays S settings .word .word)
    (hcolumns : ∀ s ∈ columns.getD [], (Node.Leaf.name s).IsSpaced S settings) :
    (joinCondition kind condition columns).Lays? S settings .gap .word := by
  unfold joinCondition
  by_cases hkind : kind.takesCondition
  · rw [if_pos hkind]
    rcases condition with _ | condition
    · rcases columns with _ | columns
      · exact lays?_empty
      · exact ((lays_text (q := .gap) rfl).append
          (lays?_names hcolumns).parens).lays?
    · exact ((lays_text (q := .gap) rfl).append
        (hcondition hkind condition rfl)).lays?
  · rw [if_neg hkind]
    exact lays?_empty

theorem lays_valueRow {values : List Doc}
    (h : ∀ d ∈ values, d.Lays S settings .word .word) :
    (valueRow values).Lays S settings .word .word :=
  (lays?_joined (lays_text rfl) h).parens

/-! ### Calls -/

/-- The name of a call and its arguments make a word. -/
theorem lays_callHead {name : String} {separator : Option String}
    (argsParentheses : Bool) {args : List Doc}
    (hname : (verbatim name).Lays S settings .word .word)
    (hargs :
      (joined (argSeparator name separator) args).Lays? S settings .word .word) :
    (callHead name separator argsParentheses args).Lays S settings .word .word := by
  cases argsParentheses with
  | true => exact hname.append (q := .word) hargs.parens
  | false => exact lays_fragments (by simp [hname.lays?, hargs]) ⟨_, by simp, hname⟩

/-- A call is laid out by its name, its list of arguments and what comes after. -/
theorem lays_call {name : String} {args : Option (List Doc)}
    (argsParentheses : Bool) {separator : Option String} (parentheses : Bool)
    {window : Doc} {collate : Option KeywordValue} {suffix : Doc}
    (hname : name ≠ "" → (verbatim name).Lays S settings .word .word)
    (hargs : ∀ ds ∈ args,
      (joined (argSeparator name separator) ds).Lays? S settings .word .word)
    (hwindow : window.Lays? S settings .word .word)
    (hcollate : ∀ kv ∈ collate, ∀ l ∈ Node.keywordLeaves kv, l.IsSpaced S settings)
    (hsuffix : args ≠ none → suffix.Lays? S settings .word .word) :
    (call name args argsParentheses separator parentheses window collate
      suffix).Lays S settings
      .word .word := by
  refine meets_of_not_shows fun hshows => ?_
  have hne : name ≠ "" := by
    rintro rfl
    simp [shows_call] at hshows
  have hverbatim := hname hne
  refine lays?_require.append_lays ?_
  cases args with
  | none =>
      exact lays_fragments (by simp [hverbatim.lays?, hwindow])
        ⟨_, by simp, hverbatim⟩
  | some ds =>
      have hhead := lays_callHead argsParentheses hverbatim (hargs ds rfl)
      have hsuffixed :
          (fragments " " [callHead name separator argsParentheses ds,
            suffix]).Lays S
          settings .word .word :=
        lays_fragments (by simp [hhead.lays?, hsuffix]) ⟨_, by simp, hhead⟩
      have hcollated :
          (Doc.optional (collate.map KeywordValue.doc)).Lays? S settings
          .word .word := by
        refine lays?_optional fun d hd => ?_
        obtain ⟨kv, hkv, rfl⟩ := Option.mem_map.1 hd
        exact KeywordValue.lays?_doc (hcollate kv hkv)
      cases parentheses with
      | true =>
          have hparens := hsuffixed.lays?.parens (p := .word)
          exact lays_fragments (by simpa using ⟨hparens.lays?, hcollated, hwindow⟩)
            ⟨_, List.mem_cons_self, hparens⟩
      | false =>
          exact lays_fragments
            (by simpa using ⟨hsuffixed.lays?, hcollated, hwindow⟩)
            ⟨_, List.mem_cons_self, hsuffixed⟩

/-! ### Types -/

/-- A name between marks, as the name of a type that keeps its letter case. -/
def markedName (mark name : String) : Doc :=
  .verbatim mark ++ .verbatim name ++ .verbatim mark

theorem lays_typeName {type : DataType} (hne : type.name ≠ "")
    (hname : (Node.Leaf.verbatim type.name).IsSpaced S settings)
    (hquoted : ∀ mark ∈ type.quoted,
      (markedName mark type.name).Lays? S settings .word .word) :
    (typeName type).Lays S settings .word .word := by
  unfold typeName
  split
  · exact lays_word hname (Or.inr hne)
  · next mark hmark =>
      refine (hquoted mark hmark).lays fun c s c' hwrites => ?_
      obtain ⟨_, _, _, hlead, -, rfl⟩ := writes_append_iff.1 hwrites
      obtain ⟨_, _, _, -, hverbatim, rfl⟩ := writes_append_iff.1 hlead
      rw [(writes_verbatim_iff.1 hverbatim).1]
      simp [String.append_eq_empty_iff, hne]

theorem lays?_typeArray (type : DataType) :
    (typeArray type).Lays? S settings .gap .word := by
  refine lays?_optional fun d hd => ?_
  obtain ⟨dims, -, rfl⟩ := Option.mem_map.1 hd
  exact (ArrayDim.lays_doc dims).lays?

theorem lays_pair {m n : UInt64} :
    (number m ++ text ", " ++ number n).Lays S settings p q :=
  (lays_number.append (q := .word) (lays_text (q := .gap) rfl)).append lays_number

/-- Words that follow the size of a type, of which there is one that
is not empty. -/
theorem lays?_castSize {type : DataType}
    (hsuffix : ∀ s ∈ type.suffix, (Node.Leaf.verbatim s).IsSpaced S settings)
    (hfull : S.Empty ∨ type.suffix = [] ∨ ∃ s ∈ type.suffix, s ≠ "") :
    (castSize type).Lays? S settings .gap .word := by
  unfold castSize
  refine Lays?.append (q := .word) ?_ ?_
  · split
    · refine (Lays?.parens ?_).lays?
      split
      · exact lays?_empty
      · exact lays_number.lays?
      · exact lays_pair.lays?
    · split
      · exact lays?_empty
      · exact lays_number.lays?
      · exact lays_pair.lays?
  · split
    · exact lays?_empty
    · next hne =>
        have hwords := lays_words hsuffix
          (hfull.imp_right fun h => h.resolve_left (by simpa using hne))
        exact ((lays_text (q := .gap) rfl).append hwords).lays?

theorem lays?_typeSize (type : DataType) {values : List Doc}
    (h : ∀ d ∈ values, d.Lays S settings .word .word) :
    (typeSize type values).Lays? S settings .gap .word := by
  unfold typeSize
  split
  · exact (lays?_commas h).parens.lays?
  · split
    · exact lays_number.lays?.parens.lays?
    · exact lays_pair.lays?.parens.lays?
    · split
      · exact lays?_empty.parens.lays?
      · exact lays?_empty

/-- The type of a cast is a word, unless its suffix is made of empty words only. -/
theorem lays_castType {type : DataType} (hne : type.name ≠ "")
    (h : ∀ l ∈ Node.typeLeaves type, l.IsSpaced S settings)
    (hquoted : ∀ mark ∈ type.quoted,
      (markedName mark type.name).Lays? S settings .word .word)
    (hfull : S.Empty ∨ type.suffix = [] ∨ ∃ s ∈ type.suffix, s ≠ "") :
    (castType type).Lays S settings .word .word := by
  have hname :=
    lays_typeName hne (h _ (by simp [Node.typeLeaves, Node.verbatims])) hquoted
  refine (hname.append_lays? (q := .word) (lays?_typeArray type)).append_lays? ?_
  exact lays?_castSize
    (fun s hs => h _ (by simp [Node.typeLeaves, Node.verbatims, hs])) hfull

/-- The type of a column; what is left of empty words is nothing. -/
theorem lays_dataType {type : DataType} {values : List Doc}
    (h : ∀ l ∈ Node.typeLeaves type, l.IsSpaced S settings)
    (hquoted : ∀ mark ∈ type.quoted,
      (markedName mark type.name).Lays? S settings .word .word)
    (hvalues : ∀ d ∈ values, d.Lays S settings .word .word) :
    (dataType type values).Lays S settings .word .word := by
  refine meets_of_not_shows fun hshows => ?_
  have hne : type.name ≠ "" :=
    fun hempty => hshows (by simp [shows_dataType, hempty])
  have hname :=
    lays_typeName hne (h _ (by simp [Node.typeLeaves, Node.verbatims])) hquoted
  have htype :=
    (hname.append_lays? (q := .word) (lays?_typeSize type hvalues)).append_lays?
    (lays?_typeArray type)
  have hwords : (words type.suffix).Lays? S settings .word .word :=
    lays?_words fun s hs => h _ (by simp [Node.typeLeaves, Node.verbatims, hs])
  refine lays?_require.append_lays
    (lays_fragments ?_ ⟨_, List.mem_cons_self, htype⟩)
  exact List.forall_mem_cons.2 ⟨htype.lays?, List.forall_mem_singleton.2 hwords⟩

/-! ### Conversions -/

theorem lays_castTail {operator : String} {operand : Doc}
    (hoperator : (Node.Leaf.verbatim operator).IsSpaced S settings)
    (hoperand : operand.Lays S settings .word .word) :
    (castTail operator operand).Lays S settings .gap .word := by
  refine meets_of_not_shows fun hshows => ?_
  have hne : operator ≠ "" := by
    rintro rfl
    simp [castTail, Text.isAllBlank] at hshows
  have hspace : (text " ").Lays S settings .gap .gap := lays_text rfl
  exact (((lays?_require.append_lays hspace).append
    (lays_verbatim_of_ne hoperator hne)).append hspace).append hoperand

/-- A cast is a word in both of its forms. -/
theorem lays_cast {subject : Doc} {target : DataType} {form : CastForm}
    {keyword : Option String} {tail : Doc} {rename : Option String}
    {collate : Option KeywordValue} (hsubject : subject.Lays S settings .word .word)
    (htarget : target.name ≠ "" → (castType target).Lays S settings .word .word)
    (hkeyword : (Node.Leaf.verbatim (keyword.getD "")).IsSpaced S settings)
    (htail : tail.Lays? S settings .gap .word)
    (hrename : ∀ s ∈ rename, (Node.Leaf.name s).IsSpaced S settings)
    (hcollate : ∀ kv ∈ collate, kv.doc.Lays S settings .word .word) :
    (cast subject target form keyword tail rename collate).Lays
      S settings .word .word := by
  refine meets_of_not_shows fun hshows => ?_
  have hrequired : target.name ≠ "" ∧ (form = .keyword → keyword.getD "" ≠ "") := by
    rw [shows_cast] at hshows
    grind [Sight.stop_fault]
  have htype := htarget hrequired.1
  have hcollated :
      (clause " " (collate.map KeywordValue.doc)).Lays? S settings .gap .word := by
    refine lays?_clause rfl fun d hd => ?_
    obtain ⟨kv, hkv, rfl⟩ := Option.mem_map.1 hd
    exact hcollate kv hkv
  refine ((Lays.append_lays? (lays?_require.append_lays ?_) htail).append_lays?
    (lays?_rename hrename)).append_lays? hcollated
  cases form with
  | keyword =>
      have hinner :
          (subject ++ requireText (keyword.getD "") "cast" "keyword" ++
            text " AS " ++
          castType target).Lays S settings .word .word :=
        ((hsubject.append_lays? lays?_require).append
          (lays_text (q := .gap) rfl)).append htype
      exact (lays_word hkeyword (Or.inr (hrequired.2 rfl))).append
        hinner.lays?.parens
  | doubleColon => exact (hsubject.append (lays_text (q := .gap) rfl)).append htype

theorem lays_extract {name field : String} {castType : Option String} {source : Doc}
    (hname : (Node.Leaf.verbatim name).IsSpaced S settings)
    (hfield : (Node.Leaf.verbatim field).IsSpaced S settings)
    (hcastType : ∀ s ∈ castType, (Node.Leaf.verbatim s).IsSpaced S settings)
    (hsource : source.Lays S settings .word .word) :
    (extract name field castType source).Lays S settings .word .word := by
  refine meets_of_not_shows fun hshows => ?_
  have hne : name ≠ "" := fun hempty => hshows (by simp [shows_extract, hempty])
  have hoptional :
      (Doc.optional (castType.map word)).Lays? S settings .word .word := by
    refine lays?_optional fun d hd => ?_
    obtain ⟨s, hs, rfl⟩ := Option.mem_map.1 hd
    exact lays?_word (hcastType s hs)
  have hinner :
      (fragments " " [word field, text "FROM", Doc.optional (castType.map word),
        source]).Lays? S settings .word .word := by
    refine lays?_fragments ?_
    simpa using ⟨lays?_word hfield, (lays_text rfl).lays?, hoptional, hsource.lays?⟩
  have hrequired : (requireText name "extract" "name" ++
      requireText field "extract" "field").Lays? S settings .word .gap :=
    lays?_require.append (q := .gap) lays?_require
  exact (hrequired.append_lays (lays_word hname (Or.inr hne))).append hinner.parens

end Layout

end SqlPrinter
