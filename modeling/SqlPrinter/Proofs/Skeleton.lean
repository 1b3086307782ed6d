/-
What stands in names and strings has no influence on the structure of a printed
statement.  Two statements that differ there only are refused for the same
reason or printed with the same skeleton.
-/
import SqlPrinter.Proofs.Filling.Same
import SqlPrinter.Proofs.Filling.Usage
import SqlPrinter.Proofs.Pattern.Statement
import SqlPrinter.Proofs.Run
import SqlPrinter.Proofs.Token
import SqlPrinter.Render

namespace SqlPrinter

/-! ## Statements that differ in data only -/

/-- Take the contents of all names and strings out. -/
def Filling.veil : Filling where
  name s := if s = "" then "" else "x"
  string _ := ""
  bind _ := .bind
  name_eq_empty s := by
    by_cases hs : s = ""
    · simp [hs]
    · simp [hs]

/-- The statements are equal except for the contents of names and strings. -/
def Statement.Alike (s t : Statement) : Prop :=
  Filling.veil.statement [] s = Filling.veil.statement [] t

/-- A text that keeps to its use: a name is one that is quoted, and a text that
is printed as it stands has no mark. -/
def Node.Leaf.IsTame (d : Dialect) : Node.Leaf → Prop
  | .verbatim s => d.quoteMarks.Misses s
  | .name s => s ≠ "" ∧ Ident.isSpecial s = false
  | .string _ => True
  | .mark _ => False

/-- All texts of the statement keep to their use. -/
def Statement.IsTame (d : Dialect) (s : Statement) : Prop :=
  (Node.statement s).Every (Node.Leaf.IsTame d)

/-! ## Texts without marks -/

section Misses

variable {marks : QuoteMarks} {s t : String}

/-- The marks of all dialects. -/
def QuoteMarks.allMarks : List Char :=
  ['\x27', '"', '\x60', '[', ']']

/-- The marks of a dialect are among the marks of all dialects. -/
theorem QuoteMarks.IsMark.mem_allMarks {c : Char} (hc : marks.IsMark c) :
    c ∈ allMarks := by
  rcases hc with rfl | rfl | rfl
  · decide
  · cases marks <;> decide
  · cases marks <;> decide

namespace QuoteMarks

/-- A text is without marks in each dialect if it is so in all of them. -/
theorem misses_of_all (hs : (s.toList.all fun c => c ∉ allMarks) = true) :
    marks.Misses s := by
  intro c hc hmark
  have hnot := List.all_eq_true.1 hs c hc
  exact of_decide_eq_true hnot hmark.mem_allMarks

/-- Texts that miss the marks make a text that misses them. -/
theorem Misses.append (hs : marks.Misses s) (ht : marks.Misses t) :
    marks.Misses (s ++ t) := by
  intro c hc
  rw [String.toList_append, List.mem_append] at hc
  exact hc.elim (hs c) (ht c)

/-- The marks are no letters, so that no change of letter case makes one. -/
theorem Misses.toUpper (hs : marks.Misses s) : marks.Misses s.toUpper := by
  have hnone : allMarks.any Char.isAlpha = false := rfl
  refine Text.forall_mem_toUpper (fun c halpha hmark => ?_) hs
  exact List.any_eq_false.1 hnone c hmark.mem_allMarks halpha

/-- A number has digits only, and no digit is a mark. -/
theorem misses_number (n : Nat) : marks.Misses (toString n) := by
  have hnone : allMarks.any Char.isDigit = false := rfl
  refine Text.forall_mem_toString (fun c hdigit hmark => ?_) n
  exact List.any_eq_false.1 hnone c hmark.mem_allMarks hdigit

theorem misses_autoIncrement (d : Dialect) : marks.Misses d.autoIncrement := by
  cases d <;> exact misses_of_all rfl

theorem misses_intercalate {separator : String}
    (hseparator : marks.Misses separator) {parts : List String}
    (hparts : ∀ s ∈ parts, marks.Misses s) :
    marks.Misses (separator.intercalate parts) := by
  induction parts with
  | nil =>
      rw [String.intercalate_nil]
      exact misses_of_all rfl
  | cons s parts ih =>
      have hs := hparts s List.mem_cons_self
      have hrest := ih fun t ht => hparts t (List.mem_cons_of_mem s ht)
      cases parts with
      | nil =>
          rw [String.intercalate_singleton]
          exact hs
      | cons t parts =>
          rw [String.intercalate_cons_cons]
          exact (hs.append hseparator).append hrest

end QuoteMarks

/-- Fixed words of a layout have no marks. -/
theorem IsPlain.misses (hs : IsPlain s) : marks.Misses s := by
  intro c hc hmark
  have hplain : isPlainChar c = true := List.all_eq_true.1 hs c hc
  have hnone : QuoteMarks.allMarks.any isPlainChar = false := rfl
  exact List.any_eq_false.1 hnone c hmark.mem_allMarks hplain

/-- Only the part that is pushed is new. -/
theorem Fragments.mem_parts_push {f : Fragments} {part : String}
    (h : s ∈ (f.push part).parts) : s ∈ f.parts ∨ s = part := by
  unfold push at h
  split at h
  · exact Or.inl h
  · simpa using h

/-- A keyword and its value have three parts, two of them in upper case. -/
theorem KeywordValue.mem_parts_fragments {kv : KeywordValue}
    (hs : s ∈ kv.fragments.parts) :
    s = kv.keyword.toUpper ∨ s ∈ kv.symbol ∨ s = kv.value.toUpper := by
  rcases Fragments.mem_parts_push hs with hs | rfl
  · have hkeyword (t : String)
      (ht : t ∈ (Fragments.empty.push kv.keyword.toUpper).parts) :
        t = kv.keyword.toUpper :=
      (Fragments.mem_parts_push ht).resolve_left List.not_mem_nil
    cases hsymbol : kv.symbol with
    | none =>
        rw [hsymbol] at hs
        exact Or.inl (hkeyword s hs)
    | some symbol =>
        rw [hsymbol] at hs
        rcases Fragments.mem_parts_push hs with hs | rfl
        · exact Or.inl (hkeyword s hs)
        · exact Or.inr (Or.inl rfl)
  · exact Or.inr (Or.inr rfl)

/-- Where keyword, symbol and value miss the marks, so does what is joined of
them. -/
theorem KeywordValue.misses_fragments {kv : KeywordValue}
    (hkeyword : marks.Misses kv.keyword) (hsymbol : ∀ s ∈ kv.symbol, marks.Misses s)
    (hvalue : marks.Misses kv.value) : marks.Misses (kv.fragments.join " ") := by
  have hspace : marks.Misses " " := QuoteMarks.misses_of_all rfl
  apply QuoteMarks.misses_intercalate hspace
  intro s hs
  rcases kv.mem_parts_fragments hs with rfl | hs | rfl
  · exact hkeyword.toUpper
  · exact hsymbol s hs
  · exact hvalue.toUpper

end Misses

/-! ## Pieces and runs -/

/-- The pieces print the same text but for the contents of tokens. -/
structure Piece.Alike (settings : Settings) (ps qs : List Piece) : Prop where
  isEmpty : ps.all isEmpty = qs.all isEmpty
  blur :
    settings.dialect.quoteMarks.Blur (textOf settings ps).toList
      (textOf settings qs).toList

/-- The runs end in the same way and print the same text but for the contents of
tokens. -/
structure Run.Alike (settings : Settings) (r s : Run) : Prop where
  failure : r.failure = s.failure
  counters : r.counters = s.counters
  pieces : Piece.Alike settings r.pieces s.pieces

/-- The layouts are printed in the same way but for the contents of tokens. -/
def Doc.Alike (settings : Settings) (placeholders : PlaceholderStyle)
    (d e : Doc) : Prop :=
  ∀ c, (d.run placeholders c).Alike settings (e.run placeholders c)

section Alike

variable {settings : Settings} {placeholders : PlaceholderStyle}

namespace Piece.Alike

variable {ps qs ps' qs' : List Piece}

theorem nil : Alike settings [] [] :=
  ⟨rfl, .nil⟩

/-- Alikeness is kept when pieces are put together. -/
theorem append (h : Alike settings ps qs) (h' : Alike settings ps' qs') :
    Alike settings (ps ++ ps') (qs ++ qs') := by
  constructor
  · rw [List.all_append, List.all_append, h.isEmpty, h'.isEmpty]
  · rw [textOf_append, textOf_append, String.toList_append, String.toList_append]
    exact h.blur.append h'.blur

/-- Two pieces are alike if both are empty or neither is, and if they differ inside
quotation marks only. -/
theorem single {p q : Piece} (hempty : p.isEmpty = q.isEmpty)
    (hblur : settings.dialect.quoteMarks.Blur (p.toText settings).toList
      (q.toText settings).toList) : Alike settings [p] [q] := by
  have htext (p : Piece) : textOf settings [p] = p.toText settings := by
    simp [textOf]
  constructor
  · simp [hempty]
  · rw [htext, htext]
    exact hblur

/-- A piece without marks is like itself. -/
theorem of_misses {p : Piece}
    (hp : settings.dialect.quoteMarks.Misses (p.toText settings)) :
    Alike settings [p] [p] :=
  single rfl (.of_misses hp)

/-- A separator is printed in both texts or in neither, since emptiness is alike. -/
theorem joinBeside {separator : String}
    (hseparator : settings.dialect.quoteMarks.Misses separator)
    (h : Alike settings ps qs) (h' : Alike settings ps' qs') :
    Alike settings (Piece.joinBeside separator ps ps')
      (Piece.joinBeside separator qs qs') := by
  unfold Piece.joinBeside
  rw [h.isEmpty, h'.isEmpty]
  split
  · exact h'
  · split
    · exact h
    · have htext : Alike settings [.text separator] [.text separator] :=
        of_misses hseparator
      exact h.append (htext.append h')

end Piece.Alike

namespace Run.Alike

variable {r s : Run} {next next' : Counters → Run}

/-- Runs that go on alike from alike states are alike. -/
theorem andThen (h : r.Alike settings s)
    (hnext : ∀ c, (next c).Alike settings (next' c)) :
    (r.andThen next).Alike settings (s.andThen next') := by
  unfold Run.andThen
  rw [h.failure, h.counters]
  cases hfailure : s.failure with
  | some e => exact h
  | none =>
      have hrest := hnext s.counters
      exact ⟨hrest.failure, hrest.counters, h.pieces.append hrest.pieces⟩

theorem isolated (h : r.Alike settings s) :
    r.isolated.Alike settings s.isolated := by
  unfold Run.isolated
  rw [h.failure]
  split
  · exact ⟨rfl, h.counters, .nil⟩
  · exact h

/-- Runs are put together alike if their pieces are. -/
theorem combine {join : List Piece → List Piece → List Piece}
    (h : r.Alike settings s) (hnext : ∀ c, (next c).Alike settings (next' c))
    (hjoin : ∀ {ps qs ps' qs'}, Piece.Alike settings ps qs →
      Piece.Alike settings ps' qs' →
      Piece.Alike settings (join ps ps') (join qs qs')) :
    (r.combine next join).Alike settings (s.combine next' join) := by
  unfold Run.combine
  rw [h.failure, h.counters]
  cases hfailure : s.failure with
  | some e => exact ⟨rfl, rfl, .nil⟩
  | none =>
      have hrest := hnext s.counters
      dsimp only
      rw [hrest.failure]
      cases hlast : (next' s.counters).failure with
      | some e => exact ⟨rfl, hrest.counters, .nil⟩
      | none => exact ⟨rfl, hrest.counters, hjoin h.pieces hrest.pieces⟩

end Run.Alike

namespace Doc.Alike

variable {d e d' e' : Doc}

theorem append (h : Alike settings placeholders d e)
    (h' : Alike settings placeholders d' e') :
    Alike settings placeholders (d ++ d') (e ++ e') :=
  fun c => (h c).andThen h'

theorem isolated (h : Alike settings placeholders d e) :
    Alike settings placeholders (.isolated d) (.isolated e) :=
  fun c => (h c).isolated

/-- Layouts side by side are alike if each of them is. -/
theorem beside {separator : String}
    (hseparator : settings.dialect.quoteMarks.Misses separator)
    (h : Alike settings placeholders d e) (h' : Alike settings placeholders d' e') :
    Alike settings placeholders (.beside separator d d') (.beside separator e e') :=
  fun c => (h c).combine h' (.joinBeside hseparator)

/-- A layout that is printed twice is alike in both places, and fails alike. -/
theorem twice {lead between : String} {error : Error}
    (hlead : settings.dialect.quoteMarks.Misses lead)
    (hbetween : settings.dialect.quoteMarks.Misses between)
    (h : Alike settings placeholders d e) :
    Alike settings placeholders (.twice lead between d error)
      (.twice lead between e error) := by
  intro c
  refine (h c).combine (fun c' => ⟨rfl, rfl, .nil⟩) ?_
  intro ps qs _ _ hpieces _
  have hfirst : Piece.Alike settings [.text lead] [.text lead] := .of_misses hlead
  have hsecond : Piece.Alike settings [.text between] [.text between] :=
    .of_misses hbetween
  exact (hfirst.append hpieces).append (hsecond.append hpieces)

/-- A layout that prints the same piece without marks. -/
theorem of_misses {p : Piece}
    (hp : settings.dialect.quoteMarks.Misses (p.toText settings))
    (hd : ∀ c, d.run placeholders c = ⟨[p], c, none⟩) :
    Alike settings placeholders d d := by
  intro c
  rw [hd]
  exact ⟨rfl, rfl, .of_misses hp⟩

theorem empty : Alike settings placeholders .empty .empty :=
  fun _ => ⟨rfl, rfl, .nil⟩

theorem fail (error : Error) :
    Alike settings placeholders (.fail error) (.fail error) :=
  fun _ => ⟨rfl, rfl, .nil⟩

theorem text {s : String} (hs : settings.dialect.quoteMarks.Misses s) :
    Alike settings placeholders (.text s) (.text s) :=
  of_misses (p := .text s) hs fun _ => rfl

/-- A text that is printed as it stands has to miss the marks. -/
theorem verbatim {s : String} (hs : settings.dialect.quoteMarks.Misses s) :
    Alike settings placeholders (.verbatim s) (.verbatim s) :=
  of_misses (p := .verbatim s) hs fun _ => rfl

theorem parens (h : Alike settings placeholders d e) :
    Alike settings placeholders d.parens e.parens :=
  ((text (QuoteMarks.misses_of_all rfl)).append h).append
    (text (QuoteMarks.misses_of_all rfl))

/-- A parameter is printed without marks. -/
theorem parameter (kind : PlaceholderStyle) (c : Counters) :
    (c.placeholder kind).Alike settings (c.placeholder kind) := by
  cases kind with
  | numbered =>
      have hlead : settings.dialect.quoteMarks.Misses "$" :=
        QuoteMarks.misses_of_all rfl
      exact ⟨rfl, rfl, .of_misses (hlead.append (QuoteMarks.misses_number _))⟩
  | question =>
      have hmark : settings.dialect.quoteMarks.Misses "?" :=
        QuoteMarks.misses_of_all rfl
      exact ⟨rfl, rfl, .of_misses hmark⟩

/-- Any two strings are alike. -/
theorem string (s t : String) :
    Alike settings placeholders (.string s) (.string t) :=
  fun _ => ⟨rfl, rfl, .single rfl (.wrap rfl s t)⟩

/-- Any two names are alike if both are quoted. -/
theorem name {s t : String} (hquote : settings.quote = .always)
    (hs : Ident.isSpecial s = false) (ht : Ident.isSpecial t = false) :
    Alike settings placeholders (.name s) (.name t) := by
  have htext {u : String} (hu : Ident.isSpecial u = false) :
      (Piece.name u).toText settings =
        Quoted.identifier settings.dialect (Ident.folded settings u) := by
    simp [Piece.toText, Ident.quote, hu, hquote, Ident.staysBare]
  refine fun _ => ⟨rfl, rfl, .single rfl ?_⟩
  rw [htext hs, htext ht]
  exact .wrap settings.dialect.quoteMarks.closingOf_opening _ _

/-- Digits between single quotes. -/
theorem digits {lead digits : String} (hlead : IsDigitsLead lead)
    (hdigits : settings.dialect.quoteMarks.Misses digits) :
    Alike settings placeholders (.text lead ++ .verbatim digits ++ .text "'")
      (.text lead ++ .verbatim digits ++ .text "'") := by
  have hencode : Quoted.encode '\x27' digits.toList = digits.toList :=
    QuoteMarks.encode_eq_self fun h => hdigits _ h (Or.inl rfl)
  have hpieces (letter : String) (hletter : IsPlain letter) :
      Piece.Alike settings [.text (letter ++ "'"), .verbatim digits, .text "'"]
        [.text (letter ++ "'"), .verbatim digits, .text "'"] := by
    refine ⟨rfl, ?_⟩
    have htext :
        (Piece.textOf settings [.text (letter ++ "'"), .verbatim digits,
          .text "'"]).toList =
        letter.toList ++ (Quoted.string digits).toList := by
      simp [Piece.textOf, Piece.toText, Quoted.string, Quoted.wrap, hencode]
    rw [htext]
    exact (QuoteMarks.Blur.of_misses (IsPlain.misses hletter)).append
      (.wrap rfl digits digits)
  rcases hlead with rfl | rfl
  · exact fun _ => ⟨rfl, rfl, hpieces "X" rfl⟩
  · exact fun _ => ⟨rfl, rfl, hpieces "b" rfl⟩

/-- The brackets of an array type are a pair of marks in one dialect. -/
theorem dims (dims : ArrayDim) : Alike settings placeholders dims.doc dims.doc := by
  have hpair : settings.dialect.quoteMarks.Blur "[]".toList "[]".toList := by
    cases settings.dialect.quoteMarks with
    | bracket =>
        have hwrap : "[]" = Quoted.wrap '[' ']' "" := by decide
        rw [hwrap]
        exact .wrap rfl "" ""
    | backtick => exact .of_misses (by decide)
    | double => exact .of_misses (by decide)
  cases dims with
  | one => exact fun _ => ⟨rfl, rfl, .single rfl hpair⟩
  | two =>
      have htwo : "[][]".toList = "[]".toList ++ "[]".toList := by decide
      refine fun _ => ⟨rfl, rfl, .single rfl ?_⟩
      rw [Piece.toText, htwo]
      exact hpair.append hpair

end Doc.Alike

end Alike

/-! ## Layouts -/

/-- A filling changes contents only, and it makes no name a special word. -/
structure Filling.IsData (f : Filling) : Prop where
  bind : ∀ p, f.bind p = .bind
  name : ∀ s, s ≠ "" → Ident.isSpecial s = false →
    Ident.isSpecial (f.name s) = false

theorem Filling.same_isData : same.IsData :=
  ⟨fun _ => rfl, fun _ _ hs => hs⟩

/-- The veil hides names and strings and leaves empty names empty. -/
theorem Filling.veil_isData : veil.IsData := by
  refine ⟨fun _ => rfl, ?_⟩
  intro s hs _
  have hname : veil.name s = "x" := if_neg hs
  rw [hname]
  decide +kernel

section Fillings

variable {settings : Settings} {f g : Filling}

/-- A layout is printed in the same way under all fillings but for the contents
of its tokens. -/
theorem Pattern.alike (hquote : settings.quote = .always) (hf : f.IsData)
    (hg : g.IsData) (placeholders : PlaceholderStyle) {l : List Site}
    {F : Filling → Doc}
    (hF : Pattern settings (Node.Leaf.IsTame settings.dialect) l F) :
    Doc.Alike settings placeholders (F f) (F g) := by
  induction hF with
  | empty => exact .empty
  | fail e => exact .fail e
  | text hs => exact .text hs.misses
  | number n => exact .text (QuoteMarks.misses_number _)
  | dims d => exact .dims d
  | counting => exact .text (QuoteMarks.misses_autoIncrement _)
  | verbatim hs => exact .verbatim hs
  | word hs => exact .verbatim hs.toUpper
  | keyword hkv =>
      have hverbatim {s : String}
          (hs : Node.Leaf.verbatim s ∈ Node.keywordLeaves _) :
          settings.dialect.quoteMarks.Misses s := hkv _ hs
      refine .verbatim (KeywordValue.misses_fragments (hverbatim ?_)
        (fun s hs => hverbatim ?_)
        (hverbatim ?_))
      all_goals simp_all [Node.keywordLeaves, Node.verbatims]
  | mark hs => exact hs.elim
  | digits hlead hs => exact .digits hlead hs
  | name hs => exact .name hquote (hf.name _ hs.1 hs.2) (hg.name _ hs.1 hs.2)
  | row =>
      have hrow : Ident.isSpecial InsertedRef.row = false := by decide +kernel
      exact .name hquote hrow hrow
  | string _ => exact .string _ _
  | question => exact .parameter .question
  | site b =>
      dsimp only
      rw [hf.bind, hg.bind]
      exact .parameter placeholders
  | append _ _ ihF ihG => exact ihF.append ihG
  | parens _ ih => exact ih.parens
  | isolated _ ih => exact ih.isolated
  | beside _ _ ihF ihG => exact ihF.beside (QuoteMarks.misses_of_all rfl) ihG
  | twice _ hbetween _ _ ih =>
      refine ih.twice (QuoteMarks.misses_of_all rfl) ?_
      rcases hbetween with rfl | rfl
      · exact QuoteMarks.misses_of_all rfl
      · exact QuoteMarks.misses_of_all rfl

end Fillings

/-! ## Statements -/

section Statements

variable {settings : Settings}

/-- Layouts that are alike have texts with one skeleton, or the same fault. -/
theorem Doc.Alike.skeleton_print {d e : Doc}
    (h : Alike settings settings.placeholders d e) :
    (d.print settings).map settings.dialect.quoteMarks.skeleton =
      (e.print settings).map settings.dialect.quoteMarks.skeleton := by
  have hrun := h .start
  rw [Doc.print_eq_run, Doc.print_eq_run, Run.answer, Run.answer, hrun.failure]
  cases (e.run settings.placeholders .start).failure with
  | some error => rfl
  | none => exact congrArg Except.ok hrun.pieces.blur.skeleton_eq

/-- Taking the contents out of its names and strings leaves the skeleton of a
statement, or the reason why it has none. -/
theorem Statement.skeleton_render_veil (hquote : settings.quote = .always)
    {s : Statement} (hs : s.IsTame settings.dialect) :
    (s.render settings).map settings.dialect.quoteMarks.skeleton =
      ((Filling.veil.statement [] s).render settings).map
        settings.dialect.quoteMarks.skeleton := by
  have hnode : (Node.statement s).HasPattern settings _ := Node.hasPattern hs
  obtain ⟨l, hpattern, -⟩ := hnode []
  have hdocs := hpattern.alike hquote Filling.same_isData Filling.veil_isData
    settings.placeholders
  rw [Filling.same_statement] at hdocs
  rw [Statement.render, Statement.render, Filling.rejection?_statement]
  cases s.rejection? settings with
  | some e => rfl
  | none => exact hdocs.skeleton_print

/-- What stands in names and strings does not change the structure of the text.
Of two statements that differ there only, either both have a text, and the texts
have one skeleton, or both have none for the same reason. -/
theorem Statement.skeleton_render (hquote : settings.quote = .always)
    {s t : Statement} (hs : s.IsTame settings.dialect)
    (ht : t.IsTame settings.dialect) (halike : s.Alike t) :
    (s.render settings).map settings.dialect.quoteMarks.skeleton =
      (t.render settings).map settings.dialect.quoteMarks.skeleton := by
  rw [skeleton_render_veil hquote hs, skeleton_render_veil hquote ht, halike]

/-- `DELETE FROM t WHERE a = 'v'`. -/
def Statement.deleteWhere (t a v : String) : Statement :=
  .delete
    { ctes := none, targets := [], tables := [.named none t none], joins := [],
      usingTables := [],
      condition := some (.binary (.column ⟨none, none, a⟩) (.standard .eq)
        (.literal (.string v none))),
      orderBy := [], limit := none, returning := [] }

/-- The texts of the statement are its two names and its value. -/
theorem Statement.deleteWhere_every {ok : Node.Leaf → Prop} {t a v : String}
    (ht : ok (.name t)) (ha : ok (.name a)) (hv : ok (.string v)) :
    (Node.statement (deleteWhere t a v)).Every ok := by
  have htable : (Node.table (.named none t none)).Every ok :=
    Node.every_iff.2
      ⟨by simpa [Node.leaves, Node.names] using ht, by simp [Node.children]⟩
  have hcolumn : (Node.expr (.column ⟨none, none, a⟩)).Every ok :=
    Node.every_iff.2
      ⟨by simpa [Node.leaves, Node.exprLeaves, Node.columnLeaves, Node.names]
        using ha, by simp [Node.children, Node.ofExpr]⟩
  have hvalue : (Node.expr (.literal (.string v none))).Every ok :=
    Node.every_iff.2
      ⟨by simpa [Node.leaves, Node.exprLeaves, Node.literalLeaves, Node.verbatims]
        using hv, by simp [Node.children, Node.ofExpr]⟩
  have hcondition : (Node.expr (.binary (.column ⟨none, none, a⟩) (.standard .eq)
      (.literal (.string v none)))).Every ok :=
    Node.every_iff.2
      ⟨by simp [Node.leaves, Node.exprLeaves],
        by simp [Node.children, Node.ofExpr, hcolumn, hvalue]⟩
  refine Node.every_iff.2
    ⟨by simp [Node.leaves, Node.statementLeaves, deleteWhere, Node.names], ?_⟩
  simp [Node.children, Node.ofStatement, deleteWhere, Node.with?, Node.expr?,
    Node.exprs, htable, hcondition]

/-- The marks in the names and in the value do not get out of their tokens. -/
theorem Statement.skeleton_render_deleteWhere :
    let settings := Settings.ofDialect .mysql
    let plain := deleteWhere "t" "a" "v"
    let hostile := deleteWhere "x` y" "it's" "' OR '1' = '1"
    settings.quote = .always ∧ plain.IsTame .mysql ∧ hostile.IsTame .mysql ∧
      plain.Alike hostile ∧
      hostile.render settings =
          .ok "DELETE FROM `x`` y` WHERE `it's` = ''' OR ''1'' = ''1'" ∧
      (plain.render settings).map QuoteMarks.backtick.skeleton =
        (hostile.render settings).map QuoteMarks.backtick.skeleton := by
  have hname {s : String} (hne : s ≠ "") (hs : Ident.isSpecial s = false) :
      Node.Leaf.IsTame .mysql (.name s) := ⟨hne, hs⟩
  have hplain : (deleteWhere "t" "a" "v").IsTame .mysql :=
    deleteWhere_every (hname (by decide) (by decide +kernel))
      (hname (by decide) (by decide +kernel)) trivial
  have hhostile : (deleteWhere "x` y" "it's" "' OR '1' = '1").IsTame .mysql :=
    deleteWhere_every (hname (by decide) (by decide +kernel))
      (hname (by decide) (by decide +kernel)) trivial
  have halike :
      (deleteWhere "t" "a" "v").Alike (deleteWhere "x` y" "it's" "' OR '1' = '1") :=
    rfl
  refine ⟨rfl, hplain, hhostile, halike, by decide +kernel, ?_⟩
  exact @skeleton_render (Settings.ofDialect .mysql) rfl _ _ hplain hhostile halike

end Statements

end SqlPrinter
