/-
Spaces in what is printed.  A text is tidy if no space stands at one of its
ends, beside another space, or at the inner side of a parenthesis.  What is left
out takes its space along, except in the nodes that put a fixed space beside a
part without a text.
-/
import Mathlib.Data.List.Infix
import SqlPrinter.Proofs.Part
import SqlPrinter.Proofs.Spacing.Query
import SqlPrinter.Proofs.Spacing.Text

namespace SqlPrinter

/-! ## Tidy texts -/

/-- No space stands at an end of the text or beside another space. -/
structure Text.IsTrim (s : String) : Prop where
  start : ' ' ∉ s.toList.head?
  stop : ' ' ∉ s.toList.getLast?
  doubled : ¬[' ', ' '] <:+: s.toList

/-- No space stands at the inner side of a parenthesis. -/
structure Text.IsSnug (s : String) : Prop where
  opening : ¬['(', ' '] <:+: s.toList
  closing : ¬[' ', ')'] <:+: s.toList

/-- There is no space that parts nothing. -/
structure Text.IsTidy (s : String) : Prop extends Text.IsTrim s, Text.IsSnug s

/-- No space parts nothing.  Parentheses are looked at if `snug` holds; the text may
stand between them then. -/
def Spacing.tidy (snug : Prop) : Spacing where
  Next a b :=
    ¬(a = ' ' ∧ b = ' ') ∧ (snug → ¬(a = '(' ∧ b = ' ') ∧ ¬(a = ' ' ∧ b = ')'))
  First c := c ≠ ' ' ∧ (snug → c ≠ ')')
  Last c := c ≠ ' ' ∧ (snug → c ≠ '(')
  Empty := False
  next a b h := by
    simp only [isApart, Bool.and_eq_true, Bool.not_eq_true',
      decide_eq_false_iff_not, Bool.and_eq_false_imp, decide_eq_true_eq] at h
    exact ⟨fun ⟨ha, hb⟩ => h.1.1.1.1 ha hb, fun _ =>
      ⟨fun ⟨ha, hb⟩ => h.1.1.1.2 ha hb, fun ⟨ha, hb⟩ => h.1.1.2 ha hb⟩⟩
  first _ hspace hclosing := ⟨hspace, fun _ => hclosing⟩
  last _ hspace hopening := ⟨hspace, fun _ => hopening⟩
  next_first _ _ _ _ hb :=
    ⟨fun h => hb.1 h.2, fun hsnug => ⟨fun h => hb.1 h.2, fun h => hb.2 hsnug h.2⟩⟩
  last_next _ _ ha _ _ :=
    ⟨fun h => ha.1 h.1, fun hsnug => ⟨fun h => ha.2 hsnug h.1, fun h => ha.1 h.1⟩⟩
  first_of_empty h := h.elim
  last_of_empty h := h.elim

namespace Spacing

variable {snug : Prop} {s t : String}

/-- In a chain of characters, any two that stand side by side may do so. -/
theorem next_of_within {S : Spacing} {a b : Char} (h : s.toList.IsChain S.Next)
    (hwithin : [a, b] <:+: s.toList) : S.Next a b := by
  obtain ⟨before, after, heq⟩ := hwithin
  have hsplit : s.toList = before ++ a :: b :: after := by simp [← heq]
  exact List.isChain_iff_forall_rel_of_append_cons_cons.1 h hsplit

/-- A word by the rules of `tidy` neither begins nor ends with a space, and has no
two in a row. -/
theorem Piece?.isTrim (h : (tidy snug).Piece? .word .word s) : Text.IsTrim s := by
  rcases h with rfl | h
  · exact ⟨nofun, nofun, by decide⟩
  exact ⟨fun hmem => (h.starts ' ' hmem).1 rfl, fun hmem => (h.ends ' ' hmem).1 rfl,
    fun hwithin => (next_of_within h.chain hwithin).1 ⟨rfl, rfl⟩⟩

/-- Where commas and parentheses are asked about too, a word has no space inside
them. -/
theorem Piece?.isSnug (hsnug : snug) (h : (tidy snug).Piece? .word .word s) :
    Text.IsSnug s := by
  rcases h with rfl | h
  · exact ⟨by decide, by decide⟩
  exact ⟨fun hwithin => ((next_of_within h.chain hwithin).2 hsnug).1 ⟨rfl, rfl⟩,
    fun hwithin => ((next_of_within h.chain hwithin).2 hsnug).2 ⟨rfl, rfl⟩⟩

/-! ### Side by side -/

/-- Whatever may end a word may stand before whatever may begin one. -/
theorem tidy_next {a b : Char} (ha : (tidy snug).Last a)
    (hb : (tidy snug).First b) : (tidy snug).Next a b :=
  ⟨fun h => ha.1 h.1, fun _ => ⟨fun h => hb.1 h.2, fun h => ha.1 h.1⟩⟩

/-- Words may meet without a gap. -/
theorem Piece.gap (h : (tidy snug).Piece .word .word s) :
    (tidy snug).Piece .gap .gap s where
  chain := h.chain
  starts c hc _ hb := tidy_next hb (h.starts c hc)
  ends c hc _ hb := tidy_next (h.ends c hc) hb
  empty hempty := (h.empty hempty).1.elim

/-- Two words make a word with nothing between them. -/
theorem Piece?.abut (hs : (tidy snug).Piece? .word .word s)
    (ht : (tidy snug).Piece? .word .word t) :
    (tidy snug).Piece? .word .word (s ++ t) := by
  rcases hs with rfl | hs
  · rwa [String.empty_append]
  rcases ht with rfl | ht
  · rw [String.append_empty]
    exact Or.inr hs
  have hlead : (tidy snug).Piece .word .gap s :=
    ⟨hs.chain, hs.starts, hs.gap.ends, fun hempty => (hs.empty hempty).1.elim⟩
  exact Or.inr (hlead.append ht)

end Spacing

namespace Doc

open Spacing (tidy)

variable {settings : Settings} {snug : Prop} {d e : Doc}

/-- Layouts of words may stand side by side with nothing between them. -/
theorem Lays?.abut (hd : d.Lays? (tidy snug) settings .word .word)
    (he : e.Lays? (tidy snug) settings .word .word) :
    (d ++ e).Lays? (tidy snug) settings .word .word :=
  Meets.append hd he fun _ _ => Spacing.Piece?.abut

end Doc

namespace Node

open Doc Spacing

variable {settings : Settings} {snug : Prop} {n : Node}

/-! ## Texts without spaces -/

/-- Unless it is quoted, the text can stand between parentheses. -/
def Leaf.IsFit (l : Leaf) : Prop :=
  l.isPlain = true → ')' ∉ l.text.toList.head? ∧ '(' ∉ l.text.toList.getLast?

/-- There is no space in the text, and it is fit for parentheses if they
are looked at. -/
structure Leaf.IsCompact (snug : Prop) (l : Leaf) : Prop where
  spaceless : ' ' ∉ l.text.toList
  fit : snug → l.IsFit

theorem Leaf.IsCompact.isSpaced {l : Leaf} (h : l.IsCompact snug)
    (settings : Settings) : l.IsSpaced (tidy snug) settings := by
  have hne {c : Char} (hc : c ∈ l.text.toList) : c ≠ ' ' := by
    rintro rfl
    exact h.spaceless hc
  have hchain : l.text.toList.IsChain (tidy snug).Next := by
    refine List.Pairwise.isChain
      (List.pairwise_of_forall_mem_list fun a ha b hb => ?_)
    exact ⟨fun hab => hne ha hab.1,
      fun _ => ⟨fun hab => hne hb hab.2, fun hab => hne ha hab.1⟩⟩
  refine Leaf.isSpaced hchain fun hplain => ?_
  by_cases hempty : l.text = ""
  · exact Or.inl hempty
  refine Or.inr ⟨hchain,
    fun c hc => ⟨hne (List.mem_of_mem_head? hc), fun hsnug => ?_⟩,
    fun c hc => ⟨hne (List.mem_of_mem_getLast? hc), fun hsnug => ?_⟩,
    fun h => absurd h hempty⟩
  · rintro rfl
    exact (h.fit hsnug hplain).1 hc
  · rintro rfl
    exact (h.fit hsnug hplain).2 hc

/-! ## Joints -/

/-- A type name between its own quotation marks is a word. -/
theorem lays?_markedName {type : DataType} {mark : String}
    (hmark : mark ∈ type.quoted) (h : ∀ l ∈ typeLeaves type, l.IsCompact snug) :
    Lays? (tidy snug) settings .word .word (Layout.markedName mark type.name) := by
  have hmarked : (Leaf.mark mark).IsSpaced (tidy snug) settings :=
    (h (.mark mark) (by simp [typeLeaves, Option.mem_def.1 hmark])).isSpaced _
  have hname : (Leaf.verbatim type.name).IsSpaced (tidy snug) settings :=
    (h (.verbatim type.name) (by simp [typeLeaves, verbatims])).isSpaced _
  have hside : Lays? (tidy snug) settings .word .word (.verbatim mark) :=
    lays?_verbatim hmarked
  exact (hside.abut (lays?_verbatim hname.1)).abut hside

/-- The arguments of a call with a separator are words. -/
theorem lays?_separatedArgs {c : FunctionCall}
    (hleaves : ∀ l ∈ (call c).leaves, l.IsCompact snug)
    (hparts : ∀ m ∈ (call c).shown, m.IsLaid (tidy snug) settings) :
    ∀ d ∈ separatedArgs settings c, Lays? (tidy snug) settings .word .word d := by
  intro d hd
  unfold separatedArgs at hd
  split at hd
  · contradiction
  · obtain ⟨s, hs, hd⟩ := List.mem_flatMap.1 hd
    obtain ⟨args, hargs, rfl⟩ := List.mem_map.1 hd
    have hseparator := Option.mem_toList.1 hs
    have hmem : s ∈ c.separator := Text.mem_of_mem_nonEmpty hseparator
    have hspaced : (Leaf.verbatim s).IsSpaced (tidy snug) settings :=
      (hleaves (.verbatim s) (by simp [verbatims, Option.mem_def.1 hmem])).isSpaced
        _
    have hpiece := hspaced.1.piece (Or.inr (Text.ne_empty_of_nonEmpty hseparator))
    refine lays?_joined (lays_verbatim hpiece.gap)
      (lays_exprs fun m hm => hparts m ?_)
    simp [shown, Option.mem_toList.1 hargs, hm]

/-- Joints are tidy if the texts and the parts of the node are. -/
theorem lays?_joints (hleaves : ∀ l ∈ n.leaves, l.IsCompact snug)
    (hparts : ∀ m ∈ n.shown, m.IsLaid (tidy snug) settings) :
    ∀ d ∈ n.joints settings, Lays? (tidy snug) settings .word .word d := by
  intro d hd
  unfold joints at hd
  split at hd
  · next operand =>
      have hoperand : Lays (tidy snug) settings .word .word
          (Layout.expr settings operand) :=
        hparts (expr operand) List.mem_cons_self
      have hsign : Lays? (tidy snug) settings .word .word (.text "-") :=
        (lays_text rfl).lays?
      rw [List.mem_singleton.1 hd]
      exact (hsign.abut lays?_empty).abut hoperand.lays?
  · next sigil name =>
      have hverbatim {t : String} (ht : t = sigil ∨ t = name) :
          Lays? (tidy snug) settings .word .word (.verbatim t) := by
        have hspaced : (Leaf.verbatim t).IsSpaced (tidy snug) settings :=
          (hleaves (.verbatim t) (by simp [exprLeaves, verbatims, ht])).isSpaced _
        exact lays?_verbatim hspaced.1
      rw [List.mem_singleton.1 hd]
      exact (lays?_require.abut (hverbatim (Or.inl rfl))).abut
        (hverbatim (Or.inr rfl))
  · exact lays?_separatedArgs hleaves hparts d hd
  · obtain ⟨mark, hmark, rfl⟩ := List.mem_map.1 hd
    exact lays?_markedName (Option.mem_toList.1 hmark) hleaves
  · obtain ⟨mark, hmark, rfl⟩ := List.mem_map.1 hd
    exact lays?_markedName (Option.mem_toList.1 hmark) fun l hl =>
      hleaves l (by simp [hl])
  · contradiction

/-- A node that stands within an expression, a query or the
definition of a column. -/
def isTerm : Node → Bool
  | assignment _ | constraint _ | index _ | statement _ => false
  | _ => true

/-- What is laid out by the rule is printed as a word or as nothing. -/
theorem IsLaid.lays? {S : Spacing} (hn : n.isTerm = true)
    (h : n.IsLaid S settings) : Lays? S settings .word .word (n.doc settings) := by
  unfold IsLaid at h
  split at h
  · contradiction
  · contradiction
  · contradiction
  · contradiction
  · exact h
  · exact h
  · exact Lays.lays? h

/-- Where no loose node is printed, a node is laid out by the rules of `tidy`. -/
theorem isLaid_tidy (hspaceless : n.Every fun l => ' ' ∉ l.text.toList)
    (hfit : snug → n.Every Leaf.IsFit)
    (htight : ∀ m ∈ Walk.printed.nodes n, ¬m.IsLoose) :
    n.IsLaid (tidy snug) settings := by
  have hcompact : ∀ m ∈ Walk.printed.nodes n, ∀ l ∈ m.leaves, l.IsCompact snug :=
    fun m hm l hl =>
    ⟨Walk.forall_printed_leaves hspaceless m hm l hl, fun hsnug =>
      Walk.forall_printed_leaves (hfit hsnug) m hm l hl⟩
  exact isLaid (fun m hm l hl => (hcompact m hm l hl).isSpaced _)
    (fun m hm hparts => lays?_joints (hcompact m hm) hparts) fun m hm =>
      Or.inr (htight m hm)

end Node

/-! ## Stray spaces -/

namespace Text

variable {s t : String}

/-- A space stands at the start. -/
def IsLed (s : String) : Prop :=
  ' ' ∈ s.toList.head?

/-- A space stands at the start unless there is no text at all. -/
def IsLed? (s : String) : Prop :=
  s = "" ∨ IsLed s

/-- A space stands at the end or beside another space. -/
def Strays (s : String) : Prop :=
  ' ' ∈ s.toList.getLast? ∨ [' ', ' '] <:+: s.toList

/-- What begins with a space does so whatever follows. -/
theorem IsLed.append (h : IsLed s) : IsLed (s ++ t) := by
  rw [IsLed, String.toList_append, List.head?_append, Option.mem_def.1 h]
  rfl

/-- A text that begins with a space is not tidy. -/
theorem IsLed.not_isTidy (h : IsLed s) : ¬IsTidy s :=
  fun htidy => htidy.start h

/-- A text with a stray space is not tidy. -/
theorem Strays.not_isTidy (h : Strays s) : ¬IsTidy s :=
  fun htidy => h.elim htidy.stop htidy.doubled

theorem Strays.ne_empty (h : Strays s) : s ≠ "" := by
  rintro rfl
  rcases h with hlast | hwithin
  · contradiction
  · exact absurd hwithin (by decide)

/-- A space at the end of one text and one at the start of the next are
side by side. -/
theorem infix_of_getLast?_of_head? {a b : Char} (ha : a ∈ s.toList.getLast?)
    (hb : b ∈ t.toList.head?) : [a, b] <:+: (s ++ t).toList := by
  obtain ⟨before, hs⟩ := List.getLast?_eq_some_iff.1 ha
  obtain ⟨after, ht⟩ := List.head?_eq_some_iff.1 hb
  exact ⟨before, after, by simp [hs, ht]⟩

/-- A space that strays in a text strays behind any other text. -/
theorem Strays.append_left (ht : Strays t) : Strays (s ++ t) := by
  refine ht.imp (fun hlast => ?_) fun hwithin =>
    hwithin.trans (Doc.infix_append_right s t)
  rw [String.toList_append, List.getLast?_append, Option.mem_def.1 hlast]
  rfl

/-- What follows a stray space begins with a space of its own if there
is any of it. -/
theorem Strays.append_right (hs : Strays s) (ht : IsLed? t) : Strays (s ++ t) := by
  rcases ht with rfl | ht
  · rwa [String.append_empty]
  · rcases hs with hlast | hwithin
    · exact Or.inr (infix_of_getLast?_of_head? hlast ht)
    · exact Or.inr (hwithin.trans (Doc.infix_append_left s t))

/-- A stray space in the left text is there after joining. -/
theorem Strays.joinBeside_left (hs : Strays s) :
    Strays (Effect.joinBeside " " s t) := by
  unfold Effect.joinBeside
  rw [if_neg hs.ne_empty]
  split
  · exact hs
  · rw [String.append_assoc]
    exact hs.append_right (Or.inr (IsLed.append (rfl : IsLed " ")))

/-- A stray space in the right text is there after joining. -/
theorem Strays.joinBeside_right (ht : Strays t) :
    Strays (Effect.joinBeside " " s t) := by
  unfold Effect.joinBeside
  split
  · exact ht
  · rw [if_neg ht.ne_empty]
    exact ht.append_left

/-- A space at either end of what stands in parentheses is stray. -/
theorem not_isTidy_of_parens (hs : IsLed s ∨ Strays s)
    (hwithin : ("(" ++ s ++ ")").toList <:+: t.toList) : ¬IsTidy t := by
  intro htidy
  rcases hs with hled | hlast | hdoubled
  · have hopening := infix_of_getLast?_of_head? (s := "(") rfl hled
    exact htidy.opening
      ((hopening.trans (Doc.infix_append_left _ ")")).trans hwithin)
  · have hlast : ' ' ∈ ("(" ++ s).toList.getLast? := by
      rw [String.toList_append, List.getLast?_append, Option.mem_def.1 hlast]
      rfl
    exact htidy.closing ((infix_of_getLast?_of_head? hlast rfl).trans hwithin)
  · have hinner := hdoubled.trans (Doc.infix_append_right "(" s)
    exact htidy.doubled ((hinner.trans (Doc.infix_append_left _ ")")).trans hwithin)

end Text

namespace Doc

open Text (IsLed IsLed? Strays IsTidy)

variable {settings : Settings} {d e : Doc} {ds : List Doc} {c c' : Counters}
  {s : String}

theorem strays_append_left (he : e.Meets settings Strays) :
    (d ++ e).Meets settings Strays := by
  intro c _ c' h
  obtain ⟨_, _, _, -, ht, rfl⟩ := writes_append_iff.1 h
  exact (he _ _ _ ht).append_left

/-- A stray space stays one when what follows begins with a space or is empty. -/
theorem strays_append_right (hd : d.Meets settings Strays)
    (he : e.Meets settings IsLed?) : (d ++ e).Meets settings Strays :=
  hd.append he fun _ _ => Strays.append_right

/-- One fragment with a stray space spoils the line. -/
theorem strays_fragments (hd : d ∈ ds) (h : d.Meets settings Strays) :
    (fragments " " ds).Meets settings Strays := by
  induction ds with
  | nil => contradiction
  | cons e ds ih =>
      intro c _ c' hwrites
      obtain ⟨_, _, _, hs, ht, rfl⟩ := writes_beside_iff.1 hwrites
      rcases List.mem_cons.1 hd with rfl | hd
      · exact (h _ _ _ hs).joinBeside_left
      · exact (ih hd _ _ _ ht).joinBeside_right

/-- A space before a part without a text is stray. -/
theorem strays_text_append {t : String} (ht : ' ' ∈ t.toList.getLast?)
    (hd : d.Meets settings (· = "")) : (text t ++ d).Meets settings Strays := by
  intro c _ c' h
  obtain ⟨u, hu, rfl⟩ := writes_text_append_iff.1 h
  rw [hd _ _ _ hu, String.append_empty]
  exact Or.inl ht

/-- A layout that always leaves a stray space writes no tidy text. -/
theorem Meets.not_isTidy (hd : d.Meets settings Strays)
    (h : d.Writes settings c s c') : ¬IsTidy s :=
  (hd _ _ _ h).not_isTidy

theorem led_text_append {t : String} (ht : IsLed t) :
    (text t ++ d).Meets settings IsLed := by
  intro c _ c' h
  obtain ⟨u, -, rfl⟩ := writes_text_append_iff.1 h
  exact ht.append

theorem Meets.led_append (hd : d.Meets settings IsLed) :
    (d ++ e).Meets settings IsLed := by
  intro c _ c' h
  obtain ⟨_, _, _, hs, -, rfl⟩ := writes_append_iff.1 h
  exact (hd _ _ _ hs).append

theorem led?_empty : empty.Meets settings IsLed? :=
  fun _ _ _ h => Or.inl (writes_empty_iff.1 h).1

/-- A clause begins with the space before its keyword, or is empty. -/
theorem led?_clause {lead : String} (o : Option Doc) (hlead : IsLed lead) :
    (clause lead o).Meets settings IsLed? := by
  cases o with
  | none => exact led?_empty
  | some d => exact fun _ _ _ h => Or.inr (led_text_append hlead _ _ _ h)

theorem led?_rename (o : Option String) :
    (rename true o).Meets settings IsLed? := by
  unfold rename
  split
  · exact led?_empty
  · exact fun _ _ _ h => Or.inr (led_text_append (rfl : IsLed " AS ") _ _ _ h)

/-- ORDER BY begins with a space where there are keys. -/
theorem led_orderBy (hne : ds ≠ []) : (Layout.orderBy ds).Meets settings IsLed := by
  have hempty : ds.isEmpty = false := by simpa using hne
  rw [Layout.orderBy, hempty]
  exact led_text_append (rfl : IsLed " ORDER BY ")

theorem led?_orderBy (ds : List Doc) :
    (Layout.orderBy ds).Meets settings IsLed? := by
  by_cases hne : ds = []
  · rw [hne]
    exact led?_empty
  · exact fun _ _ _ h => Or.inr (led_orderBy hne _ _ _ h)

/-- The tail of a cast begins with a space, or there is none. -/
theorem led?_castTailDoc (o : Option CastTail) :
    (Layout.castTailDoc settings o).Meets settings IsLed? := by
  rcases o with _ | ⟨operator, operand⟩
  · exact led?_empty
  · intro c s c' h
    have hled : (require (!Text.isAllBlank operator) "cast" "tail.operator" ++
        text " ").Meets settings IsLed := by
      intro c _ c' h
      obtain ⟨_, _, _, hrequire, htext, rfl⟩ := writes_append_iff.1 h
      rw [(writes_require_iff.1 hrequire).2.1, (writes_text_iff.1 htext).1]
      rfl
    exact Or.inr (hled.led_append.led_append.led_append _ _ _ h)

theorem eq_empty_of_writes_words {ss : List String} (hss : ∀ s ∈ ss, s = "") :
    (words ss).Meets settings (· = "") := by
  induction ss with
  | nil => exact fun _ _ _ h => (writes_empty_iff.1 h).1
  | cons s ss ih =>
      obtain ⟨rfl, hempty⟩ := List.forall_mem_cons.1 hss
      intro c _ c' h
      obtain ⟨_, _, _, hfirst, hrest, rfl⟩ := writes_beside_iff.1 h
      rw [(writes_verbatim_iff.1 hfirst).1, ih hempty _ _ _ hrest]
      simp [Effect.joinBeside]

/-- Parentheses around a text that begins with a space, or has a stray one, spoil
the text they stand in. -/
theorem Part.not_isTidy (h : d.parens.Part e)
    (hd : d.Meets settings fun t => IsLed t ∨ Strays t)
    (hwrites : e.Writes settings c s c') : ¬IsTidy s := by
  obtain ⟨_, _, _, hparens, hwithin⟩ := h.writes hwrites
  obtain ⟨t, ht, rfl⟩ := writes_parens_iff.1 hparens
  exact Text.not_isTidy_of_parens (hd _ _ _ ht) hwithin

end Doc

namespace Node

open Doc

variable {settings : Settings} {n : Node} {c c' : Counters} {text : String}

theorem strays_blank {kv : KeywordValue} (h : kv.IsBlank) :
    kv.doc.Meets settings (· = "") := by
  intro c s c' hwrites
  rw [(writes_verbatim_iff.1 hwrites).1, Fragments.join, h, String.intercalate_nil]

/-- What an aggregate without arguments has in its parentheses. -/
def bareAggregated (settings : Settings) (a : Aggregate) : Doc :=
  .textIf a.distinct "DISTINCT " ++ .commas [] ++
    Layout.orderBy (Layout.orderItems settings a.orderBy) ++
    .clause " SEPARATOR " (Layout.expr? settings a.separator)

/-- With nothing to aggregate, what stands in the parentheses begins with a space or
has a stray one. -/
theorem led_or_strays_bareAggregated {a : Aggregate}
    (h : a.distinct = true ∨ a.orderBy ≠ [] ∨ a.separator ≠ none) :
    (bareAggregated settings a).Meets settings fun t =>
      Text.IsLed t ∨ Text.Strays t := by
  intro c _ c' hwrites
  obtain ⟨_, _, separated, hlead, hseparator, rfl⟩ := writes_append_iff.1 hwrites
  obtain ⟨_, _, ordered, hfirst, horder, rfl⟩ := writes_append_iff.1 hlead
  obtain ⟨_, _, _, hdistinct, hargs, rfl⟩ := writes_append_iff.1 hfirst
  rw [(writes_empty_iff.1 hargs).1, (writes_textIf_iff.1 hdistinct).1,
    String.append_empty]
  have hordered := led?_orderBy _ _ _ _ horder
  have hseparated := led?_clause _ (rfl : Text.IsLed " SEPARATOR ") _ _ _ hseparator
  cases hdistinct : a.distinct with
  | true =>
      have hdangling : Text.Strays "DISTINCT " := Or.inl rfl
      exact Or.inr ((hdangling.append_right hordered).append_right hseparated)
  | false =>
      refine Or.inl ?_
      rw [if_neg nofun, String.empty_append]
      rcases h.resolve_left (by simp [hdistinct]) with hkeys | hsome
      · have hne : Layout.orderItems settings a.orderBy ≠ [] := by
          obtain ⟨⟨_, _, _⟩, ks, hcons⟩ := List.exists_cons_of_ne_nil hkeys
          rw [hcons]
          exact List.cons_ne_nil _ _
        have hled : Text.IsLed ordered := led_orderBy hne _ _ _ horder
        exact hled.append
      · obtain ⟨e, he⟩ := Option.ne_none_iff_exists'.1 hsome
        rw [he] at hseparator
        have hled : Text.IsLed separated :=
          led_text_append (rfl : Text.IsLed " SEPARATOR ") _ _ _ hseparator
        rcases hordered with rfl | hordered
        · rwa [String.empty_append]
        · exact hordered.append

/-- A loose aggregate is never printed tidily. -/
theorem not_isTidy_aggregate {a : Aggregate} (h : (aggregate a).IsLoose)
    (hwrites : ((aggregate a).doc settings).Writes settings c text c') :
    ¬Text.IsTidy text := by
  obtain ⟨hargs, h⟩ := h
  refine Part.not_isTidy ?_ (led_or_strays_bareAggregated h) hwrites
  rcases a with ⟨name, distinct, args, orderBy, separator, filter, window⟩
  obtain rfl : args = [] := hargs
  exact .second (.besideFirst (.second .here))

/-- A suffix of empty words leaves a space after the type of a cast. -/
theorem strays_castType {type : DataType} (hne : type.suffix ≠ [])
    (hempty : ∀ s ∈ type.suffix, s = "") :
    (Layout.castType type).Meets settings Text.Strays := by
  have hwords : (if type.suffix.isEmpty then empty
      else .text " " ++ words type.suffix).Meets settings Text.Strays := by
    rw [if_neg (by simpa using hne)]
    exact strays_text_append rfl (eq_empty_of_writes_words hempty)
  exact strays_append_left (strays_append_left hwords)

/-- A loose cast is never printed tidily. -/
theorem not_isTidy_cast {t : Cast} (h : (cast t).IsLoose)
    (hwrites : ((cast t).doc settings).Writes settings c text c') :
    ¬Text.IsTidy text := by
  rcases h with ⟨hne, hempty⟩ | ⟨collation, hsome, hblank⟩
  · have htype : (Layout.castType t.target).Meets settings Text.Strays :=
      strays_castType hne hempty
    rcases t with ⟨subject, target, _ | _, keyword, tail, rename, collate⟩
    · exact Part.not_isTidy (.first (.first (.first (.second (.second .here)))))
        (fun _ _ _ hinner => Or.inr (strays_append_left htype _ _ _ hinner)) hwrites
    · refine Meets.not_isTidy ?_ hwrites
      have hcast (d : Doc) : (d ++ (Layout.expr settings subject ++ Doc.text "::" ++
          Layout.castType target)).Meets settings Text.Strays :=
        strays_append_left (strays_append_left htype)
      exact strays_append_right (strays_append_right (strays_append_right (hcast _)
        (led?_castTailDoc tail)) (led?_rename rename))
        (led?_clause (collate.map KeywordValue.doc) (rfl : Text.IsLed " "))
  · rcases t with ⟨subject, target, form, keyword, tail, rename, collate⟩
    obtain rfl : collate = some collation := hsome
    refine Meets.not_isTidy (strays_append_left ?_) hwrites
    exact strays_text_append rfl (strays_blank hblank)

/-- A loose column definition is never printed tidily. -/
theorem not_isTidy_columnDef {d : ColumnDef} (h : (columnDef d).IsLoose)
    (hwrites : ((columnDef d).doc settings).Writes settings c text c') :
    ¬Text.IsTidy text := by
  have hword {t : String} (ht : ' ' ∈ t.toList.getLast?) :
      (Doc.clause t (some (word ""))).Meets settings Text.Strays := by
    refine strays_text_append ht fun _ _ _ hword => ?_
    rw [(writes_verbatim_iff.1 hword).1, (Text.toUpper_eq_empty_iff "").2 rfl]
  refine Meets.not_isTidy (strays_append_left ?_) hwrites
  rcases h with h | h
  · exact strays_fragments (by simp [h]) (hword (t := "CHARACTER SET ") rfl)
  · exact strays_fragments (by simp [h]) (hword (t := "COLLATE ") rfl)

/-- A fixed space beside a part without a text is stray. -/
theorem not_isTidy_of_isLoose (h : n.IsLoose)
    (hwrites : (n.doc settings).Writes settings c text c') : ¬Text.IsTidy text := by
  unfold IsLoose at h
  split at h
  · next kind value =>
      obtain ⟨_, _, _, hlead, -, rfl⟩ := writes_append_iff.1 hwrites
      obtain ⟨_, _, _, hkind, hspace, rfl⟩ := writes_append_iff.1 hlead
      rw [(writes_verbatim_iff.1 hkind).1, (Text.toUpper_eq_empty_iff kind).2 h,
        (writes_text_iff.1 hspace).1, String.empty_append]
      have hled : Text.IsLed " " := rfl
      exact hled.append.not_isTidy
  · next subject collation =>
      obtain ⟨_, _, _, hlead, hcollation, rfl⟩ := writes_append_iff.1 hwrites
      obtain ⟨_, _, _, -, hspace, rfl⟩ := writes_append_iff.1 hlead
      rw [strays_blank h _ _ _ hcollation, (writes_text_iff.1 hspace).1,
        String.append_empty]
      have hdangling : Text.Strays " " := Or.inl rfl
      exact hdangling.append_left.not_isTidy
  · exact not_isTidy_aggregate h hwrites
  · exact not_isTidy_cast h hwrites
  · exact not_isTidy_columnDef h hwrites
  · exact h.elim

/-- If the texts in a node have no spaces, its text is tidy unless a node that is
printed in it puts a fixed space beside a part without a text; the text of such a
node is not.  Parentheses may be looked at if no text in the node brings one to an
edge of its own. -/
theorem isTidy_of_writes (hn : n.isTerm = true)
    (hspaceless : n.Every fun l => ' ' ∉ l.text.toList)
    (hwrites : (n.doc settings).Writes settings c text c') :
    ((∀ m ∈ Walk.printed.nodes n, ¬m.IsLoose) →
        Text.IsTrim text ∧ (n.Every Leaf.IsFit → Text.IsTidy text)) ∧
      (n.IsLoose → ¬Text.IsTidy text) := by
  refine ⟨fun htight => ?_, fun hloose => not_isTidy_of_isLoose hloose hwrites⟩
  have htrim : Text.IsTrim text := by
    have hlaid : n.IsLaid (.tidy False) settings :=
      isLaid_tidy hspaceless False.elim htight
    exact (hlaid.lays? hn _ _ _ hwrites).isTrim
  refine ⟨htrim, fun hfit => ⟨htrim, ?_⟩⟩
  have hlaid : n.IsLaid (.tidy True) settings :=
    isLaid_tidy hspaceless (fun _ => hfit) htight
  exact (hlaid.lays? hn _ _ _ hwrites).isSnug trivial

/-- The type `INT UNSIGNED`, with an empty word before the last one. -/
def unsignedType : DataType where
  name := "INT"
  length := none
  scale := none
  parentheses := false
  quoted := none
  suffix := ["", "UNSIGNED"]
  array := none
  values := []

theorem doc_unsignedType_print :
    ((dataType unsignedType).doc (Settings.ofDialect .mysql)).print
      (.ofDialect .mysql) =
      .ok "INT UNSIGNED" := by
  decide +kernel

/-- The empty word leaves no space behind. -/
theorem isTidy_of_writes_unsigned :
    (dataType unsignedType).isTerm = true ∧
      ((dataType unsignedType).Every fun l => ' ' ∉ l.text.toList) ∧
      (∃ c', ((dataType unsignedType).doc (Settings.ofDialect .mysql)).Writes
        (.ofDialect .mysql) .start "INT UNSIGNED" c') ∧
      Text.IsTidy "INT UNSIGNED" := by
  have hspaceless : (dataType unsignedType).Every fun l => ' ' ∉ l.text.toList :=
    every_iff.2 ⟨by decide, fun m hm => absurd hm List.not_mem_nil⟩
  have hfit : (dataType unsignedType).Every Leaf.IsFit :=
    every_iff.2 ⟨by unfold Leaf.IsFit; decide,
      fun m hm => absurd hm List.not_mem_nil⟩
  have htight : ∀ m ∈ Walk.printed.nodes (dataType unsignedType), ¬m.IsLoose :=
    Walk.printed.forall_nodes_iff.2 ⟨id, fun m hm => absurd hm List.not_mem_nil⟩
  obtain ⟨c', hwrites⟩ := print_eq_ok_iff.1 doc_unsignedType_print
  exact ⟨rfl, hspaceless, ⟨c', hwrites⟩,
    ((isTidy_of_writes rfl hspaceless hwrites).1 htight).2 hfit⟩

/-- A cast to the type `INT` with one empty word after it. -/
def castToBlank : Cast where
  subject := .column ⟨none, none, "a"⟩
  target := { unsignedType with suffix := [""] }
  form := .keyword
  keyword := some "CAST"
  tail := none
  rename := none
  collate := none

/-- No text in the cast has a blank, and a space stands before its
closing parenthesis. -/
theorem render_castToBlank_not_isTidy :
    ((expr (.cast castToBlank)).Every fun l =>
        l.text.toList.any Char.isWhitespace = false) ∧
      ∃ text, (Expr.cast castToBlank).render (.ofDialect .mysql) = .ok text ∧
        ¬Text.IsTidy text := by
  refine ⟨?_, "CAST(`a` AS INT )", by decide +kernel,
    fun htidy => htidy.closing (by decide)⟩
  have hcolumn : (expr castToBlank.subject).Every
      fun l => l.text.toList.any Char.isWhitespace = false :=
    every_iff.2 ⟨by decide, fun m hm => absurd hm List.not_mem_nil⟩
  have hcast : (cast castToBlank).Every
      fun l => l.text.toList.any Char.isWhitespace = false :=
    every_iff.2 ⟨by decide, List.forall_mem_singleton.2 hcolumn⟩
  exact every_iff.2 ⟨fun l hl => absurd hl List.not_mem_nil,
    List.forall_mem_singleton.2 hcast⟩

end Node

end SqlPrinter
