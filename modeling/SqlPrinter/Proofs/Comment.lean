/-
Comments in a printed expression.  Two minus signs, or a slash and a star, open a
comment where they stand side by side.  No expression whose own texts are free of
both is printed with one of them unless texts meet at a joint: the sign of a
negation has no space after it, so the negation of a negation opens a comment.
-/
import SqlPrinter.Proofs.Part
import SqlPrinter.Proofs.Spacing.Query
import SqlPrinter.Proofs.Spacing.Text
import SqlPrinter.Proofs.Token

namespace SqlPrinter

/-! ## Comments -/

/-- Two minus signs, or a slash and a star, stand side by side in a text. -/
def Text.OpensComment (s : String) : Prop :=
  ['-', '-'] <:+: s.toList ∨ ['/', '*'] <:+: s.toList

/-- No comment is opened.  A text may start and end as it likes. -/
def Spacing.commentless : Spacing where
  Next a b := ¬(a = '-' ∧ b = '-') ∧ ¬(a = '/' ∧ b = '*')
  First _ := True
  Last _ := True
  Empty := True
  next a b h := by
    simp only [isApart, Bool.and_eq_true, Bool.not_eq_true',
      decide_eq_false_iff_not, Bool.and_eq_false_imp, decide_eq_true_eq] at h
    exact ⟨fun ⟨ha, hb⟩ => h.1.2 ha hb, fun ⟨ha, hb⟩ => h.2 ha hb⟩
  first _ _ _ := trivial
  last _ _ _ := trivial
  next_first _ _ hminus hslash _ := ⟨fun h => hminus h.1, fun h => hslash h.1⟩
  last_next _ _ _ hminus hstar := ⟨fun h => hminus h.2, fun h => hstar h.2⟩
  first_of_empty _ _ := trivial
  last_of_empty _ _ := trivial

instance (s : String) : Decidable (Text.OpensComment s) :=
  inferInstanceAs (Decidable (_ ∨ _))

namespace Text

open Spacing (commentless)

variable {s t : String}

/-- A text opens no comment when no two neighbours in it do. -/
theorem not_opensComment_iff :
    ¬OpensComment s ↔ s.toList.IsChain commentless.Next := by
  rw [List.isChain_iff_forall_rel_of_append_cons_cons]
  constructor
  · intro h a b before after heq
    refine ⟨?_, ?_⟩
    · rintro ⟨rfl, rfl⟩
      exact h (Or.inl ⟨before, after, by simp [heq]⟩)
    · rintro ⟨rfl, rfl⟩
      exact h (Or.inr ⟨before, after, by simp [heq]⟩)
  · rintro h (⟨before, after, heq⟩ | ⟨before, after, heq⟩)
    · have hnext := @h '-' '-' before after (by simp [← heq])
      exact hnext.1 ⟨rfl, rfl⟩
    · have hnext := @h '/' '*' before after (by simp [← heq])
      exact hnext.2 ⟨rfl, rfl⟩

/-- A minus in front opens a comment before another minus, and keeps those that were
there. -/
theorem opensComment_minus_iff :
    OpensComment ("-" ++ s) ↔ '-' ∈ s.toList.head? ∨ OpensComment s := by
  rw [← not_iff_not, not_or, not_opensComment_iff, not_opensComment_iff,
    String.toList_append]
  change List.IsChain _ ('-' :: s.toList) ↔ _
  rw [List.isChain_cons]
  refine and_congr_left fun _ =>
    ⟨fun h hminus => (h '-' hminus).1 ⟨rfl, rfl⟩, fun h c hc => ?_⟩
  refine ⟨?_, fun hslash => absurd hslash.1 (by decide)⟩
  rintro ⟨-, rfl⟩
  exact h hc

/-- A comment that opens within a text opens in it. -/
theorem OpensComment.of_within (hs : OpensComment s) (h : s.toList <:+: t.toList) :
    OpensComment t :=
  hs.imp (·.trans h) (·.trans h)

theorem piece?_commentless_iff :
    commentless.Piece? .word .word s ↔ ¬OpensComment s := by
  rw [not_opensComment_iff]
  constructor
  · rintro (rfl | h)
    · exact .nil
    · exact h.chain
  · exact fun h => Or.inr ⟨h, fun _ _ => trivial, fun _ _ => trivial,
      fun _ => ⟨trivial, rfl, rfl⟩⟩

end Text

/-! ## Outside of quoted tokens -/

namespace QuoteMarks

variable {S : Spacing} (marks : QuoteMarks)

/-- What is kept of the characters that are read from a place on. -/
def kept (p : Place) (cs : List Char) : List Char :=
  (marks.read p cs).1 ++ (marks.read p cs).2.rest

/-- The mark that ends a token may stand beside every character. -/
def IsTamePlace : Place → Prop
  | .outside => True
  | .inside closing | .closed closing => IsNeutral closing

theorem isTamePlace_enter (c : Char) : IsTamePlace (marks.enter c) := by
  unfold enter closingOf
  split
  · next closing hclosing =>
      split at hclosing
      · rw [← Option.some.inj hclosing]
        exact isNeutral_of_not_mem (by decide)
      · split at hclosing
        · rw [← Option.some.inj hclosing]
          exact isNeutral_closing marks
        · contradiction
  · trivial

/-- The characters that are kept are neighbours as before, or one of
them is a mark. -/
theorem isChain_kept {p : Place} (hp : IsTamePlace p) {cs : List Char}
    (h : cs.IsChain S.Next) : (marks.kept p cs).IsChain S.Next ∧
      ∀ d ∈ (marks.kept p cs).head?, IsNeutral d ∨ p = .outside ∧ d ∈ cs.head? := by
  induction cs generalizing p with
  | nil =>
      cases p with
      | outside | inside closing => exact ⟨.nil, nofun⟩
      | closed closing =>
          refine ⟨.singleton closing, fun d hd => ?_⟩
          obtain rfl := Option.some.inj hd
          exact Or.inl hp
  | cons c cs ih =>
      rw [List.isChain_cons] at h
      have hentered : (c :: marks.kept (marks.enter c) cs).IsChain S.Next := by
        obtain ⟨hchain, hhead⟩ := ih (marks.isTamePlace_enter c) h.2
        refine List.isChain_cons.2 ⟨fun d hd => ?_, hchain⟩
        rcases hhead d hd with hneutral | ⟨-, hmem⟩
        · exact S.next c d (hneutral c).2
        · exact h.1 d hmem
      cases p with
      | outside =>
          refine ⟨hentered, fun d hd => Or.inr ⟨rfl, hd⟩⟩
      | inside closing =>
          have hkept : marks.kept (.inside closing) (c :: cs) =
              marks.kept (if c = closing then .closed closing else .inside closing)
                cs := rfl
          rw [hkept]
          split
          · obtain ⟨hchain, hhead⟩ := ih (p := .closed closing) hp h.2
            exact ⟨hchain, fun d hd => Or.inl ((hhead d hd).resolve_right nofun)⟩
          · obtain ⟨hchain, hhead⟩ := ih (p := .inside closing) hp h.2
            exact ⟨hchain, fun d hd => Or.inl ((hhead d hd).resolve_right nofun)⟩
      | closed closing =>
          by_cases hc : c = closing
          · have hkept : marks.kept (.closed closing) (c :: cs) =
                marks.kept (.inside closing) cs := by
              simp [kept, read, readChar, hc]
            obtain ⟨hchain, hhead⟩ := ih (p := .inside closing) hp h.2
            rw [hkept]
            exact ⟨hchain, fun d hd => Or.inl ((hhead d hd).resolve_right nofun)⟩
          · have hkept : marks.kept (.closed closing) (c :: cs) =
                closing :: c :: marks.kept (marks.enter c) cs := by
              simp [kept, read, readChar, hc]
            rw [hkept]
            refine ⟨List.isChain_cons_cons.2 ⟨S.next _ _ (hp c).1, hentered⟩,
              fun d hd => ?_⟩
            obtain rfl := Option.some.inj hd
            exact Or.inl hp

/-- A text that opens no comment opens none outside its quoted tokens either: what
is left of a token are the marks of it. -/
theorem opensComment_of_skeleton {s : String}
    (h : Text.OpensComment (marks.skeleton s)) : Text.OpensComment s := by
  by_contra hs
  rw [Text.not_opensComment_iff] at hs
  refine Text.not_opensComment_iff.2 ?_ h
  rw [skeleton, String.toList_ofList]
  exact (marks.isChain_kept (p := .outside) trivial hs).1

end QuoteMarks

/-! ## Numbers -/

/-- The texts are the same but for the numbers of parameters. -/
inductive Text.SameButNumbers : String → String → Prop where
  | refl (s : String) : SameButNumbers s s
  | number (m n : Nat) : SameButNumbers ("$" ++ toString m) ("$" ++ toString n)
  | append {s s' t t' : String} (first : SameButNumbers s s')
      (second : SameButNumbers t t') :
      SameButNumbers (s ++ t) (s' ++ t')

namespace Text.SameButNumbers

variable {S : Spacing} {s t : String}

/-- Texts that differ in their numbers only begin alike. -/
theorem head?_eq (h : SameButNumbers s t) : s.toList.head? = t.toList.head? := by
  induction h with
  | refl s => rfl
  | number m n => simp
  | append first second ihFirst ihSecond =>
      rw [String.toList_append, String.toList_append, List.head?_append,
        List.head?_append, ihFirst, ihSecond]

theorem eq_empty_iff (h : SameButNumbers s t) : s = "" ↔ t = "" := by
  rw [← String.toList_eq_nil_iff, ← String.toList_eq_nil_iff,
    ← List.head?_eq_none_iff, ← List.head?_eq_none_iff, h.head?_eq]

/-- A condition on the last character that all digits satisfy does not
tell them apart. -/
theorem getLast? {P : Char → Prop} (hdigit : ∀ c, c.isDigit = true → P c)
    (h : SameButNumbers s t) (hs : ∀ c ∈ s.toList.getLast?, P c) :
    ∀ c ∈ t.toList.getLast?, P c := by
  induction h with
  | refl s => exact hs
  | number m n =>
      have hne : (toString n).toList ≠ [] := fun hnil =>
        Nat.repr_ne_empty (String.toList_eq_nil_iff.1 hnil)
      intro c hc
      rw [String.toList_append, List.getLast?_append_of_ne_nil _ hne] at hc
      exact Text.forall_mem_toString hdigit n c (List.mem_of_mem_getLast? hc)
  | @append s s' t t' first second ihFirst ihSecond =>
      by_cases hempty : t = ""
      · rw [second.eq_empty_iff.1 hempty, String.append_empty]
        rw [hempty, String.append_empty] at hs
        exact ihFirst hs
      · have hne : t'.toList ≠ [] := fun hnil =>
          hempty (second.eq_empty_iff.2 (String.toList_eq_nil_iff.1 hnil))
        rw [String.toList_append,
          List.getLast?_append_of_ne_nil _ (by simpa using hempty)] at hs
        rw [String.toList_append, List.getLast?_append_of_ne_nil _ hne]
        exact ihSecond hs

theorem joinBeside {s' t' : String} (separator : String) (hs : SameButNumbers s s')
    (ht : SameButNumbers t t') :
    SameButNumbers (Effect.joinBeside separator s t)
      (Effect.joinBeside separator s' t') := by
  unfold Effect.joinBeside
  simp only [hs.eq_empty_iff, ht.eq_empty_iff]
  split
  · exact ht
  · split
    · exact hs
    · exact .append (.append hs (.refl separator)) ht

/-- Neighbours stay allowed when numbers are changed for others. -/
theorem isChain (h : SameButNumbers s t) (hs : s.toList.IsChain S.Next) :
    t.toList.IsChain S.Next := by
  induction h with
  | refl s => exact hs
  | number m n =>
      have hdollar : S.Piece .word .gap "$" := Spacing.piece_of_isFixed rfl
      exact (hdollar.append (Spacing.piece_toString (q := .word) n)).chain
  | append first second ihFirst ihSecond =>
      rw [String.toList_append, List.isChain_append] at hs ⊢
      refine ⟨ihFirst hs.1, ihSecond hs.2.1, ?_⟩
      rw [← second.head?_eq]
      exact first.getLast?
        (fun c hc d _ => S.next c d (isNeutral_of_isDigit hc d).1) hs.2.2

end Text.SameButNumbers

/-- The counters from which a layout is printed make a difference to its
numbers only. -/
theorem Doc.Writes.sameButNumbers {settings : Settings} {d : Doc}
    {b b' c c' : Counters} {s t : String} (hs : d.Writes settings b s b')
    (ht : d.Writes settings c t c') : Text.SameButNumbers s t := by
  induction d generalizing b b' c c' s t with
  | empty =>
      rw [(writes_empty_iff.1 hs).1, (writes_empty_iff.1 ht).1]
      exact .refl ""
  | text u =>
      rw [(writes_text_iff.1 hs).1, (writes_text_iff.1 ht).1]
      exact .refl u
  | verbatim u =>
      rw [(writes_verbatim_iff.1 hs).1, (writes_verbatim_iff.1 ht).1]
      exact .refl u
  | name u =>
      rw [(writes_name_iff.1 hs).1, (writes_name_iff.1 ht).1]
      exact .refl _
  | string u =>
      rw [(writes_string_iff.1 hs).1, (writes_string_iff.1 ht).1]
      exact .refl _
  | placeholder =>
      rw [← hs.run.2, ← ht.run.2, Doc.run, Doc.run]
      cases settings.placeholders with
      | numbered =>
          simpa [Counters.placeholder, Piece.textOf, Piece.toText] using
            Text.SameButNumbers.number b.next.toNat c.next.toNat
      | question => exact .refl _
  | question =>
      rw [eq_of_writes_question hs, eq_of_writes_question ht]
      exact .refl "?"
  | fail e => exact absurd hs not_writes_fail
  | append first second ihFirst ihSecond =>
      obtain ⟨_, _, _, hfirst, hsecond, rfl⟩ := writes_append_iff.1 hs
      obtain ⟨_, _, _, hfirst', hsecond', rfl⟩ := writes_append_iff.1 ht
      exact .append (ihFirst hfirst hfirst') (ihSecond hsecond hsecond')
  | isolated d ih => exact ih (writes_isolated_iff.1 hs) (writes_isolated_iff.1 ht)
  | beside separator first second ihFirst ihSecond =>
      obtain ⟨_, _, _, hfirst, hsecond, rfl⟩ := writes_beside_iff.1 hs
      obtain ⟨_, _, _, hfirst', hsecond', rfl⟩ := writes_beside_iff.1 ht
      exact .joinBeside separator (ihFirst hfirst hfirst')
        (ihSecond hsecond hsecond')
  | twice lead between part e ih =>
      obtain ⟨_, _, hpart, rfl⟩ := exists_of_writes_twice hs
      obtain ⟨_, _, hpart', rfl⟩ := exists_of_writes_twice ht
      have hsame := ih hpart hpart'
      exact .append (.append (.append (.refl lead) hsame) (.refl between)) hsame

/-! ## Clashes -/

namespace Node

variable {settings : Settings} {n : Node}

/-- Texts that the node puts side by side open a comment: a minus sign does before
an operand that starts with one, and at other joints it depends on the texts. -/
def Clashes (settings : Settings) : Node → Prop
  | expr (.unary .neg operand) =>
      ∃ c s c', (Layout.expr settings operand).Writes settings c s c' ∧
        '-' ∈ s.toList.head?
  | n => ∃ d ∈ n.joints settings, ∃ c s c',
      d.Writes settings c s c' ∧ Text.OpensComment s

/-- A negation writes its operand behind a minus. -/
theorem writes_neg_iff {operand : Expr} {c c' : Counters} {s : String} :
    (Layout.expr settings (.unary .neg operand)).Writes settings c s c' ↔
      ∃ t, (Layout.expr settings operand).Writes settings c t c' ∧
        s = "-" ++ t := by
  rw [← Doc.writes_text_append_iff]
  simp [Doc.Writes, Layout.expr, UnaryOp.text, UnaryOp.isWord, Doc.textIf]

theorem Clashes.exists_joint (h : n.Clashes settings) :
    ∃ d ∈ n.joints settings, ∃ c s c',
      d.Writes settings c s c' ∧ Text.OpensComment s := by
  unfold Clashes at h
  split at h
  · obtain ⟨c, t, c', ht, hminus⟩ := h
    have hopens := Text.opensComment_minus_iff.2 (Or.inl hminus)
    exact ⟨_, List.mem_cons_self, c, _, c', writes_neg_iff.2 ⟨t, ht, rfl⟩, hopens⟩
  · exact h

/-- Without a clash no joint opens a comment if no part does. -/
theorem lays?_joints_commentless (hclash : ¬n.Clashes settings)
    (hparts : ∀ m ∈ n.shown, m.IsLaid .commentless settings) :
    ∀ d ∈ n.joints settings, Doc.Lays? .commentless settings .word .word d := by
  intro d hd c s c' hwrites
  refine Text.piece?_commentless_iff.2 fun hopens => hclash ?_
  unfold Clashes
  split
  · next operand =>
      rw [List.mem_singleton.1 hd] at hwrites
      obtain ⟨t, ht, rfl⟩ := writes_neg_iff.1 hwrites
      have hoperand : (expr operand).IsLaid .commentless settings :=
        hparts _ List.mem_cons_self
      have hclosed := Text.not_opensComment_iff.2 (hoperand _ _ _ ht).chain
      exact ⟨c, t, c', ht,
        (Text.opensComment_minus_iff.1 hopens).resolve_right hclosed⟩
  · exact ⟨d, hd, c, s, c', hwrites, hopens⟩

theorem part_of_mem_separatedArgs {settings : Settings} {c : FunctionCall} {d : Doc}
    (h : d ∈ separatedArgs settings c) : d.Part ((call c).doc settings) := by
  rcases c with ⟨name, args, argsParentheses, separator, parentheses, window,
    collate, suffix⟩
  unfold separatedArgs at h
  split at h
  · contradiction
  · next hname =>
      obtain ⟨s, hs, hd⟩ := List.mem_flatMap.1 h
      obtain ⟨es, hes, rfl⟩ := List.mem_map.1 hd
      obtain rfl : args = some es := Option.mem_toList.1 hes
      have hseparator : Layout.argSeparator name separator = .verbatim s := by
        rw [Layout.argSeparator, if_neg hname, Option.mem_toList.1 hs]
      rw [← hseparator]
      exact part_functionCall (.besideFirst part_callHead)

theorem part_typeName {type : DataType} {d : Doc} (h : d ∈ markedNames type) :
    d.Part (Layout.typeName type) := by
  obtain ⟨mark, hmark, rfl⟩ := List.mem_map.1 h
  rw [Layout.typeName, Option.mem_toList.1 hmark]
  exact .here

/-- Joints are parts of the layout of their node. -/
theorem part_of_mem_joints {settings : Settings} {n : Node} {d : Doc}
    (h : d ∈ n.joints settings) : d.Part (n.doc settings) := by
  unfold joints at h
  split at h
  · rw [List.mem_singleton.1 h]
    exact .here
  · rw [List.mem_singleton.1 h]
    exact .here
  · exact part_of_mem_separatedArgs h
  · next type =>
      have hname := part_typeName h
      cases type
      exact .second (.besideFirst (.first (.first hname)))
  · next c =>
      have hname : d.Part (Layout.castType c.target) :=
        .first (.first (part_typeName h))
      rcases c with ⟨subject, target, _ | _, keyword, tail, rename, collate⟩
      · exact .first (.first (.first (.second (.second (.parens (.second hname))))))
      · exact .first (.first (.first (.second (.second hname))))
  · contradiction

/-- Where texts clash, a comment is opened in the text of every node around them. -/
theorem Clashes.opensComment {m : Node} {c c' : Counters} {s : String}
    (h : m.Clashes settings) (hm : m ∈ Walk.printed.nodes n) (hn : n.isPart = true)
    (hwrites : (n.doc settings).Writes settings c s c') : Text.OpensComment s := by
  obtain ⟨d, hd, b, t, b', ht, hopens⟩ := h.exists_joint
  have hjoint := part_of_mem_joints hd
  have hne : m.doc settings ≠ .empty := by
    intro hempty
    rw [hempty] at hjoint
    rw [hjoint.eq_empty] at ht
    rw [(Doc.writes_empty_iff.1 ht).1] at hopens
    exact Text.not_opensComment_iff.2 .nil hopens
  obtain ⟨a, u, a', hu, hwithin⟩ :=
    (hjoint.trans (part_of_mem_printed hn hm hne)).writes hwrites
  refine Text.OpensComment.of_within ?_ hwithin
  by_contra hu'
  have hchain := (hu.sameButNumbers ht).isChain (Text.not_opensComment_iff.1 hu')
  exact Text.not_opensComment_iff.2 hchain hopens

end Node

namespace Expr

variable {settings : Settings} {e : Expr} {text : String}

/-- If the texts in an expression open no comment, then the text of it opens one
exactly if texts clash in a node that is printed.  Outside of its quoted tokens it
never opens one that it does not open as a whole. -/
theorem render_opensComment_iff
    (hstrings : (Node.expr e).Every fun l => ¬Text.OpensComment l.text)
    (h : e.render settings = .ok text) :
    (Text.OpensComment text ↔ ∃ m ∈ Walk.printed.nodes (.expr e),
      m.Clashes settings) ∧
      (Text.OpensComment (settings.dialect.quoteMarks.skeleton text) →
        Text.OpensComment text) := by
  obtain ⟨c, hwrites⟩ := Doc.print_eq_ok_iff.1 h
  refine ⟨⟨fun hopens => ?_, ?_⟩,
    settings.dialect.quoteMarks.opensComment_of_skeleton⟩
  · by_contra hclash
    simp only [not_exists, not_and] at hclash
    have hlaid : (Node.expr e).IsLaid .commentless settings := by
      refine Node.isLaid (fun m hm l hl => ?_)
        (fun m hm => Node.lays?_joints_commentless (hclash m hm)) fun _ _ =>
          Or.inl trivial
      have hleaf := Walk.forall_printed_leaves hstrings m hm l hl
      exact Node.Leaf.isSpaced (Text.not_opensComment_iff.1 hleaf)
        fun _ => Text.piece?_commentless_iff.2 hleaf
    exact Text.not_opensComment_iff.2 (hlaid _ _ _ hwrites).chain hopens
  · rintro ⟨m, hm, hclash⟩
    exact hclash.opensComment hm rfl hwrites

/-- The negation of minus one, as a tree. -/
def doubleNegation : Expr :=
  .unary .neg (.unary .neg (.literal (.number "1")))

theorem every_doubleNegation :
    (Node.expr doubleNegation).Every fun l => ¬Text.OpensComment l.text := by
  have hdigit : ∀ l ∈ (Node.expr (.literal (.number "1"))).leaves,
      ¬Text.OpensComment l.text :=
    List.forall_mem_singleton.2 (by decide : ¬Text.OpensComment "1")
  have hone : (Node.expr (.literal (.number "1"))).Every fun l =>
      ¬Text.OpensComment l.text :=
    Node.every_iff.2 ⟨hdigit, fun m hm => absurd hm List.not_mem_nil⟩
  have hnegation : (Node.expr (.unary .neg (.literal (.number "1")))).Every
      fun l => ¬Text.OpensComment l.text :=
    Node.every_iff.2 ⟨fun l hl => absurd hl List.not_mem_nil,
      List.forall_mem_singleton.2 hone⟩
  exact Node.every_iff.2
    ⟨fun l hl => absurd hl List.not_mem_nil, List.forall_mem_singleton.2 hnegation⟩

theorem render_doubleNegation :
    doubleNegation.render (.ofDialect .mysql) = .ok "--1" := by
  decide +kernel

/-- Texts clash in the negation of minus one. -/
theorem render_opensComment_iff_doubleNegation :
    (Node.expr doubleNegation).Every (fun l => ¬Text.OpensComment l.text) ∧
      doubleNegation.render (.ofDialect .mysql) = .ok "--1" ∧
      ∃ m ∈ Walk.printed.nodes (.expr doubleNegation),
        m.Clashes (.ofDialect .mysql) :=
  ⟨every_doubleNegation, render_doubleNegation,
    (render_opensComment_iff every_doubleNegation render_doubleNegation).1.1
      (by decide)⟩

/-- No text in the negation of minus one opens a comment, and the
text of it does. -/
theorem skeleton_doubleNegation_opensComment :
    (Node.expr doubleNegation).Every (fun l => ¬Text.OpensComment l.text) ∧
      ∃ text, doubleNegation.render (.ofDialect .mysql) = .ok text ∧
        Text.OpensComment (Dialect.mysql.quoteMarks.skeleton text) :=
  ⟨every_doubleNegation, "--1", render_doubleNegation, by decide⟩

end Expr

end SqlPrinter
