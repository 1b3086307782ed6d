/-
Languages of printed texts.  A language that has the texts of the leaves and is
closed under the few ways in which a layout puts texts together has every text
that is printed.  A text comes with the number of the question marks that were
counted for it.
-/
import SqlPrinter.Proofs.Count.Printed
import SqlPrinter.Proofs.Skeleton

namespace SqlPrinter

/-! ## Plain characters -/

/-- The characters that are not plain. -/
def marksAndParens : List Char :=
  ['\x27', '"', '\x60', '[', ']', '(', ')', '?']

/-- A character is plain if it satisfies something that no other one does. -/
theorem isPlainChar_of {p : Char → Bool} (hnone : marksAndParens.any p = false)
    {c : Char} (hc : p c = true) : isPlainChar c = true := by
  rw [isPlainChar, decide_eq_true_eq]
  exact fun hmem => List.any_eq_false.1 hnone c hmem hc

/-! ## Languages -/

/-- Texts with the number of question marks that are counted for them. -/
structure Language (settings : Settings) (ok : Node.Leaf → Prop) where
  Mem : Nat → String → Prop
  append {j k : Nat} {s t : String} : Mem j s → Mem k t → Mem (j + k) (s ++ t)
  parens {k : Nat} {s : String} : Mem k s → Mem k ("(" ++ s ++ ")")
  /-- A sort key after the test of it for null. -/
  nullsKey {s between : String} : IsNullsTest between → Mem 0 s →
    Mem 0 ("(" ++ s ++ between ++ s)
  question : Mem 1 "?"
  plain {s : String} : IsPlain s → Mem 0 s
  dims : Mem 0 "[]"
  verbatim {s : String} : ok (.verbatim s) → Mem 0 s
  word {s : String} : ok (.verbatim s) → Mem 0 s.toUpper
  digits {lead s : String} : IsDigitsLead lead → ok (.verbatim s) →
    Mem 0 (lead ++ s ++ "'")
  mark {s : String} : ok (.mark s) → Mem 0 s
  name {s : String} : ok (.name s) → Mem 0 (Ident.quote settings s)
  row : Mem 0 (Ident.quote settings InsertedRef.row)
  string {s : String} : ok (.string s) → Mem 0 (Quoted.string s)

namespace Language

variable {settings : Settings} {ok : Node.Leaf → Prop} (L : Language settings ok)

/-! ## Texts of leaves -/

/-- A number of a machine word is a word of every language. -/
theorem number (n : UInt64) : L.Mem 0 (toString n.toNat) := by
  apply L.plain
  rw [IsPlain, List.all_eq_true]
  exact Text.forall_mem_toString
    (fun c hc => isPlainChar_of (p := Char.isDigit) rfl hc) _

theorem autoIncrement (d : Dialect) : L.Mem 0 d.autoIncrement := by
  cases d with
  | redshift =>
      have hsize : L.Mem 0 ("(" ++ "1, 1" ++ ")") := L.parens (L.plain rfl)
      exact L.append (j := 0) (k := 0) (s := "IDENTITY") (L.plain rfl) hsize
  | _ => exact L.plain rfl

/-- Words with a word between them make a word. -/
theorem intercalate {separator : String} (hseparator : L.Mem 0 separator)
    {parts : List String} (hparts : ∀ s ∈ parts, L.Mem 0 s) :
    L.Mem 0 (separator.intercalate parts) := by
  induction parts with
  | nil =>
      rw [String.intercalate_nil]
      exact L.plain rfl
  | cons s parts ih =>
      have hs := hparts s List.mem_cons_self
      have hrest := ih fun t ht => hparts t (List.mem_cons_of_mem s ht)
      cases parts with
      | nil =>
          rw [String.intercalate_singleton]
          exact hs
      | cons t parts =>
          rw [String.intercalate_cons_cons]
          exact L.append (j := 0) (L.append (j := 0) hs hseparator) hrest

/-- A keyword and its value are joined without their empty parts. -/
theorem keyword {kv : KeywordValue} (hkv : ∀ l ∈ Node.keywordLeaves kv, ok l) :
    L.Mem 0 (kv.fragments.join " ") := by
  have hspace : L.Mem 0 " " := L.plain rfl
  have hverbatim {s : String} (hs : Node.Leaf.verbatim s ∈ Node.keywordLeaves kv) :
      ok (.verbatim s) := hkv _ hs
  apply L.intercalate hspace
  intro s hs
  rcases kv.mem_parts_fragments hs with rfl | hsymbol | rfl
  · exact L.word (hverbatim (by simp [Node.keywordLeaves, Node.verbatims]))
  · exact L.verbatim (hverbatim (by simp_all [Node.keywordLeaves, Node.verbatims]))
  · exact L.word (hverbatim (by simp [Node.keywordLeaves, Node.verbatims]))

/-! ## Evaluation -/

/-- An evaluation counts some question marks and prints a text with that many. -/
def Prints (c : Counters) (r : Run) : Prop :=
  ∃ k, r.counters.positional = c.positional + k ∧
    L.Mem k (Piece.textOf settings r.pieces)

variable {L} {j k : Nat} {ps qs : List Piece}

theorem mem_textOf_piece {p : Piece} (hp : L.Mem k (p.toText settings)) :
    L.Mem k (Piece.textOf settings [p]) := by
  simpa [Piece.textOf] using hp

/-- Texts of two runs of pieces make a text with the parentheses of both. -/
theorem mem_textOf_append (hp : L.Mem j (Piece.textOf settings ps))
    (hq : L.Mem k (Piece.textOf settings qs)) :
    L.Mem (j + k) (Piece.textOf settings (ps ++ qs)) := by
  rw [Piece.textOf_append]
  exact L.append hp hq

/-- Pieces that print nothing have no text. -/
theorem textOf_eq_empty (h : ps.all Piece.isEmpty = true) :
    Piece.textOf settings ps = "" := by
  induction ps with
  | nil => rfl
  | cons p ps ih =>
      rw [List.all_cons, Bool.and_eq_true] at h
      have hp : p.toText settings = "" := by
        cases p <;> simp_all [Piece.isEmpty, Piece.toText]
      have hcons : Piece.textOf settings (p :: ps) =
          p.toText settings ++ Piece.textOf settings ps := by
        simp [Piece.textOf]
      rw [hcons, hp, ih h.2]
      rfl

theorem mem_textOf_joinBeside (hp : L.Mem j (Piece.textOf settings ps))
    (hq : L.Mem k (Piece.textOf settings qs)) :
    L.Mem (j + k) (Piece.textOf settings (Piece.joinBeside " " ps qs)) := by
  have hboth := L.append hp hq
  unfold Piece.joinBeside
  split
  · next hempty => simpa [textOf_eq_empty hempty] using hboth
  · split
    · next hempty => simpa [textOf_eq_empty hempty] using hboth
    · have hspace : L.Mem 0 (Piece.textOf settings [.text " "]) :=
        mem_textOf_piece (L.plain (s := " ") rfl)
      have hrest := mem_textOf_append hspace hq
      rw [Nat.zero_add] at hrest
      exact mem_textOf_append hp hrest

theorem prints_piece (p : Piece) (hp : L.Mem 0 (p.toText settings)) (c : Counters) :
    L.Prints c ⟨[p], c, none⟩ :=
  ⟨0, rfl, mem_textOf_piece hp⟩

/-- A placeholder is a word in every placeholder style, whatever its number is. -/
theorem prints_placeholder (placeholders : PlaceholderStyle) (c : Counters) :
    L.Prints c (c.placeholder placeholders) := by
  cases placeholders with
  | numbered =>
      have hlead : L.Mem 0 "$" := L.plain rfl
      exact ⟨0, rfl, mem_textOf_piece (L.append (j := 0) hlead (L.number c.next))⟩
  | question => exact ⟨1, rfl, mem_textOf_piece L.question⟩

variable (L) in
/-- Whatever is printed is in the language. -/
theorem prints_run {l : List Site} {F : Filling → Doc}
    (hF : Pattern settings ok l F) {placeholders : PlaceholderStyle} {c : Counters}
    (h : ((F .same).run placeholders c).failure = none) :
    L.Prints c ((F .same).run placeholders c) := by
  induction hF generalizing c with
  | empty => exact ⟨0, rfl, L.plain rfl⟩
  | fail e => contradiction
  | text hs => exact prints_piece (.text _) (L.plain hs) c
  | number n => exact prints_piece (.text _) (L.number n) c
  | dims d =>
      cases d with
      | one => exact prints_piece (.text _) L.dims c
      | two =>
          exact prints_piece (.text _)
            (L.append (j := 0) (s := "[]") L.dims L.dims) c
  | counting => exact prints_piece (.text _) (L.autoIncrement _) c
  | verbatim hs => exact prints_piece (.verbatim _) (L.verbatim hs) c
  | word hs => exact prints_piece (.verbatim _) (L.word hs) c
  | keyword hkv => exact prints_piece (.verbatim _) (L.keyword hkv) c
  | mark hs => exact prints_piece (.verbatim _) (L.mark hs) c
  | @digits lead s hlead hs =>
      refine ⟨0, rfl, ?_⟩
      have htext : Piece.textOf settings [.text lead, .verbatim s, .text "'"] =
          lead ++ s ++ "'" := by
        simp [Piece.textOf, Piece.toText, String.append_assoc]
      exact htext ▸ L.digits hlead hs
  | name hs => exact prints_piece (.name _) (L.name hs) c
  | row => exact prints_piece (.name _) L.row c
  | string hs => exact prints_piece (.string _) (L.string hs) c
  | question => exact prints_placeholder .question c
  | site b => exact prints_placeholder placeholders c
  | append _ _ ihF ihG =>
      obtain ⟨hfirst, hsecond, hrun⟩ := Doc.run_append h
      obtain ⟨j, hj, htext⟩ := ihF hfirst
      obtain ⟨k, hk, htext'⟩ := ihG hsecond
      rw [hrun]
      exact ⟨j + k, by rw [hk, hj, Nat.add_assoc], mem_textOf_append htext htext'⟩
  | @parens l F _ ih =>
      obtain ⟨hinner, -, hrun⟩ := Doc.run_append h
      obtain ⟨-, hpart, hrun'⟩ := Doc.run_append hinner
      obtain ⟨k, hk, htext⟩ := ih hpart
      change L.Prints c ((.text "(" ++ F .same ++ .text ")" : Doc).run
        placeholders c)
      rw [hrun, hrun']
      refine ⟨k, hk, ?_⟩
      simpa [Doc.run, Piece.textOf, Piece.toText, String.append_assoc]
        using L.parens htext
  | isolated _ ih =>
      obtain ⟨hinner, hrun⟩ := Doc.run_isolated h
      rw [hrun]
      exact ih hinner
  | beside _ _ ihF ihG =>
      obtain ⟨hfirst, hsecond, hrun⟩ := Doc.run_beside h
      obtain ⟨j, hj, htext⟩ := ihF hfirst
      obtain ⟨k, hk, htext'⟩ := ihG hsecond
      rw [hrun]
      exact ⟨j + k, by rw [hk, hj, Nat.add_assoc],
        mem_textOf_joinBeside htext htext'⟩
  | twice _ hbetween _ _ ih =>
      obtain ⟨hpart, hmarks, hrun⟩ := Doc.run_twice h
      obtain ⟨k, hk, htext⟩ := ih hpart
      obtain rfl : k = 0 := by omega
      rw [hrun]
      refine ⟨0, hmarks, ?_⟩
      simpa [Piece.textOf, Piece.toText, String.append_assoc]
        using L.nullsKey hbetween htext

end Language

/-! ## Writing -/

namespace Root

/-- What is printed has a pattern if its texts are as a condition asks. -/
theorem exists_pattern_of_every (settings : Settings) {ok : Node.Leaf → Prop}
    {root : Root} (h : root.node.Every ok) :
    ∃ l F, Pattern settings ok l F ∧ F .same = root.node.doc settings := by
  have hpattern : root.node.HasPattern settings ok := Node.hasPattern h
  cases root with
  | expr e =>
      obtain ⟨l, hF, -⟩ := hpattern []
      exact ⟨l, _, hF, by rw [Filling.same_expr]; rfl⟩
  | query q =>
      obtain ⟨l, hF, -⟩ := hpattern []
      exact ⟨l, _, hF, by rw [Filling.same_query]; rfl⟩
  | statement s =>
      obtain ⟨l, hF, -⟩ := hpattern []
      exact ⟨l, _, hF, by rw [Filling.same_statement]; rfl⟩

/-- What is printed at the end of a text is in each language that has the texts
of the leaves. -/
theorem exists_text_of_write {settings : Settings} {root : Root} {w : Writer}
    {ok : Node.Leaf → Prop} (L : Language settings ok) (h : root.node.Every ok)
    (hw : (root.write settings w).1 = none) :
    ∃ s, (root.write settings w).2.buffer = w.buffer ++ s ∧
      L.Mem
        ((root.write settings w).2.counters.positional - w.counters.positional)
        s := by
  obtain ⟨hrun, hwrite⟩ := run_of_write hw
  obtain ⟨l, F, hF, hsame⟩ := exists_pattern_of_every settings h
  rw [← hsame] at hrun hwrite
  obtain ⟨k, hk, hmem⟩ := L.prints_run hF hrun
  refine ⟨_, by rw [hwrite]; rfl, ?_⟩
  have hcount :
      (root.write settings w).2.counters.positional -
        w.counters.positional = k := by
    rw [hwrite]
    exact Nat.sub_eq_of_eq_add (hk.trans (Nat.add_comm _ _))
  rw [hcount]
  exact hmem

end Root

end SqlPrinter
