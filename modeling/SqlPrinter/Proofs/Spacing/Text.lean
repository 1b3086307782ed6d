/-
The texts of a statement under a rule of spacing.  A change of letter case and the
marks around a name or a string bring no new neighbours that a rule could forbid, so
a text that keeps to a rule does so in every use that is made of it.
-/
import SqlPrinter.Proofs.Quoting
import SqlPrinter.Proofs.Spacing.Leaf

namespace SqlPrinter

variable {S : Spacing} {p q : Side} {s : String}

/-! ## Neighbours -/

/-- A character that may stand beside every other one under every rule. -/
def IsNeutral (c : Char) : Prop :=
  ∀ d, isApart c d = true ∧ isApart d c = true

/-- Only spaces, parentheses and the characters that open comments are not
neutral. -/
theorem isNeutral_of_not_mem {c : Char} (h : c ∉ [' ', '(', ')', '-', '/', '*']) :
    IsNeutral c := by
  intro d
  simp only [List.mem_cons, List.not_mem_nil, or_false, not_or] at h
  simp [isApart, h]

theorem not_mem_of_isAlpha {c : Char} (h : c.isAlpha = true) :
    c ∉ [' ', '(', ')', '-', '/', '*'] := by
  have hnone : [' ', '(', ')', '-', '/', '*'].any Char.isAlpha = false := rfl
  exact fun hmem => List.any_eq_false.1 hnone c hmem h

theorem isNeutral_of_isAlpha {c : Char} (h : c.isAlpha = true) : IsNeutral c :=
  isNeutral_of_not_mem (not_mem_of_isAlpha h)

theorem isNeutral_of_isDigit {c : Char} (h : c.isDigit = true) : IsNeutral c := by
  have hnone : [' ', '(', ')', '-', '/', '*'].any Char.isDigit = false := rfl
  exact isNeutral_of_not_mem fun hmem => List.any_eq_false.1 hnone c hmem h

theorem isNeutral_opening (marks : QuoteMarks) : IsNeutral marks.opening :=
  isNeutral_of_not_mem (by cases marks <;> decide)

theorem isNeutral_closing (marks : QuoteMarks) : IsNeutral marks.closing :=
  isNeutral_of_not_mem (by cases marks <;> decide)

namespace Spacing

/-! ## Letter case -/

/-- A change of letter case brings letters only. -/
theorem isChain_map {g : Char → Char} (hg : ∀ c, g c = c ∨ (g c).isAlpha = true)
    {cs : List Char} (h : cs.IsChain S.Next) : (cs.map g).IsChain S.Next := by
  refine List.isChain_map_of_isChain g (fun a b hab => ?_) h
  rcases hg a with ha | ha
  · rcases hg b with hb | hb
    · rwa [ha, hb]
    · exact S.next _ _ (isNeutral_of_isAlpha hb _).2
  · exact S.next _ _ (isNeutral_of_isAlpha ha _).1

/-- A change to upper case leaves all neighbours as allowed as they were. -/
theorem isChain_toUpper (h : s.toList.IsChain S.Next) :
    s.toUpper.toList.IsChain S.Next := by
  rw [Text.toList_toUpper]
  exact isChain_map Text.toUpper_eq_or_isAlpha h

theorem isChain_folded (settings : Settings) (h : s.toList.IsChain S.Next) :
    (Ident.folded settings s).toList.IsChain S.Next := by
  unfold Ident.folded
  split
  · rw [Text.toList_toLower]
    exact isChain_map Text.toLower_eq_or_isAlpha h
  · exact isChain_toUpper h
  · exact h

/-! ## Quoting -/

/-- Doubling the closing mark does not change what comes first. -/
theorem head?_encode (closing : Char) (cs : List Char) :
    (Quoted.encode closing cs).head? = cs.head? := by
  cases cs with
  | nil => rfl
  | cons c cs =>
      rw [Quoted.encode]
      split <;> rfl

/-- Doubling a neutral mark keeps all neighbours allowed. -/
theorem isChain_encode {closing : Char} (hclosing : IsNeutral closing)
    {cs : List Char} (h : cs.IsChain S.Next) :
    (Quoted.encode closing cs).IsChain S.Next := by
  induction cs with
  | nil => exact h
  | cons c cs ih =>
      rw [List.isChain_cons] at h
      have hrest : (c :: Quoted.encode closing cs).IsChain S.Next := by
        rw [List.isChain_cons, head?_encode]
        exact ⟨h.1, ih h.2⟩
      rw [Quoted.encode]
      split
      · next heq =>
          rw [List.isChain_cons_cons]
          exact ⟨S.next c c (heq ▸ (hclosing closing).1), hrest⟩
      · exact hrest

/-- A text between neutral marks. -/
theorem piece_wrap {opening closing : Char} (hopening : IsNeutral opening)
    (hclosing : IsNeutral closing) (hfirst : Side.word.mayStart opening = true)
    (hlast : Side.word.mayEnd closing = true) (h : s.toList.IsChain S.Next) :
    S.Piece .word .word (Quoted.wrap opening closing s) := by
  refine ⟨?_, fun c hc => ?_, fun c hc => ?_, fun hempty => ?_⟩
  · rw [Quoted.wrap, String.toList_ofList, List.isChain_cons, List.isChain_append]
    refine ⟨fun c _ => S.next _ _ (hopening c).1, isChain_encode hclosing h,
      .singleton _, ?_⟩
    intro a _ b hb
    obtain rfl := Option.some.inj hb
    exact S.next _ _ (hclosing a).2
  · rw [Quoted.wrap, String.toList_ofList] at hc
    obtain rfl := Option.some.inj hc
    exact starts_of_mayStart hfirst
  · rw [Quoted.wrap, String.toList_ofList, List.getLast?_cons,
      List.getLast?_append] at hc
    obtain rfl := Option.some.inj hc
    exact ends_of_mayEnd hlast
  · exact absurd hempty (Quoted.wrap_ne_empty _ _ _)

/-- A quoted string is a word. -/
theorem piece_string (h : s.toList.IsChain S.Next) :
    S.Piece .word .word (Quoted.string s) :=
  piece_wrap (isNeutral_of_not_mem (by decide)) (isNeutral_of_not_mem (by decide))
    rfl rfl h

/-- A quoted name is a word in each dialect. -/
theorem piece_identifier (d : Dialect) (h : s.toList.IsChain S.Next) :
    S.Piece .word .word (Quoted.identifier d s) := by
  refine piece_wrap (isNeutral_opening _) (isNeutral_closing _) ?_ ?_ h
  · cases d <;> rfl
  · cases d <;> rfl

/-- A run of bare characters. -/
theorem piece_of_isBareChar (hs : s ≠ "")
    (h : ∀ c ∈ s.toList, Ident.isBareChar c = true) : S.Piece .word .word s := by
  have hspecial : [' ', '(', ')', '-', '/'].any Ident.isBareChar = false := rfl
  have hne {c d : Char} (hc : c ∈ s.toList) (hd : d ∈ [' ', '(', ')', '-', '/']) :
      c ≠ d := by
    rintro rfl
    exact List.any_eq_false.1 hspecial c hd (h c hc)
  refine ⟨?_, fun c hc => ?_, fun c hc => ?_, fun hempty => absurd hempty hs⟩
  · refine List.Pairwise.isChain
      (List.pairwise_of_forall_mem_list fun a ha b _ => ?_)
    exact S.next a b (by simp [isApart, hne ha])
  · have hmem := List.mem_of_mem_head? hc
    exact S.first c (hne hmem (by decide)) (hne hmem (by decide))
  · have hmem := List.mem_of_mem_getLast? hc
    exact S.last c (hne hmem (by decide)) (hne hmem (by decide))

/-- A name is a word, quoted or bare. -/
theorem piece_quote (settings : Settings) (h : s.toList.IsChain S.Next) :
    S.Piece .word .word (Ident.quote settings s) := by
  cases hspecial : Ident.isSpecial s with
  | true =>
      exact piece_of_isBareChar (Ident.quote_ne_empty settings s)
        (Ident.isBareChar_of_isSpecial hspecial)
  | false =>
      rcases Ident.quote_cases settings hspecial with ⟨hbare, hquote⟩ | ⟨-, hquote⟩
      · refine piece_of_isBareChar (Ident.quote_ne_empty settings s) ?_
        rw [hquote]
        exact (Ident.isAsciiIdentifier_of_staysBare hbare).1.isBareChar
      · rw [hquote]
        exact piece_identifier _ (isChain_folded settings h)

/-- A text with words on both of its sides, in upper case. -/
theorem Piece?.toUpper (h : S.Piece? .word .word s) :
    S.Piece? .word .word s.toUpper := by
  rcases h with hempty | h
  · exact Or.inl ((Text.toUpper_eq_empty_iff s).2 hempty)
  refine Or.inr ⟨isChain_toUpper h.chain, fun c hc => ?_, fun c hc => ?_,
    fun hempty => ?_⟩
  · rw [Text.toList_toUpper, List.head?_map] at hc
    obtain ⟨d, hd, rfl⟩ := Option.mem_map.1 hc
    rcases Text.toUpper_eq_or_isAlpha d with hsame | halpha
    · rw [hsame]
      exact h.starts d hd
    · have hne := not_mem_of_isAlpha halpha
      simp only [List.mem_cons, not_or] at hne
      exact S.first _ hne.1 hne.2.2.1
  · rw [Text.toList_toUpper, List.getLast?_map] at hc
    obtain ⟨d, hd, rfl⟩ := Option.mem_map.1 hc
    rcases Text.toUpper_eq_or_isAlpha d with hsame | halpha
    · rw [hsame]
      exact h.ends d hd
    · have hne := not_mem_of_isAlpha halpha
      simp only [List.mem_cons, not_or] at hne
      exact S.last _ hne.1 hne.2.1
  · exact h.empty ((Text.toUpper_eq_empty_iff s).1 hempty)

end Spacing

/-! ## Leaves -/

namespace Node.Leaf

/-- The text itself. -/
def text : Leaf → String
  | verbatim s | name s | string s | mark s => s

/-- It is printed without quotes. -/
def isPlain : Leaf → Bool
  | verbatim _ | mark _ => true
  | name _ | string _ => false

/-- Quoted texts have to keep to the rule by themselves only, the other ones also
where they meet their neighbours. -/
theorem isSpaced {settings : Settings} {l : Leaf}
    (hchain : l.text.toList.IsChain S.Next)
    (hplain : l.isPlain = true → S.Piece? .word .word l.text) :
    l.IsSpaced S settings := by
  cases l with
  | verbatim s => exact ⟨hplain rfl, (hplain rfl).toUpper⟩
  | name s => exact Spacing.piece_quote settings hchain
  | string s => exact Spacing.piece_string hchain
  | mark s => exact hplain rfl

end Node.Leaf

end SqlPrinter
