/-
What stands side by side in a text.  A rule says which characters may be
neighbours and where a text may start and end.  A text that keeps to it is put
together from pieces: one side of a piece is a word, or it is a gap, as the fixed
words of the language bring it with them, and a word on one side and a gap on the
other may always meet.
-/
import Mathlib.Data.List.Chain
import SqlPrinter.Proofs.Writes

namespace SqlPrinter

/-! ## Rules -/

/-- The characters may be neighbours under every rule. -/
def isApart (a b : Char) : Bool :=
  !(a = ' ' && b = ' ') && !(a = '(' && b = ' ') && !(a = ' ' && b = ')') &&
    !(a = '-' && b = '-') && !(a = '/' && b = '*')

/-- A rule about the characters that may be neighbours in a text and the
ones that may stand at its start and at its end.  The fixed words of the
language keep to it. -/
structure Spacing where
  Next : Char → Char → Prop
  First : Char → Prop
  Last : Char → Prop
  /-- A text may have no characters at all. -/
  Empty : Prop
  next : ∀ a b, isApart a b = true → Next a b
  first : ∀ c, c ≠ ' ' → c ≠ ')' → First c
  last : ∀ c, c ≠ ' ' → c ≠ '(' → Last c
  next_first : ∀ a b, a ≠ '-' → a ≠ '/' → First b → Next a b
  last_next : ∀ a b, Last a → b ≠ '-' → b ≠ '*' → Next a b
  first_of_empty : Empty → ∀ c, First c
  last_of_empty : Empty → ∀ c, Last c

/-- What there is on a side of a piece. -/
inductive Side where
  | word
  | gap

/-- What may meet a side. -/
def Side.other : Side → Side
  | word => gap
  | gap => word

namespace Spacing

variable (S : Spacing)

/-- A piece may start with a character: a word as a text may, and a gap where it may
follow any text. -/
def Starts : Side → Char → Prop
  | .word, c => S.First c
  | .gap, c => ∀ b, S.Last b → S.Next b c

/-- A piece may end in a character. -/
def Ends : Side → Char → Prop
  | .word, c => S.Last c
  | .gap, c => ∀ b, S.First b → S.Next c b

/-- A text that keeps to the rule, with a word or a gap on each of its sides. -/
structure Piece (p q : Side) (s : String) : Prop where
  chain : s.toList.IsChain S.Next
  starts : ∀ c ∈ s.toList.head?, S.Starts p c
  ends : ∀ c ∈ s.toList.getLast?, S.Ends q c
  empty : s = "" → S.Empty ∧ p = .word ∧ q = .word

/-- A piece or nothing. -/
def Piece? (p q : Side) (s : String) : Prop :=
  s = "" ∨ S.Piece p q s

variable {S} {p q r : Side} {s t : String}

theorem Piece.piece? (h : S.Piece p q s) : S.Piece? p q s :=
  Or.inr h

theorem piece?_empty : S.Piece? p q "" :=
  Or.inl rfl

/-- Where texts may be empty, nothing is a piece too. -/
theorem Piece?.piece (h : S.Piece? .word .word s) (hempty : S.Empty ∨ s ≠ "") :
    S.Piece .word .word s := by
  rcases h with rfl | h
  · have hempty := hempty.resolve_right fun hne => hne rfl
    exact ⟨.nil, nofun, nofun, fun _ => ⟨hempty, rfl, rfl⟩⟩
  · exact h

/-- A word meets a gap. -/
theorem ends_starts {a b : Char} (ha : S.Ends q a) (hb : S.Starts q.other b) :
    S.Next a b := by
  cases q with
  | word => exact hb a ha
  | gap => exact ha b hb

/-- Pieces that meet in a word and a gap make one piece. -/
theorem Piece.append (hs : S.Piece p q s) (ht : S.Piece q.other r t) :
    S.Piece p r (s ++ t) := by
  by_cases hsempty : s = ""
  · obtain ⟨hempty, rfl, rfl⟩ := hs.empty hsempty
    rw [hsempty, String.empty_append]
    refine ⟨ht.chain, fun c _ => S.first_of_empty hempty c, ht.ends,
      fun htempty => ?_⟩
    exact absurd (ht.empty htempty).2.1 nofun
  by_cases htempty : t = ""
  · obtain ⟨hempty, hq, rfl⟩ := ht.empty htempty
    rw [htempty, String.append_empty]
    refine ⟨hs.chain, hs.starts, fun c _ => S.last_of_empty hempty c,
      fun h => absurd h hsempty⟩
  refine ⟨?_, fun c hc => ?_, fun c hc => ?_, fun h => ?_⟩
  · rw [String.toList_append, List.isChain_append]
    exact ⟨hs.chain, ht.chain,
      fun a ha b hb => ends_starts (hs.ends a ha) (ht.starts b hb)⟩
  · rw [String.toList_append,
      List.head?_append_of_ne_nil _ (by simpa using hsempty)] at hc
    exact hs.starts c hc
  · rw [String.toList_append,
      List.getLast?_append_of_ne_nil _ (by simpa using htempty)] at hc
    exact ht.ends c hc
  · exact absurd (String.append_eq_empty_iff.1 h).1 hsempty

theorem Piece.append_piece? (hs : S.Piece p q s) (ht : S.Piece? q.other q t) :
    S.Piece p q (s ++ t) := by
  rcases ht with rfl | ht
  · rwa [String.append_empty]
  · exact hs.append ht

theorem Piece?.append_piece (hs : S.Piece? p p.other s) (ht : S.Piece p q t) :
    S.Piece p q (s ++ t) := by
  rcases hs with rfl | hs
  · rwa [String.empty_append]
  · cases p with
    | word => exact hs.append ht
    | gap => exact hs.append ht

theorem Piece?.append (hs : S.Piece? q.other q s) (ht : S.Piece? q.other q t) :
    S.Piece? q.other q (s ++ t) := by
  rcases hs with rfl | hs
  · rwa [String.empty_append]
  · exact Or.inr (hs.append_piece? ht)

/-! ## Fixed texts -/

end Spacing

/-- A piece may start with a character under every rule. -/
def Side.mayStart : Side → Char → Bool
  | word, c => c ≠ ' ' && c ≠ ')'
  | gap, c => c ≠ '-' && c ≠ '*'

/-- A piece may end in a character under every rule. -/
def Side.mayEnd : Side → Char → Bool
  | word, c => c ≠ ' ' && c ≠ '('
  | gap, c => c ≠ '-' && c ≠ '/'

/-- All neighbours may be so, and the last character may be the end of a piece. -/
def Side.goesOn (q : Side) : Char → List Char → Bool
  | c, [] => q.mayEnd c
  | c, d :: ds => isApart c d && q.goesOn d ds

/-- A text is a piece under every rule. -/
def isFixed (p q : Side) (t : String) : Bool :=
  match t.toList with
  | [] => false
  | c :: cs => p.mayStart c && q.goesOn c cs

namespace Spacing

variable {S : Spacing} {p q : Side}

theorem starts_of_mayStart {c : Char} (h : p.mayStart c = true) : S.Starts p c := by
  cases p <;> simp only [Side.mayStart, Bool.and_eq_true, decide_eq_true_eq] at h
  · exact S.first c h.1 h.2
  · exact fun b hb => S.last_next b c hb h.1 h.2

theorem ends_of_mayEnd {c : Char} (h : q.mayEnd c = true) : S.Ends q c := by
  cases q <;> simp only [Side.mayEnd, Bool.and_eq_true, decide_eq_true_eq] at h
  · exact S.last c h.1 h.2
  · exact fun b hb => S.next_first c b h.1 h.2 hb

theorem of_goesOn {c : Char} {cs : List Char} (h : q.goesOn c cs = true) :
    (c :: cs).IsChain S.Next ∧ ∀ d ∈ (c :: cs).getLast?, S.Ends q d := by
  induction cs generalizing c with
  | nil =>
      refine ⟨.singleton c, fun d hd => ?_⟩
      obtain rfl := Option.some.inj hd
      exact ends_of_mayEnd h
  | cons d ds ih =>
      rw [Side.goesOn, Bool.and_eq_true] at h
      obtain ⟨hchain, hends⟩ := ih h.2
      refine ⟨List.isChain_cons_cons.2 ⟨S.next c d h.1, hchain⟩, ?_⟩
      rwa [List.getLast?_cons_cons]

/-- A fixed text is a piece under every rule. -/
theorem piece_of_isFixed {t : String} (h : isFixed p q t = true) :
    S.Piece p q t := by
  unfold isFixed at h
  cases ht : t.toList with
  | nil =>
      rw [ht] at h
      contradiction
  | cons c cs =>
      rw [ht, Bool.and_eq_true] at h
      obtain ⟨hchain, hends⟩ := of_goesOn h.2
      refine ⟨by rwa [ht], fun d hd => ?_, by rwa [ht], fun hempty => ?_⟩
      · rw [ht] at hd
        obtain rfl := Option.some.inj hd
        exact starts_of_mayStart h.1
      · rw [hempty] at ht
        contradiction

/-- A number may stand anywhere. -/
theorem piece_toString (n : Nat) : S.Piece p q (toString n) := by
  have hspecial : [' ', '(', ')', '-', '*', '/'].any Char.isDigit = false := rfl
  have hne {c d : Char} (hc : c.isDigit = true)
      (hd : d ∈ [' ', '(', ')', '-', '*', '/']) :
      c ≠ d := by
    rintro rfl
    exact List.any_eq_false.1 hspecial c hd hc
  have hgoesOn {c : Char} {cs : List Char} (h : ∀ d ∈ c :: cs, d.isDigit = true) :
      q.goesOn c cs = true := by
    induction cs generalizing c with
    | nil =>
        have hc := h c List.mem_cons_self
        cases q <;> simp [Side.goesOn, Side.mayEnd, hne hc]
    | cons d ds ih =>
        have hc := h c List.mem_cons_self
        rw [Side.goesOn, ih fun e he => h e (List.mem_cons_of_mem c he)]
        simp [isApart, hne hc]
  have hdigits : ∀ c ∈ (toString n).toList, c.isDigit = true :=
    Text.forall_mem_toString (fun _ hc => hc) n
  apply piece_of_isFixed
  unfold isFixed
  cases hn : (toString n).toList with
  | nil => exact absurd (String.toList_eq_nil_iff.1 hn) Nat.repr_ne_empty
  | cons c cs =>
      rw [hn] at hdigits
      have hc := hdigits c List.mem_cons_self
      change (p.mayStart c && q.goesOn c cs) = true
      rw [hgoesOn hdigits]
      cases p <;> simp [Side.mayStart, hne hc]

/-- Nothing or a word may be put between fixed texts that may be neighbours. -/
theorem Piece?.enclose {a b s : String} (hs : S.Piece? .word .word s)
    (ha : isFixed p .gap a = true) (hb : isFixed .gap q b = true)
    (hab : isFixed p q (a ++ b) = true) : S.Piece p q (a ++ s ++ b) := by
  rcases hs with rfl | hs
  · rw [String.append_empty]
    exact piece_of_isFixed hab
  · exact ((piece_of_isFixed ha).append hs).append (piece_of_isFixed hb)

/-- A separator goes away with the text on one of its sides. -/
theorem Piece?.joinBeside {s t : String} (hs : S.Piece? .word .word s)
    (ht : S.Piece? .word .word t) :
    S.Piece? .word .word (Effect.joinBeside " " s t) := by
  unfold Effect.joinBeside
  split
  · exact ht
  · next hne =>
      split
      · exact hs
      · next hne' =>
          have hs := hs.resolve_left hne
          have ht := ht.resolve_left hne'
          exact Or.inr ((hs.append (piece_of_isFixed (q := .gap) rfl)).append ht)

/-- One text with something to say is enough. -/
theorem Piece.joinBeside {s t : String} (hs : S.Piece .word .word s)
    (ht : S.Piece? .word .word t) :
    S.Piece .word .word (Effect.joinBeside " " s t) := by
  unfold Effect.joinBeside
  split
  · next hempty => exact ht.piece (Or.inl (hs.empty hempty).1)
  · split
    · exact hs
    · next hne =>
        exact (hs.append (piece_of_isFixed (q := .gap) rfl)).append
          (ht.resolve_left hne)

theorem Piece?.joinBeside_piece {s t : String} (hs : S.Piece? .word .word s)
    (ht : S.Piece .word .word t) :
    S.Piece .word .word (Effect.joinBeside " " s t) := by
  unfold Effect.joinBeside
  split
  · exact ht
  · next hne =>
      split
      · next hempty => exact hs.piece (Or.inl (ht.empty hempty).1)
      · exact ((hs.resolve_left hne).append
          (piece_of_isFixed (q := .gap) rfl)).append ht

end Spacing

/-! ## Layouts -/

namespace Doc

/-- Whatever a layout is printed as, it satisfies a condition. -/
def Meets (settings : Settings) (P : String → Prop) (d : Doc) : Prop :=
  ∀ c s c', d.Writes settings c s c' → P s

variable (S : Spacing) (settings : Settings)

/-- Whatever a layout is printed as, it is a piece. -/
def Lays (p q : Side) : Doc → Prop :=
  Meets settings (S.Piece p q)

/-- Whatever a layout is printed as, it is a piece or nothing. -/
def Lays? (p q : Side) : Doc → Prop :=
  Meets settings (S.Piece? p q)

variable {S settings} {d e : Doc} {ds : List Doc} {p q r : Side}
  {P Q R : String → Prop}

theorem Meets.append (hd : d.Meets settings P) (he : e.Meets settings Q)
    (h : ∀ s t, P s → Q t → R (s ++ t)) : (d ++ e).Meets settings R := by
  intro c _ c' hwrites
  obtain ⟨s, _, t, hs, ht, rfl⟩ := writes_append_iff.1 hwrites
  exact h s t (hd _ _ _ hs) (he _ _ _ ht)

/-- A layout with a point at which printing has to stop is not printed at all. -/
theorem meets_of_not_shows (h : ¬d.Shows .stop → d.Meets settings P) :
    d.Meets settings P :=
  fun _ _ _ hwrites => h hwrites.not_shows_stop _ _ _ hwrites

/-- Layouts that have the same effect are printed as the same. -/
theorem Meets.of_effect_eq (h : d.effect settings = e.effect settings)
    (he : e.Meets settings P) : d.Meets settings P := by
  intro c s c' hwrites
  exact he c s c' (by rwa [Writes, ← h])

theorem Lays.lays? (h : d.Lays S settings p q) : d.Lays? S settings p q :=
  fun _ _ _ hwrites => (h _ _ _ hwrites).piece?

theorem Lays?.lays (h : d.Lays? S settings .word .word)
    (hne : d.Meets settings (· ≠ "")) : d.Lays S settings .word .word :=
  fun _ _ _ hwrites => (h _ _ _ hwrites).piece (Or.inr (hne _ _ _ hwrites))

theorem Lays.append (hd : d.Lays S settings p q)
    (he : e.Lays S settings q.other r) : (d ++ e).Lays S settings p r :=
  Meets.append hd he fun _ _ => Spacing.Piece.append

theorem Lays.append_lays? (hd : d.Lays S settings p q)
    (he : e.Lays? S settings q.other q) : (d ++ e).Lays S settings p q :=
  Meets.append hd he fun _ _ => Spacing.Piece.append_piece?

theorem Lays?.append_lays (hd : d.Lays? S settings p p.other)
    (he : e.Lays S settings p q) : (d ++ e).Lays S settings p q :=
  Meets.append hd he fun _ _ => Spacing.Piece?.append_piece

theorem Lays?.append (hd : d.Lays? S settings q.other q)
    (he : e.Lays? S settings q.other q) : (d ++ e).Lays? S settings q.other q :=
  Meets.append hd he fun _ _ => Spacing.Piece?.append

/-! ### Single pieces -/

theorem lays?_empty : empty.Lays? S settings p q := by
  intro c s c' h
  rw [(writes_empty_iff.1 h).1]
  exact Spacing.piece?_empty

theorem lays?_require {filled : Bool} {node field : String} :
    (require filled node field).Lays? S settings p q := by
  intro c s c' h
  rw [(writes_require_iff.1 h).2.1]
  exact Spacing.piece?_empty

theorem lays_text {t : String} (h : isFixed p q t = true) :
    (text t).Lays S settings p q := by
  intro c s c' hwrites
  rw [(writes_text_iff.1 hwrites).1]
  exact Spacing.piece_of_isFixed h

theorem lays?_textIf {condition : Bool} {t : String} (h : isFixed p q t = true) :
    (textIf condition t).Lays? S settings p q := by
  cases condition with
  | true => exact (lays_text h).lays?
  | false => exact lays?_empty

theorem lays_number {n : UInt64} : (number n).Lays S settings p q := by
  intro c s c' h
  rw [(writes_text_iff.1 h).1]
  exact Spacing.piece_toString n.toNat

theorem lays?_verbatim {t : String} (h : S.Piece? p q t) :
    (verbatim t).Lays? S settings p q := by
  intro c s c' hwrites
  rwa [(writes_verbatim_iff.1 hwrites).1]

theorem lays_verbatim {t : String} (h : S.Piece p q t) :
    (verbatim t).Lays S settings p q := by
  intro c s c' hwrites
  rwa [(writes_verbatim_iff.1 hwrites).1]

theorem lays_name {t : String} (h : S.Piece p q (Ident.quote settings t)) :
    (name t).Lays S settings p q := by
  intro c s c' hwrites
  rwa [(writes_name_iff.1 hwrites).1]

theorem lays_string {t : String} (h : S.Piece p q (Quoted.string t)) :
    (string t).Lays S settings p q := by
  intro c s c' hwrites
  rwa [(writes_string_iff.1 hwrites).1]

theorem lays_question : question.Lays S settings p q := by
  intro c s c' h
  rw [eq_of_writes_question h]
  cases p <;> cases q <;> exact Spacing.piece_of_isFixed rfl

theorem lays_placeholder : placeholder.Lays S settings p q := by
  intro c s c' h
  rcases eq_or_of_writes_placeholder h with rfl | ⟨n, rfl⟩
  · cases p <;> cases q <;> exact Spacing.piece_of_isFixed rfl
  · have hdollar : S.Piece p .gap "$" := by
      cases p <;> exact Spacing.piece_of_isFixed rfl
    exact hdollar.append (Spacing.piece_toString n)

theorem Lays.isolated (h : d.Lays S settings p q) :
    (isolated d).Lays S settings p q :=
  fun _ _ _ hwrites => h _ _ _ (writes_isolated_iff.1 hwrites)

/-! ### Several pieces -/

/-- Nothing or a word is put between fixed texts. -/
theorem Lays?.enclose {a b : String} (hd : d.Lays? S settings .word .word)
    (ha : isFixed p .gap a = true) (hb : isFixed .gap q b = true)
    (hab : isFixed p q (a ++ b) = true) :
    (text a ++ d ++ text b).Lays S settings p q := by
  intro c _ c' h
  obtain ⟨_, _, _, hlead, hb', rfl⟩ := writes_append_iff.1 h
  obtain ⟨rfl, -⟩ := writes_text_iff.1 hb'
  obtain ⟨s, hs, rfl⟩ := writes_text_append_iff.1 hlead
  exact (hd _ _ _ hs).enclose ha hb hab

theorem Lays?.parens (hd : d.Lays? S settings .word .word) :
    d.parens.Lays S settings p .word := by
  cases p <;> exact hd.enclose rfl rfl rfl

/-- Fragments make a word, as empty ones leave no space. -/
theorem lays?_fragments (h : ∀ d ∈ ds, d.Lays? S settings .word .word) :
    (fragments " " ds).Lays? S settings .word .word := by
  induction ds with
  | nil => exact lays?_empty
  | cons d ds ih =>
      obtain ⟨hd, hds⟩ := List.forall_mem_cons.1 h
      intro c _ c' hwrites
      obtain ⟨s, _, t, hs, ht, rfl⟩ := writes_beside_iff.1 hwrites
      exact (hd _ _ _ hs).joinBeside (ih hds _ _ _ ht)

/-- One piece that is no optional one is enough. -/
theorem lays_fragments (h : ∀ d ∈ ds, d.Lays? S settings .word .word)
    (hsome : ∃ d ∈ ds, d.Lays S settings .word .word) :
    (fragments " " ds).Lays S settings .word .word := by
  induction ds with
  | nil => exact absurd hsome (by simp)
  | cons d ds ih =>
      obtain ⟨hd, hds⟩ := List.forall_mem_cons.1 h
      intro c _ c' hwrites
      obtain ⟨s, _, t, hs, ht, rfl⟩ := writes_beside_iff.1 hwrites
      obtain ⟨e, he, hlays⟩ := hsome
      rcases List.mem_cons.1 he with rfl | he
      · exact (hlays _ _ _ hs).joinBeside (lays?_fragments hds _ _ _ ht)
      · exact (hd _ _ _ hs).joinBeside_piece (ih hds ⟨e, he, hlays⟩ _ _ _ ht)

theorem lays?_concat (h : ∀ d ∈ ds, d.Lays? S settings q.other q) :
    (concat ds).Lays? S settings q.other q := by
  induction ds with
  | nil => exact lays?_empty
  | cons d ds ih =>
      obtain ⟨hd, hds⟩ := List.forall_mem_cons.1 h
      exact hd.append (ih hds)

/-- Words with gaps between them make a word. -/
theorem lays_joined {separator : Doc}
    (hseparator : separator.Lays S settings .gap .gap)
    (h : ∀ d ∈ ds, d.Lays S settings .word .word) (hne : ds ≠ []) :
    (joined separator ds).Lays S settings .word .word := by
  obtain ⟨d, ds, rfl⟩ := List.exists_cons_of_ne_nil hne
  obtain ⟨hd, hds⟩ := List.forall_mem_cons.1 h
  refine hd.append_lays? (lays?_concat fun e he => ?_)
  obtain ⟨d', hd', rfl⟩ := List.mem_map.1 he
  exact (hseparator.append (hds d' hd')).lays?

theorem lays?_joined {separator : Doc}
    (hseparator : separator.Lays S settings .gap .gap)
    (h : ∀ d ∈ ds, d.Lays S settings .word .word) :
    (joined separator ds).Lays? S settings .word .word := by
  by_cases hne : ds = []
  · rw [hne]
    exact lays?_empty
  · exact (lays_joined hseparator h hne).lays?

theorem lays_commas (h : ∀ d ∈ ds, d.Lays S settings .word .word) (hne : ds ≠ []) :
    (commas ds).Lays S settings .word .word :=
  lays_joined (lays_text rfl) h hne

theorem lays?_commas (h : ∀ d ∈ ds, d.Lays S settings .word .word) :
    (commas ds).Lays? S settings .word .word :=
  lays?_joined (lays_text rfl) h

theorem lays?_optional {o : Option Doc} (h : ∀ d ∈ o, d.Lays? S settings p q) :
    (optional o).Lays? S settings p q := by
  cases o with
  | none => exact lays?_empty
  | some d => exact h d rfl

theorem lays?_clause {lead : String} {o : Option Doc}
    (hlead : isFixed p .gap lead = true) (h : ∀ d ∈ o, d.Lays S settings .word q) :
    (clause lead o).Lays? S settings p q := by
  cases o with
  | none => exact lays?_empty
  | some d => exact ((lays_text hlead).append (h d rfl)).lays?

/-- A part that is written twice makes a word with what leads it and what stands
between. -/
theorem lays_twice {lead between : String} {error : Error}
    (hlead : isFixed .word .gap lead = true)
    (hbetween : isFixed .gap .gap between = true)
    (hd : d.Lays S settings .word .word) :
    (twice lead between d error).Lays S settings .word .word := by
  intro c _ c' h
  obtain ⟨s, _, hs, rfl⟩ := exists_of_writes_twice h
  have hpiece := hd _ _ _ hs
  exact (((Spacing.piece_of_isFixed hlead).append hpiece).append
    (Spacing.piece_of_isFixed hbetween)).append hpiece

end Doc

end SqlPrinter
