/-
Layouts that are printed without a fault.  What a layout writes is told from what
its parts write, one after the other; each part goes on from the counters that the
part before it has left.
-/
import SqlPrinter.Proofs.Effect
import SqlPrinter.Proofs.Session
import SqlPrinter.Proofs.Sight

namespace SqlPrinter

/-- From the counters `c` a layout is printed as `s`, and it leaves the
counters `c'`. -/
def Doc.Writes (settings : Settings) (d : Doc) (c : Counters) (s : String)
    (c' : Counters) : Prop :=
  d.effect settings c = ⟨.ok s, c'⟩

/-- Each thing in a list writes a text and goes on from the counters that the one
before it has left. -/
inductive InTurn {α : Type} (writes : α → Counters → String → Counters → Prop) :
    List α → Counters → List String → Counters → Prop where
  | nil (c : Counters) : InTurn writes [] c [] c
  | cons {a : α} {as : List α} {c c' c'' : Counters} {s : String} {ss : List String}
      (first : writes a c s c') (rest : InTurn writes as c' ss c'') :
      InTurn writes (a :: as) c (s :: ss) c''

namespace InTurn

variable {α β : Type} {writes : α → Counters → String → Counters → Prop}
  {as : List α} {c c' : Counters} {ss : List String}

/-- What is written in turn is written in turn by whatever writes no less. -/
theorem imp {writes' : β → Counters → String → Counters → Prop} {f : α → β}
    (hwrites : ∀ a c s c', writes' (f a) c s c' → writes a c s c')
    (h : InTurn writes' (as.map f) c ss c') : InTurn writes as c ss c' := by
  induction as generalizing c ss with
  | nil =>
      cases h
      exact .nil _
  | cons a as ih =>
      cases h with
      | cons first rest => exact .cons (hwrites _ _ _ _ first) (ih rest)

end InTurn

/-- Two texts are combined if both are there. -/
theorem Effect.combine_eq_ok_iff {first : Effect} {second : Counters → Effect}
    {join : String → String → String} {c c' : Counters} {s : String} :
    combine first second join c = ⟨.ok s, c'⟩ ↔ ∃ t middle u,
      first c = ⟨.ok t, middle⟩ ∧ second c middle = ⟨.ok u, c'⟩ ∧ s = join t u := by
  unfold combine
  rcases hfirst : first c with ⟨_ | t, middle⟩
  · simp
  · rcases hsecond : second c middle with ⟨_ | u, last⟩
    · simp [hsecond, Except.map]
    · constructor
      · intro h
        obtain ⟨hjoin, hlast⟩ : join t u = s ∧ last = c' := by
          simpa [Except.map] using h
        exact ⟨t, middle, u, rfl, by rw [hsecond, hlast], hjoin.symm⟩
      · rintro ⟨_, _, _, h, h', rfl⟩
        cases h
        rw [hsecond] at h'
        cases h'
        simp [Except.map]

namespace Doc

variable {settings : Settings} {d e : Doc} {c c' : Counters} {s t : String}

/-- A layout is printed if a fresh writer writes it. -/
theorem print_eq_ok_iff :
    d.print settings = .ok s ↔ ∃ c', d.Writes settings .start s c' := by
  rw [print_eq]
  constructor
  · intro h
    exact ⟨(d.effect settings .start).counters, congrArg (Outcome.mk · _) h⟩
  · rintro ⟨c', h⟩
    rw [h]

/-- A layout without parameters leaves the counters where they are. -/
theorem Writes.counters_eq (h : d.Writes settings c s c')
    (hcount : ∀ t, d.count t = 0) : c' = c := by
  have hcounters : (d.run settings.placeholders c).counters = c' :=
    congrArg Outcome.counters h
  rw [← hcounters, counters_run settings.placeholders hcount c]

/-- What a layout writes is the text of what its run leaves. -/
theorem Writes.run (h : d.Writes settings c s c') :
    (d.run settings.placeholders c).failure = none ∧
      Piece.textOf settings (d.run settings.placeholders c).pieces = s := by
  have hanswer :
      ((d.run settings.placeholders c).outcome settings).answer = .ok s :=
    congrArg Outcome.answer h
  unfold Run.outcome Run.answer at hanswer
  cases hfailure : (d.run settings.placeholders c).failure with
  | none =>
      rw [hfailure] at hanswer
      exact ⟨rfl, Except.ok.inj hanswer⟩
  | some error =>
      rw [hfailure] at hanswer
      contradiction

/-- A layout that is printed has no point at which printing has to stop. -/
theorem Writes.not_shows_stop (h : d.Writes settings c s c') : ¬d.Shows .stop :=
  Doc.not_shows_stop h.run.1

/-! ## Constructors -/

/-- A layout that is always printed as the same text. -/
theorem writes_iff_of_effect (hd : d.effect settings = .text t) :
    d.Writes settings c s c' ↔ s = t ∧ c' = c := by
  simp [Writes, hd, Effect.text, eq_comm]

theorem writes_text_iff : (text t).Writes settings c s c' ↔ s = t ∧ c' = c :=
  writes_iff_of_effect (effect_text settings t)

theorem writes_empty_iff : empty.Writes settings c s c' ↔ s = "" ∧ c' = c :=
  writes_iff_of_effect (effect_empty settings)

theorem writes_name_iff :
    (name t).Writes settings c s c' ↔ s = Ident.quote settings t ∧ c' = c :=
  writes_iff_of_effect <| effect_of_run settings fun _ => by
    simp [run, Run.outcome, Run.answer, Piece.textOf, Piece.toText, Effect.text]

/-- A verbatim text is written as it stands. -/
theorem writes_verbatim_iff : (verbatim t).Writes settings c s c' ↔
    s = t ∧ c' = c :=
  writes_iff_of_effect (effect_verbatim settings t)

theorem writes_string_iff :
    (string t).Writes settings c s c' ↔ s = Quoted.string t ∧ c' = c :=
  writes_iff_of_effect <| effect_of_run settings fun _ => by
    simp [run, Run.outcome, Run.answer, Piece.textOf, Piece.toText, Effect.text]

theorem eq_of_writes_question (h : question.Writes settings c s c') : s = "?" := by
  rw [← h.run.2]
  simp [Doc.run, Counters.placeholder, Piece.textOf, Piece.toText]

/-- A bound parameter is a question mark, or a dollar sign and a number. -/
theorem eq_or_of_writes_placeholder (h : placeholder.Writes settings c s c') :
    s = "?" ∨ ∃ n : Nat, s = "$" ++ toString n := by
  rw [← h.run.2, Doc.run]
  cases settings.placeholders with
  | numbered =>
      right
      exact ⟨c.next.toNat, by simp [Counters.placeholder, Piece.textOf,
        Piece.toText]⟩
  | question => simp [Counters.placeholder, Piece.textOf, Piece.toText]

theorem not_writes_fail {error : Error} :
    ¬ (fail error).Writes settings c s c' := by
  intro h
  have hanswer : Except.error error = .ok s := congrArg Outcome.answer h
  contradiction

/-- Two layouts are written one after the other, the second from the counters that
the first leaves. -/
theorem writes_append_iff :
    (d ++ e).Writes settings c s c' ↔ ∃ first middle second,
      d.Writes settings c first middle ∧ e.Writes settings middle second c' ∧
        s = first ++ second := by
  unfold Writes
  rw [effect_append]
  change Effect.append _ _ c = _ ↔ _
  exact Effect.combine_eq_ok_iff

/-- The separator is written between two texts if neither is empty. -/
theorem writes_beside_iff {separator : String} :
    (beside separator d e).Writes settings c s c' ↔ ∃ first middle second,
      d.Writes settings c first middle ∧ e.Writes settings middle second c' ∧
        s = Effect.joinBeside separator first second := by
  unfold Writes
  rw [effect_beside]
  exact Effect.combine_eq_ok_iff

/-- An isolated layout is written as the layout itself is. -/
theorem writes_isolated_iff : (isolated d).Writes settings c s c' ↔
    d.Writes settings c s c' := by
  rw [Writes, effect_isolated]
  rfl

/-- What is printed twice is the same text in both places. -/
theorem exists_of_writes_twice {lead between : String} {error : Error}
    (h : (twice lead between d error).Writes settings c s c') :
    ∃ part middle, d.Writes settings c part middle ∧
      s = lead ++ part ++ between ++ part := by
  rw [Writes, effect_twice] at h
  obtain ⟨part, middle, _, hpart, -, rfl⟩ := Effect.combine_eq_ok_iff.1 h
  exact ⟨part, middle, hpart, rfl⟩

theorem writes_text_append_iff :
    (text t ++ d).Writes settings c s c' ↔ ∃ u, d.Writes settings c u c' ∧
      s = t ++ u := by
  rw [writes_append_iff]
  constructor
  · rintro ⟨_, _, u, htext, hd, rfl⟩
    obtain ⟨rfl, rfl⟩ := writes_text_iff.1 htext
    exact ⟨u, hd, rfl⟩
  · rintro ⟨u, hd, rfl⟩
    exact ⟨t, c, u, writes_text_iff.2 ⟨rfl, rfl⟩, hd, rfl⟩

/-- A layout that always writes the same text comes last. -/
theorem writes_append_iff_of_effect (he : e.effect settings = .text t) :
    (d ++ e).Writes settings c s c' ↔ ∃ u, d.Writes settings c u c' ∧
      s = u ++ t := by
  rw [writes_append_iff]
  constructor
  · rintro ⟨u, _, _, hd, hlast, rfl⟩
    obtain ⟨rfl, rfl⟩ := (writes_iff_of_effect he).1 hlast
    exact ⟨u, hd, rfl⟩
  · rintro ⟨u, hd, rfl⟩
    exact ⟨u, c', t, hd, (writes_iff_of_effect he).2 ⟨rfl, rfl⟩, rfl⟩

theorem writes_parens_iff :
    (parens d).Writes settings c s c' ↔ ∃ u, d.Writes settings c u c' ∧
      s = "(" ++ u ++ ")" := by
  unfold parens
  rw [writes_append_iff]
  constructor
  · rintro ⟨_, _, _, hopen, hclose, rfl⟩
    obtain ⟨u, hd, rfl⟩ := writes_text_append_iff.1 hopen
    obtain ⟨rfl, rfl⟩ := writes_text_iff.1 hclose
    exact ⟨u, hd, rfl⟩
  · rintro ⟨u, hd, rfl⟩
    exact ⟨"(" ++ u, c', ")", writes_text_append_iff.2 ⟨u, hd, rfl⟩,
      writes_text_iff.2 ⟨rfl, rfl⟩, rfl⟩

/-! ## Conditions -/

/-- A check writes nothing, and only where it is met. -/
theorem writes_require_iff {filled : Bool} {node field : String} :
    (require filled node field).Writes settings c s c' ↔ filled = true ∧ s = "" ∧
      c' = c := by
  cases filled <;> simp [require, writes_empty_iff, not_writes_fail]

theorem writes_requireText_append_iff {node field : String} :
    (requireText t node field ++ d).Writes settings c s c' ↔
      t ≠ "" ∧ d.Writes settings c s c' := by
  rw [writes_append_iff]
  constructor
  · rintro ⟨_, _, u, hrequire, hd, rfl⟩
    obtain ⟨ht, rfl, rfl⟩ := writes_require_iff.1 hrequire
    exact ⟨of_decide_eq_true ht, by rwa [String.empty_append]⟩
  · rintro ⟨ht, hd⟩
    exact ⟨"", c, s, writes_require_iff.2 ⟨decide_eq_true ht, rfl, rfl⟩, hd,
      String.empty_append.symm⟩

/-- A check may be put in front of all that is written. -/
theorem writes_append_requireText_append_iff {node field : String} :
    (d ++ (requireText t node field ++ e)).Writes settings c s c' ↔
      t ≠ "" ∧ (d ++ e).Writes settings c s c' := by
  rw [writes_append_iff, writes_append_iff]
  constructor
  · rintro ⟨first, middle, second, hd, he, rfl⟩
    obtain ⟨ht, he⟩ := writes_requireText_append_iff.1 he
    exact ⟨ht, first, middle, second, hd, he, rfl⟩
  · rintro ⟨ht, first, middle, second, hd, he, rfl⟩
    exact ⟨first, middle, second, hd, writes_requireText_append_iff.2 ⟨ht, he⟩, rfl⟩

theorem writes_textIf_iff {condition : Bool} :
    (textIf condition t).Writes settings c s c' ↔
      s = (if condition then t else "") ∧ c' = c := by
  cases condition <;> simp [textIf, writes_empty_iff, writes_text_iff]

/-! ## Lists -/

theorem intercalate_cons_eq (separator s : String) (ss : List String) :
    separator.intercalate (s :: ss) =
      s ++ String.join (ss.map (separator ++ ·)) := by
  induction ss generalizing s with
  | nil => simp
  | cons t ss ih =>
      rw [String.intercalate_cons_cons, ih, List.map_cons, String.join_cons,
        String.append_assoc, String.append_assoc]

/-- Layouts with a separator before each are written in turn. -/
theorem exists_inTurn_of_writes_concat {separator : String} {ds : List Doc}
    (h : (concat (ds.map (text separator ++ ·))).Writes settings c s c') :
    ∃ ss, InTurn (Writes settings) ds c ss c' ∧
      s = String.join (ss.map (separator ++ ·)) := by
  induction ds generalizing c s with
  | nil =>
      obtain ⟨rfl, rfl⟩ := writes_empty_iff.1 h
      exact ⟨[], .nil c', rfl⟩
  | cons d ds ih =>
      obtain ⟨_, middle, others, hfirst, hds, rfl⟩ := writes_append_iff.1 h
      obtain ⟨first, hd, rfl⟩ := writes_text_append_iff.1 hfirst
      obtain ⟨ss, hss, rfl⟩ := ih hds
      exact ⟨first :: ss, .cons hd hss, by simp⟩

/-- The elements of a list write their texts in turn, with a separator between
neighbours. -/
theorem exists_inTurn_of_writes_sepBy {separator : String} {ds : List Doc}
    (h : (sepBy separator ds).Writes settings c s c') :
    ∃ ss, InTurn (Writes settings) ds c ss c' ∧ s = separator.intercalate ss := by
  cases ds with
  | nil =>
      obtain ⟨rfl, rfl⟩ := writes_empty_iff.1 h
      exact ⟨[], .nil c', rfl⟩
  | cons d ds =>
      obtain ⟨first, middle, others, hd, hds, rfl⟩ := writes_append_iff.1 h
      obtain ⟨ss, hss, rfl⟩ := exists_inTurn_of_writes_concat hds
      exact ⟨first :: ss, .cons hd hss,
        (intercalate_cons_eq separator first ss).symm⟩

/-! ## Identifiers -/

/-- Names in turn are quoted one by one and move no counter. -/
theorem quotes_of_inTurn {ns ss : List String}
    (h : InTurn (Writes settings) (ns.map name) c ss c') :
    ss = ns.map (Ident.quote settings) ∧ c' = c := by
  induction ns generalizing ss with
  | nil =>
      cases h
      exact ⟨rfl, rfl⟩
  | cons n ns ih =>
      cases h with
      | cons first rest =>
          obtain ⟨rfl, rfl⟩ := writes_name_iff.1 first
          obtain ⟨rfl, rfl⟩ := ih rest
          exact ⟨rfl, rfl⟩

/-- A path is written as its quoted parts with dots between them. -/
theorem eq_of_writes_path {parts : List String}
    (h : (path parts).Writes settings c s c') :
    s = Ident.quotePath settings parts ∧ c' = c := by
  obtain ⟨ss, hss, rfl⟩ := exists_inTurn_of_writes_sepBy h
  obtain ⟨rfl, rfl⟩ := quotes_of_inTurn hss
  exact ⟨rfl, rfl⟩

theorem writes_of_requireText_append {node field : String}
    (h : (requireText t node field ++ d).Writes settings c s c') :
    d.Writes settings c s c' :=
  (writes_requireText_append_iff.1 h).2

/-- A list of names is written with commas between them. -/
theorem eq_of_writes_names {node field : String} {ns : List String}
    (h : (names node field ns).Writes settings c s c') :
    s = ", ".intercalate (ns.map (Ident.quote settings)) ∧ c' = c := by
  have hothers {rest : List String} {u : String} {before after : Counters}
      (h : (concat (rest.map fun n => requireText n node field ++ text ", " ++
        name n)).Writes
        settings before u after) :
      u = String.join ((rest.map (Ident.quote settings)).map (", " ++ ·)) ∧
        after = before := by
    induction rest generalizing before u with
    | nil => exact writes_empty_iff.1 h
    | cons n rest ih =>
        obtain ⟨_, _, others, hfirst, hrest, rfl⟩ := writes_append_iff.1 h
        obtain ⟨_, _, _, hcomma, hn, rfl⟩ := writes_append_iff.1 hfirst
        obtain ⟨rfl, rfl⟩ := writes_text_iff.1 (writes_of_requireText_append hcomma)
        obtain ⟨rfl, rfl⟩ := writes_name_iff.1 hn
        obtain ⟨rfl, rfl⟩ := ih hrest
        exact ⟨by simp, rfl⟩
  cases ns with
  | nil => exact writes_empty_iff.1 h
  | cons n ns =>
      obtain ⟨_, _, _, hn, hrest, rfl⟩ := writes_append_iff.1 h
      obtain ⟨rfl, rfl⟩ := writes_name_iff.1 (writes_of_requireText_append hn)
      obtain ⟨rfl, rfl⟩ := hothers hrest
      exact ⟨(intercalate_cons_eq _ _ _).symm, rfl⟩

end Doc

/-- A statement that is rendered has been laid out and printed from the start. -/
theorem Statement.writes_of_render {settings : Settings} {s : Statement}
    {text : String} (h : s.render settings = .ok text) :
    ∃ c, (s.doc settings).Writes settings .start text c := by
  unfold render at h
  split at h
  · contradiction
  · exact Doc.print_eq_ok_iff.1 h

end SqlPrinter
