/-
Texts in which the numbers of the bound parameters are left open.  A layout with
a pattern has one template: whatever numbers its parameters get, and whether
they get them when they are printed or stand in the statement, the text is the
template with these numbers filled in.
-/
import SqlPrinter.Proofs.Filling.Same
import SqlPrinter.Proofs.Pattern
import SqlPrinter.Proofs.Run

namespace SqlPrinter

/-! ## Slots -/

/-- A part of a text: a piece of it, or the number of the parameter at a site. -/
inductive Slot where
  | piece (p : Piece)
  | number (b : Site)

namespace Slot

/-- A slot that prints nothing. -/
def isEmpty : Slot → Bool
  | piece p => p.isEmpty
  | number _ => false

/-- The text of a slot, given the numbers. -/
def toText (settings : Settings) (numbers : Site → UInt64) : Slot → String
  | piece p => p.toText settings
  | number b => "$" ++ toString (numbers b).toNat

/-- The text of slots. -/
def textOf (settings : Settings) (numbers : Site → UInt64) (slots : List Slot) :
    String :=
  String.join (slots.map (toText settings numbers))

/-- The site of the parameter in a slot. -/
def site? : Slot → Option Site
  | piece _ => none
  | number b => some b

/-- The sites of the parameters in a text, from left to right. -/
def sites (slots : List Slot) : List Site :=
  slots.filterMap site?

@[simp] theorem sites_append (slots slots' : List Slot) :
    sites (slots ++ slots') = sites slots ++ sites slots' := by
  simp [sites]

@[simp] theorem sites_nil : sites [] = [] := rfl

@[simp] theorem sites_piece_cons (p : Piece) (slots : List Slot) :
    sites (.piece p :: slots) = sites slots := rfl

/-- Slots without a text have no site. -/
theorem sites_eq_nil {slots : List Slot} (h : slots.all isEmpty = true) :
    sites slots = [] := by
  induction slots with
  | nil => rfl
  | cons slot slots ih =>
      rw [List.all_cons, Bool.and_eq_true] at h
      cases slot with
      | piece p => exact ih h.2
      | number b => exact absurd h.1 Bool.false_ne_true

end Slot

/-! ## Numbers -/

/-- The sites of a list get numbers one by one, either the next number in turn
or the one that stands in the statement. -/
inductive Numbered (binds : Site → Parameter) (numbers : Site → UInt64) :
    List Site → UInt64 → UInt64 → Prop where
  | nil (n : UInt64) : Numbered binds numbers [] n n
  | bind {b : Site} {l : List Site} {n m : UInt64} (hbind : binds b = .bind)
      (hnumber : numbers b = n) (hl : Numbered binds numbers l (n + 1) m) :
      Numbered binds numbers (b :: l) n m
  | dollar {b : Site} {l : List Site} {n m : UInt64}
      (hbind : binds b = .dollar (numbers b))
      (hl : Numbered binds numbers l n m) : Numbered binds numbers (b :: l) n m

/-- The number of a site if the sites of a list are numbered from a number on. -/
def Site.number (n : UInt64) (l : List Site) (b : Site) : UInt64 :=
  n + UInt64.ofNat (l.idxOf b)

namespace Numbered

variable {binds : Site → Parameter} {numbers : Site → UInt64} {l l' : List Site}
  {n m : UInt64}

/-- A numbering of two lists of sites is one of the first, then one of the
second. -/
theorem split (h : Numbered binds numbers (l ++ l') n m) :
    ∃ k, Numbered binds numbers l n k ∧ Numbered binds numbers l' k m := by
  induction l generalizing n with
  | nil => exact ⟨n, .nil n, h⟩
  | cons b l ih =>
      cases h with
      | bind hbind hnumber hl =>
          obtain ⟨k, hfirst, hsecond⟩ := ih hl
          exact ⟨k, .bind hbind hnumber hfirst, hsecond⟩
      | dollar hbind hl =>
          obtain ⟨k, hfirst, hsecond⟩ := ih hl
          exact ⟨k, .dollar hbind hfirst, hsecond⟩

/-- Numbers that stand in the statement use up none. -/
theorem of_dollars (h : ∀ b ∈ l, binds b = .dollar (numbers b)) (n : UInt64) :
    Numbered binds numbers l n n := by
  induction l with
  | nil => exact .nil n
  | cons b l ih =>
      have hrest := ih fun c hc => h c (List.mem_cons_of_mem b hc)
      exact .dollar (h b List.mem_cons_self) hrest

/-- Numbers that grow by one from site to site are a numbering. -/
theorem of_getElem (h : ∀ i (hi : i < l.length), numbers l[i] = n + UInt64.ofNat i)
    (hbinds : ∀ b ∈ l, binds b = .bind) :
    Numbered binds numbers l n (n + UInt64.ofNat l.length) := by
  induction l generalizing n with
  | nil =>
      have hzero : n + UInt64.ofNat ([] : List Site).length = n := by simp
      rw [hzero]
      exact .nil n
  | cons b l ih =>
      have hfirst : numbers b = n + UInt64.ofNat 0 := h 0 (Nat.succ_pos _)
      have hzero : n + UInt64.ofNat 0 = n := by simp
      have hshift (i : Nat) :
          n + UInt64.ofNat (i + 1) = n + 1 + UInt64.ofNat i := by
        rw [UInt64.ofNat_add, UInt64.add_assoc, UInt64.add_comm 1]
        rfl
      have hrest := ih (n := n + 1) (fun i hi => by
        rw [← hshift]
        exact h (i + 1) (Nat.succ_lt_succ hi)) fun c hc =>
          hbinds c (List.mem_cons_of_mem b hc)
      rw [List.length_cons, hshift]
      exact .bind (hbinds b List.mem_cons_self) (hfirst.trans hzero) hrest

/-- Bound parameters get the numbers in turn. -/
theorem of_binds (hl : l.Nodup) (n : UInt64) :
    Numbered (fun _ => .bind) (Site.number n l) l n
      (n + UInt64.ofNat l.length) := by
  apply of_getElem
  · intro i hi
    rw [Site.number, hl.idxOf_getElem]
  · exact fun _ _ => rfl

end Numbered

/-! ## Pieces and slots -/

/-- The pieces print what the slots do. -/
structure Slot.Printed (settings : Settings) (numbers : Site → UInt64)
    (slots : List Slot) (ps : List Piece) : Prop where
  isEmpty : ps.all Piece.isEmpty = slots.all isEmpty
  text : Piece.textOf settings ps = textOf settings numbers slots

/-- Two lists of slots with a separator between them, or just one of them if the
other prints nothing. -/
def Slot.joinBeside (separator : String) (first second : List Slot) : List Slot :=
  if first.all isEmpty then second
  else if second.all isEmpty then first
  else first ++ .piece (.text separator) :: second

/-- A separator has no site. -/
theorem Slot.sites_joinBeside (separator : String) (first second : List Slot) :
    sites (joinBeside separator first second) = sites first ++ sites second := by
  unfold joinBeside
  split
  · next hfirst => simp [sites_eq_nil hfirst]
  · split
    · next hsecond => simp [sites_eq_nil hsecond]
    · simp

namespace Slot.Printed

variable {settings : Settings} {numbers : Site → UInt64} {slots slots' : List Slot}
  {ps ps' : List Piece}

theorem nil : Printed settings numbers [] [] :=
  ⟨rfl, rfl⟩

theorem piece (p : Piece) : Printed settings numbers [.piece p] [p] :=
  ⟨rfl, rfl⟩

/-- Slots are printed one after the other. -/
theorem append (h : Printed settings numbers slots ps)
    (h' : Printed settings numbers slots' ps') :
    Printed settings numbers (slots ++ slots') (ps ++ ps') := by
  constructor
  · rw [List.all_append, List.all_append, h.isEmpty, h'.isEmpty]
  · have htext := h.text
    have htext' := h'.text
    simp only [Piece.textOf, textOf] at htext htext'
    simp [Piece.textOf, textOf, htext, htext']

/-- A separator stands between the slots where it stands between what is printed of
them. -/
theorem joinBeside (separator : String) (h : Printed settings numbers slots ps)
    (h' : Printed settings numbers slots' ps') :
    Printed settings numbers (Slot.joinBeside separator slots slots')
      (Piece.joinBeside separator ps ps') := by
  unfold Piece.joinBeside Slot.joinBeside
  rw [h.isEmpty, h'.isEmpty]
  split
  · exact h'
  · split
    · exact h
    · exact h.append ((piece (.text separator)).append h')

end Slot.Printed

/-! ## Runs -/

section Failure

variable {r : Run} {next : Counters → Run} {join : List Piece → List Piece →
  List Piece}

theorem Run.failure_isolated : r.isolated.failure = r.failure := by
  unfold isolated
  split <;> rfl

/-- A run that goes on to the end has failed in neither half. -/
theorem Run.failure_andThen (h : (r.andThen next).failure = none) :
    r.failure = none ∧ (next r.counters).failure = none := by
  unfold andThen at h
  cases hfirst : r.failure with
  | some e => simp [hfirst] at h
  | none =>
      rw [hfirst] at h
      exact ⟨rfl, h⟩

/-- A run of two parts that does not fail has failed in neither. -/
theorem Run.failure_combine (h : (r.combine next join).failure = none) :
    r.failure = none ∧ (next r.counters).failure = none := by
  unfold combine at h
  cases hfirst : r.failure with
  | some e => simp [hfirst] at h
  | none =>
      cases hsecond : (next r.counters).failure with
      | some e => simp [hfirst, hsecond] at h
      | none => exact ⟨rfl, rfl⟩

end Failure

/-- A run ends well with some counters and prints what the slots do. -/
structure Run.Prints (settings : Settings) (numbers : Site → UInt64)
    (slots : List Slot) (c : Counters) (r : Run) : Prop where
  failure : r.failure = none
  counters : r.counters = c
  pieces : Slot.Printed settings numbers slots r.pieces

namespace Run.Prints

variable {settings : Settings} {numbers : Site → UInt64} {slots slots' : List Slot}
  {c c' : Counters} {r : Run} {next : Counters → Run}

/-- A run prints its slots and hands the counters on to the next one. -/
theorem andThen (h : r.Prints settings numbers slots c)
    (hnext : (next c).Prints settings numbers slots' c') :
    (r.andThen next).Prints settings numbers (slots ++ slots') c' := by
  unfold Run.andThen
  rw [h.failure, h.counters]
  exact ⟨hnext.failure, hnext.counters, h.pieces.append hnext.pieces⟩

theorem isolated (h : r.Prints settings numbers slots c) :
    r.isolated.Prints settings numbers slots c := by
  unfold Run.isolated
  rw [h.failure]
  exact h

/-- What two runs print is joined as their slots are. -/
theorem combine {slots'' : List Slot} {join : List Piece → List Piece → List Piece}
    (h : r.Prints settings numbers slots c)
    (hnext : (next c).Prints settings numbers slots' c')
    (hjoin : Slot.Printed settings numbers slots'' (join r.pieces
      (next c).pieces)) :
    (r.combine next join).Prints settings numbers slots'' c' := by
  unfold Run.combine
  rw [h.failure, h.counters]
  dsimp only
  rw [hnext.failure]
  exact ⟨rfl, hnext.counters, hjoin⟩

end Run.Prints

/-! ## Templates -/

/-- The slots print a layout whatever the numbers of its parameters are.  They
show the sites of a list, each for the first time in the order of the list, and
only those in an emulated sort key more than once. -/
structure Template (settings : Settings) (l : List Site) (F : Filling → Doc)
    (slots : List Slot) (questions : Nat) : Prop where
  sites : (Slot.sites slots).eraseDups = l
  once : ∀ b, 1 < (Slot.sites slots).count b → settings.nullsByKey = true ∧
    Step.nullsKey ∈ b
  run : ∀ {binds numbers c m}, Numbered binds numbers l c.next m →
    ((F (.binds binds)).run .numbered c).Prints settings numbers slots
      ⟨m, c.positional + questions⟩

namespace Template

variable {settings : Settings} {l l' : List Site} {F G : Filling → Doc}
  {slots slots' : List Slot} {k k' : Nat}

/-- The sites of a template are those of its pattern. -/
theorem mem_sites (h : Template settings l F slots k) {b : Site} :
    b ∈ Slot.sites slots ↔ b ∈ l := by
  rw [← h.sites, List.mem_eraseDups]

/-- Templates of layouts with different parameters go together. -/
theorem sites_both (h : Template settings l F slots k)
    (h' : Template settings l' G slots' k') (hl : (l ++ l').Nodup) :
    (Slot.sites slots ++ Slot.sites slots').eraseDups = l ++ l' := by
  obtain ⟨-, -, hdisjoint⟩ := List.nodup_append.1 hl
  have hremove : (Slot.sites slots').removeAll (Slot.sites slots) =
      Slot.sites slots' := by
    refine List.filter_eq_self.2 fun b hb => ?_
    have hnot : b ∉ Slot.sites slots := fun hmem =>
      hdisjoint b (h.mem_sites.1 hmem) b (h'.mem_sites.1 hb) rfl
    simpa using hnot
  rw [List.eraseDups_append, hremove, h.sites, h'.sites]

/-- Only a sort key that is spelled out for null values is printed twice. -/
theorem once_both (h : Template settings l F slots k)
    (h' : Template settings l' G slots' k') (hl : (l ++ l').Nodup) (b : Site)
    (hb : 1 < (Slot.sites slots ++ Slot.sites slots').count b) :
    settings.nullsByKey = true ∧ Step.nullsKey ∈ b := by
  obtain ⟨-, -, hdisjoint⟩ := List.nodup_append.1 hl
  rw [List.count_append] at hb
  by_cases hmem : b ∈ Slot.sites slots
  · have hzero : (Slot.sites slots').count b = 0 := by
      refine List.count_eq_zero.2 fun hb' => ?_
      exact hdisjoint b (h.mem_sites.1 hmem) b (h'.mem_sites.1 hb') rfl
    exact h.once b (by omega)
  · have hzero : (Slot.sites slots).count b = 0 := List.count_eq_zero.2 hmem
    exact h'.once b (by omega)

/-- A layout without parameters that are numbered. -/
theorem of_no_sites (hsites : Slot.sites slots = [])
    (hF : ∀ binds numbers c,
      ((F (.binds binds)).run .numbered c).Prints settings numbers slots
      ⟨c.next, c.positional + k⟩) : Template settings [] F slots k := by
  refine ⟨by rw [hsites]; rfl, by simp [hsites], ?_⟩
  intro binds numbers c m h
  cases h
  exact hF binds numbers c

/-- A layout that prints one piece. -/
theorem piece (p : Piece)
    (hF : ∀ binds c, (F (.binds binds)).run .numbered c = ⟨[p], c, none⟩) :
    Template settings [] F [.piece p] 0 := by
  refine of_no_sites rfl fun binds numbers c => ?_
  rw [hF]
  exact ⟨rfl, rfl, .piece p⟩

theorem text (s : String) :
    Template settings [] (fun _ => .text s) [.piece (.text s)] 0 :=
  piece _ fun _ _ => rfl

theorem verbatim (s : String) :
    Template settings [] (fun _ => .verbatim s) [.piece (.verbatim s)] 0 :=
  piece _ fun _ _ => rfl

theorem empty : Template settings [] (fun _ => .empty) [] 0 :=
  of_no_sites rfl fun _ _ _ => ⟨rfl, rfl, .nil⟩

theorem question :
    Template settings [] (fun _ => .question) [.piece (.mark "?")] 1 :=
  of_no_sites rfl fun _ _ _ => ⟨rfl, rfl, .piece _⟩

/-- A site prints its number, and no question mark. -/
theorem site (b : Site) :
    Template settings [b] (fun f => (f.bind b).doc) [.number b] 0 := by
  refine ⟨rfl, ?_, ?_⟩
  · intro d hd
    have hone : (Slot.sites [.number b]).count d ≤ 1 := List.count_le_length
    omega
  · intro binds numbers c m h
    cases h with
    | bind hbind hnumber hl =>
        cases hl
        have hdoc : (Filling.binds binds).bind b = .bind := hbind
        have htext : Slot.Printed settings numbers [.number b]
            [.mark ("$" ++ toString c.next.toNat)] :=
          ⟨rfl, by simp [Slot.textOf, Slot.toText, Piece.textOf, Piece.toText,
            hnumber]⟩
        rw [hdoc]
        exact ⟨rfl, rfl, htext⟩
    | dollar hbind hl =>
        cases hl
        have hdoc : (Filling.binds binds).bind b = .dollar (numbers b) := hbind
        have htext : Slot.Printed settings numbers [.number b]
            [.text "$", .text (toString (numbers b).toNat)] :=
          ⟨rfl, by simp [Slot.textOf, Slot.toText, Piece.textOf, Piece.toText]⟩
        rw [hdoc]
        exact ⟨rfl, rfl, htext⟩

/-- Two layouts with different parameters are printed one after the other, however
their texts are put together. -/
theorem both {H : Filling → Doc} {slots'' : List Slot}
    (h : Template settings l F slots k) (h' : Template settings l' G slots' k')
    (hl : (l ++ l').Nodup)
    (hsites : Slot.sites slots'' = Slot.sites slots ++ Slot.sites slots')
    (hrun : ∀ {binds numbers c n m},
      ((F (.binds binds)).run .numbered c).Prints settings numbers slots
          ⟨n, c.positional + k⟩ →
      ((G (.binds binds)).run .numbered ⟨n, c.positional + k⟩).Prints settings
        numbers slots'
        ⟨m, c.positional + k + k'⟩ →
      ((H (.binds binds)).run .numbered c).Prints settings numbers slots''
        ⟨m, c.positional + k + k'⟩) :
    Template settings (l ++ l') H slots'' (k + k') := by
  refine ⟨by rw [hsites, h.sites_both h' hl], ?_, ?_⟩
  · rw [hsites]
    exact h.once_both h' hl
  · intro binds numbers c m hnumbers
    obtain ⟨n, hfirst, hsecond⟩ := hnumbers.split
    rw [← Nat.add_assoc]
    exact hrun (h.run hfirst) (h'.run (c := ⟨n, c.positional + k⟩) hsecond)

/-- Templates are put together slot by slot if they have no site in common. -/
theorem append (h : Template settings l F slots k)
    (h' : Template settings l' G slots' k') (hl : (l ++ l').Nodup) :
    Template settings (l ++ l') (fun f => F f ++ G f) (slots ++ slots') (k + k') :=
  h.both h' hl (Slot.sites_append _ _) fun hrun hrun' => hrun.andThen hrun'

theorem isolated (h : Template settings l F slots k) :
    Template settings l (fun f => .isolated (F f)) slots k :=
  ⟨h.sites, h.once, fun hnumbers => (h.run hnumbers).isolated⟩

/-- The separator is no slot where one of the sides has no text. -/
theorem beside (h : Template settings l F slots k)
    (h' : Template settings l' G slots' k') (hl : (l ++ l').Nodup) :
    Template settings (l ++ l') (fun f => .beside " " (F f) (G f))
      (Slot.joinBeside " " slots slots') (k + k') :=
  h.both h' hl (Slot.sites_joinBeside _ _ _) fun hrun hrun' =>
    hrun.combine hrun' (hrun.pieces.joinBeside " " hrun'.pieces)

theorem then_text (h : Template settings l F slots k) (hl : l.Nodup) (s : String) :
    Template settings l (fun f => F f ++ .text s)
      (slots ++ [.piece (.text s)]) k := by
  have happend := h.append (text s) (by rwa [List.append_nil])
  rwa [List.append_nil] at happend

theorem parens (h : Template settings l F slots k) (hl : l.Nodup) :
    Template settings l (fun f => .parens (F f))
      ([.piece (.text "(")] ++ slots ++ [.piece (.text ")")]) k := by
  have hopen := (text "(").append h hl
  rw [Nat.zero_add] at hopen
  exact hopen.then_text hl ")"

/-- The second print repeats the sites of the first one, all of which are in an
emulated sort key. -/
theorem twice {between : String} {e : Error} (hnulls : settings.nullsByKey = true)
    (hkey : ∀ b ∈ l, Step.nullsKey ∈ b) (h : Template settings l F slots 0) :
    Template settings l (fun f => .twice "(" between (F f) e)
      ([.piece (.text "(")] ++ slots ++ ([.piece (.text between)] ++ slots)) 0 := by
  have hsites :
    Slot.sites ([.piece (.text "(")] ++ slots ++
      ([.piece (.text between)] ++ slots)) =
      Slot.sites slots ++ Slot.sites slots := by simp
  have hremove : (Slot.sites slots).removeAll (Slot.sites slots) = [] := by
    refine List.filter_eq_nil_iff.2 fun b hb => ?_
    simpa using hb
  refine ⟨?_, ?_, ?_⟩
  · rw [hsites, List.eraseDups_append, hremove, h.sites, List.eraseDups_nil,
    List.append_nil]
  · intro b hb
    rw [hsites] at hb
    have hmem : b ∈ Slot.sites slots ++ Slot.sites slots :=
      List.count_pos_iff.1 (Nat.lt_trans Nat.one_pos hb)
    rw [List.mem_append, or_self, h.mem_sites] at hmem
    exact ⟨hnulls, hkey b hmem⟩
  · intro binds numbers c m hnumbers
    have hrun := h.run hnumbers
    have hcheck : Run.Prints settings numbers [] ⟨m, c.positional + 0⟩
        ⟨[], ⟨m, c.positional + 0⟩,
          if c.positional + 0 = c.positional then none else some e⟩ :=
      ⟨by simp, rfl, .nil⟩
    refine hrun.combine hcheck ?_
    exact ((Slot.Printed.piece (.text "(")).append hrun.pieces).append
      ((Slot.Printed.piece (.text between)).append hrun.pieces)

end Template

/-- A layout that can be printed has a template. -/
theorem Pattern.exists_template {settings : Settings} {ok : Node.Leaf → Prop}
    {l : List Site} {F : Filling → Doc} (hF : Pattern settings ok l F)
    (hl : l.Nodup) {c : Counters}
    (hc : ((F .same).run .numbered c).failure = none) :
    ∃ slots k, Template settings l F slots k := by
  induction hF generalizing c with
  | empty => exact ⟨_, _, .empty⟩
  | fail e => contradiction
  | text _ => exact ⟨_, _, .text _⟩
  | number n => exact ⟨_, _, .text _⟩
  | dims d => cases d <;> exact ⟨_, _, .text _⟩
  | counting => exact ⟨_, _, .text _⟩
  | verbatim _ => exact ⟨_, _, .verbatim _⟩
  | word _ => exact ⟨_, _, .verbatim _⟩
  | keyword _ => exact ⟨_, _, .verbatim _⟩
  | mark _ => exact ⟨_, _, .verbatim _⟩
  | @digits lead s _ _ =>
      have hdigits : Template settings [] (fun _ => .text lead ++ .verbatim s)
          [.piece (.text lead), .piece (.verbatim s)] 0 :=
        (Template.text lead).append (.verbatim s) List.nodup_nil
      exact ⟨_, _, hdigits.then_text List.nodup_nil "'"⟩
  | name _ => exact ⟨_, _, .piece (.name _) fun _ _ => rfl⟩
  | row => exact ⟨_, _, .piece _ fun _ _ => rfl⟩
  | string _ => exact ⟨_, _, .piece (.string _) fun _ _ => rfl⟩
  | question => exact ⟨_, _, .question⟩
  | site b => exact ⟨_, _, .site b⟩
  | append _ _ ihF ihG =>
      obtain ⟨hlF, hlG, -⟩ := List.nodup_append.1 hl
      obtain ⟨hfirst, hsecond⟩ := Run.failure_andThen hc
      obtain ⟨slots, k, h⟩ := ihF hlF hfirst
      obtain ⟨slots', k', h'⟩ := ihG hlG hsecond
      exact ⟨_, _, h.append h' hl⟩
  | parens _ ih =>
      obtain ⟨hinner, -⟩ := Run.failure_andThen hc
      obtain ⟨-, hpart⟩ := Run.failure_andThen hinner
      obtain ⟨slots, k, h⟩ := ih hl hpart
      exact ⟨_, _, h.parens hl⟩
  | isolated _ ih =>
      obtain ⟨slots, k, h⟩ := ih hl (Run.failure_isolated.symm.trans hc)
      exact ⟨_, _, h.isolated⟩
  | beside _ _ ihF ihG =>
      obtain ⟨hlF, hlG, -⟩ := List.nodup_append.1 hl
      obtain ⟨hfirst, hsecond⟩ := Run.failure_combine hc
      obtain ⟨slots, k, h⟩ := ihF hlF hfirst
      obtain ⟨slots', k', h'⟩ := ihG hlG hsecond
      exact ⟨_, _, h.beside h' hl⟩
  | @twice l F between e hnulls _ hkey _ ih =>
      obtain ⟨hpart, hpositional⟩ := Run.failure_combine hc
      obtain ⟨slots, k, h⟩ := ih hl hpart
      have hcounters : ((F .same).run .numbered c).counters =
          ⟨c.next + UInt64.ofNat l.length, c.positional + k⟩ :=
        (h.run (Numbered.of_binds hl c.next)).counters
      have hk : k = 0 := by
        rw [hcounters] at hpositional
        by_cases hk : k = 0
        · exact hk
        · simp [hk] at hpositional
      subst hk
      exact ⟨_, _, h.twice hnulls hkey⟩

end SqlPrinter
