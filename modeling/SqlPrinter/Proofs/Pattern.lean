/-
The layouts of a statement under all fillings at once.  A pattern is a layout
that depends on a filling in three ways only: it prints a name, a string, or
what stands at the site of a bound parameter.  All other texts are fixed ones or
are taken over from the statement.  What is to hold of every printed text is
proved by induction on patterns.
-/
import SqlPrinter.Layout.Statement
import SqlPrinter.Proofs.Filling
import SqlPrinter.Proofs.Node

namespace SqlPrinter

/-! ## Fixed texts -/

/-- A character that opens and closes nothing and counts no parameter. -/
def isPlainChar (c : Char) : Bool :=
  c ∉ ['\x27', '"', '\x60', '[', ']', '(', ')', '?']

/-- A text with plain characters only. -/
def IsPlain (s : String) : Prop :=
  s.toList.all isPlainChar = true

/-- The words between the two prints of an emulated sort key. -/
def IsNullsTest (s : String) : Prop :=
  s = " IS NULL) ASC, " ∨ s = " IS NULL) DESC, "

/-- The opening of a constant in digits that stands in quotes. -/
def IsDigitsLead (s : String) : Prop :=
  s = "X'" ∨ s = "b'"

/-! ## Patterns -/

variable (settings : Settings) (ok : Node.Leaf → Prop)

/-- A layout of which the texts are as a condition asks, with the sites of its
parameters in the order in which they are evaluated. -/
inductive Pattern : List Site → (Filling → Doc) → Prop where
  | empty : Pattern [] fun _ => .empty
  | fail (e : Error) : Pattern [] fun _ => .fail e
  | text {s : String} (hs : IsPlain s) : Pattern [] fun _ => .text s
  | number (n : UInt64) : Pattern [] fun _ => .number n
  | dims (d : ArrayDim) : Pattern [] fun _ => d.doc
  | counting : Pattern [] fun _ => .text settings.dialect.autoIncrement
  | verbatim {s : String} (hs : ok (.verbatim s)) : Pattern [] fun _ => .verbatim s
  | word {s : String} (hs : ok (.verbatim s)) : Pattern [] fun _ => .word s
  | keyword {kv : KeywordValue} (hkv : ∀ l ∈ Node.keywordLeaves kv, ok l) :
      Pattern [] fun _ => kv.doc
  | mark {s : String} (hs : ok (.mark s)) : Pattern [] fun _ => .verbatim s
  | digits {lead s : String} (hlead : IsDigitsLead lead) (hs : ok (.verbatim s)) :
      Pattern [] fun _ => .text lead ++ .verbatim s ++ .text "'"
  | name {s : String} (hs : ok (.name s)) : Pattern [] fun f => .name (f.name s)
  | row : Pattern [] fun _ => .name InsertedRef.row
  | string {s : String} (hs : ok (.string s)) : Pattern [] fun f =>
      .string (f.string s)
  | question : Pattern [] fun _ => .question
  | site (b : Site) : Pattern [b] fun f => (f.bind b).doc
  | append {l m : List Site} {F G : Filling → Doc} (hF : Pattern l F)
      (hG : Pattern m G) :
      Pattern (l ++ m) fun f => F f ++ G f
  | parens {l : List Site} {F : Filling → Doc} (hF : Pattern l F) :
      Pattern l fun f => .parens (F f)
  | isolated {l : List Site} {F : Filling → Doc} (hF : Pattern l F) :
      Pattern l fun f => .isolated (F f)
  | beside {l m : List Site} {F G : Filling → Doc} (hF : Pattern l F)
      (hG : Pattern m G) :
      Pattern (l ++ m) fun f => .beside " " (F f) (G f)
  | twice {l : List Site} {F : Filling → Doc} {between : String} {e : Error}
      (hnulls : settings.nullsByKey = true) (hbetween : IsNullsTest between)
      (hkey : ∀ b ∈ l, Step.nullsKey ∈ b) (hF : Pattern l F) :
      Pattern l fun f => .twice "(" between (F f) e

/-- Patterns in a list, with the sites of them all. -/
inductive Patterns : List Site → (Filling → List Doc) → Prop where
  | nil : Patterns [] fun _ => []
  | cons {l m : List Site} {F : Filling → Doc} {Fs : Filling → List Doc}
      (hF : Pattern settings ok l F) (hFs : Patterns m Fs) :
      Patterns (l ++ m) fun f => F f :: Fs f

/-- A pattern that may be missing. -/
inductive PatternOpt : List Site → (Filling → Option Doc) → Prop where
  | none : PatternOpt [] fun _ => none
  | some {l : List Site} {F : Filling → Doc} (hF : Pattern settings ok l F) :
      PatternOpt l fun f => some (F f)

variable {settings ok}
variable {l m : List Site} {F G : Filling → Doc} {Fs : Filling → List Doc}
  {O : Filling → Option Doc}

namespace Pattern

/-- What follows without a site adds none. -/
theorem then_fixed (hF : Pattern settings ok l F) (hG : Pattern settings ok [] G) :
    Pattern settings ok l fun f => F f ++ G f := by
  simpa using hF.append hG

theorem fixed_then (hF : Pattern settings ok [] F) (hG : Pattern settings ok l G) :
    Pattern settings ok l fun f => F f ++ G f :=
  hF.append hG

/-- Fixed words behind a pattern have to be plain, so that no site is hidden in
them. -/
theorem then_text {s : String} (hF : Pattern settings ok l F) (hs : IsPlain s) :
    Pattern settings ok l fun f => F f ++ .text s :=
  hF.then_fixed (.text hs)

theorem text_then {s : String} (hF : Pattern settings ok l F) (hs : IsPlain s) :
    Pattern settings ok l fun f => .text s ++ F f :=
  (Pattern.text hs).append hF

/-- Fixed words that may be left out have no site. -/
theorem textIf (condition : Bool) {s : String} (hs : IsPlain s) :
    Pattern settings ok [] fun _ => .textIf condition s := by
  cases condition
  · exact .empty
  · exact .text hs

/-- A check prints nothing. -/
theorem require (filled : Bool) (node field : String) :
    Pattern settings ok [] fun _ => .require filled node field := by
  cases filled
  · exact .fail _
  · exact .empty

theorem requireText (s node field : String) :
    Pattern settings ok [] fun _ => .requireText s node field :=
  .require _ node field

end Pattern

namespace Patterns

theorem cons_fixed (hF : Pattern settings ok l F)
    (hFs : Patterns settings ok [] Fs) :
    Patterns settings ok l fun f => F f :: Fs f := by
  simpa using Patterns.cons hF hFs

/-- A list of parts that no filling changes. -/
theorem const {α : Type} {g : α → Doc} (as : List α)
    (hg : ∀ a ∈ as, Pattern settings ok [] fun _ => g a) :
    Patterns settings ok [] fun _ => as.map g := by
  induction as with
  | nil => exact .nil
  | cons a as ih =>
      have htail := ih fun b hb => hg b (List.mem_cons_of_mem a hb)
      exact .cons (hg a List.mem_cons_self) htail

theorem map (hFs : Patterns settings ok l Fs) {g : Doc → Doc}
    (hg : ∀ {l F}, Pattern settings ok l F → Pattern settings ok l fun f =>
      g (F f)) : Patterns settings ok l fun f => (Fs f).map g := by
  induction hFs with
  | nil => exact .nil
  | cons hF _ ih => exact .cons (hg hF) ih

theorem concat (hFs : Patterns settings ok l Fs) :
    Pattern settings ok l fun f => .concat (Fs f) := by
  induction hFs with
  | nil => exact .empty
  | cons hF _ ih => exact hF.append ih

/-- A separator may have no site, since it is printed many times. -/
theorem joined {separator : Doc} (hs : Pattern settings ok [] fun _ => separator)
    (hFs : Patterns settings ok l Fs) :
    Pattern settings ok l fun f => .joined separator (Fs f) := by
  cases hFs with
  | nil => exact .empty
  | cons hF hFs => exact hF.append (hFs.map fun hG => hs.append hG).concat

theorem commas (hFs : Patterns settings ok l Fs) :
    Pattern settings ok l fun f => .commas (Fs f) :=
  hFs.joined (.text rfl)

theorem fragments (hFs : Patterns settings ok l Fs) :
    Pattern settings ok l fun f => .fragments " " (Fs f) := by
  induction hFs with
  | nil => exact .empty
  | cons hF _ ih => exact .beside hF ih

/-- A clause that is left out if its list is empty. -/
theorem orEmpty (hFs : Patterns settings ok l Fs) (hF : Pattern settings ok l F) :
    Pattern settings ok l fun f => if (Fs f).isEmpty then .empty else F f := by
  cases hFs with
  | nil => exact .empty
  | cons _ _ => exact hF

end Patterns

namespace PatternOpt

theorem optional (hO : PatternOpt settings ok l O) : Pattern settings ok l fun f =>
    .optional (O f) := by
  cases hO with
  | none => exact .empty
  | some hF => exact hF

/-- A part that may be missing keeps its sites behind the words that introduce
it. -/
theorem clause {s : String} (hO : PatternOpt settings ok l O) (hs : IsPlain s) :
    Pattern settings ok l fun f => .clause s (O f) := by
  cases hO with
  | none => exact .empty
  | some hF => exact hF.text_then hs

theorem map (hO : PatternOpt settings ok l O) {g : Doc → Doc}
    (hg : ∀ {l F}, Pattern settings ok l F → Pattern settings ok l fun f =>
      g (F f)) : PatternOpt settings ok l fun f => (O f).map g := by
  cases hO with
  | none => exact .none
  | some hF => exact .some (hg hF)

/-- An optional part that no filling changes. -/
theorem const {α : Type} {g : α → Doc} (o : Option α)
    (hg : ∀ a ∈ o, Pattern settings ok [] fun _ => g a) :
    PatternOpt settings ok [] fun _ => o.map g := by
  cases o with
  | none => exact .none
  | some a => exact .some (hg a rfl)

end PatternOpt

/-! ## Sites below a node -/

/-- The sites are different and lie below some parts of the node at a site. -/
def Below (p : Site) (ks : List Nat) (l : List Site) : Prop :=
  l.Nodup ∧ ∀ b ∈ l, ∃ k ∈ ks, p.part k <:+ b

/-- Two lists of parts have none in common. -/
def Apart (ks js : List Nat) : Prop :=
  ks.all (· ∉ js) = true

theorem Apart.not_mem {ks js : List Nat} {k : Nat} (h : Apart ks js) (hk : k ∈ ks) :
    k ∉ js :=
  of_decide_eq_true (List.all_eq_true.1 h k hk)

/-- Two different parts of a node are apart. -/
theorem Apart.singletons {i j : Nat} (hij : i ≠ j) : Apart [i] [j] := by
  simpa [Apart] using hij

/-- A layout whose parameters lie below some parts of the node at a site.  It
may be one pattern, a list of them, or a missing one. -/
def Laid {α : Type} (P : List Site → (Filling → α) → Prop) (p : Site)
    (ks : List Nat) (F : Filling → α) : Prop :=
  ∃ l, P l F ∧ Below p ks l

/-- A layout whose parameters lie at or below a site. -/
def Fits {α : Type} (P : List Site → (Filling → α) → Prop) (p : Site)
    (F : Filling → α) : Prop :=
  ∃ l, P l F ∧ l.Nodup ∧ ∀ b ∈ l, p <:+ b

section Laid

variable {α β γ : Type} {P : List Site → (Filling → α) → Prop}
  {Q : List Site → (Filling → β) → Prop} {R : List Site → (Filling → γ) → Prop}
  {A : Filling → α} {B : Filling → β} {C : Filling → γ} {p : Site}
    {ks js : List Nat}

/-- What is made of a layout keeps the places of its sites. -/
theorem Laid.lift (hA : Laid P p ks A) (hAB : ∀ {l}, P l A → Q l B) :
    Laid Q p ks B := by
  obtain ⟨l, hl, hbelow⟩ := hA
  exact ⟨l, hAB hl, hbelow⟩

theorem Fits.lift (hA : Fits P p A) (hAB : ∀ {l}, P l A → Q l B) : Fits Q p B := by
  obtain ⟨l, hl, hbelow⟩ := hA
  exact ⟨l, hAB hl, hbelow⟩

/-- A layout without parameters. -/
theorem Laid.const (hA : P [] A) (p : Site) : Laid P p [] A :=
  ⟨[], hA, List.nodup_nil, by simp⟩

theorem Fits.const (hA : P [] A) (p : Site) : Fits P p A :=
  ⟨[], hA, List.nodup_nil, by simp⟩

/-- A layout with sites under some parts has them under more parts too. -/
theorem Laid.mono (hA : Laid P p ks A) (hks : ∀ k ∈ ks, k ∈ js) :
    Laid P p js A := by
  obtain ⟨l, hl, hnodup, hbelow⟩ := hA
  refine ⟨l, hl, hnodup, ?_⟩
  intro b hb
  obtain ⟨k, hk, hkb⟩ := hbelow b hb
  exact ⟨k, hks k hk, hkb⟩

/-- Sites below the parts of a node are below the node. -/
theorem Laid.fits (hA : Laid P p ks A) : Fits P p A := by
  obtain ⟨l, hl, hnodup, hbelow⟩ := hA
  refine ⟨l, hl, hnodup, ?_⟩
  intro b hb
  obtain ⟨k, -, hk⟩ := hbelow b hb
  exact (List.suffix_cons _ _).trans hk

/-- What fits below a part of a node is laid out at that part. -/
theorem Fits.laid {k : Nat} (hA : Fits P (p.part k) A) : Laid P p [k] A := by
  obtain ⟨l, hl, hnodup, hbelow⟩ := hA
  exact ⟨l, hl, hnodup, fun b hb => ⟨k, List.mem_singleton_self k, hbelow b hb⟩⟩

/-- A site lies below one part of a node only. -/
theorem Site.part_inj {b : Site} {i j : Nat} (hi : p.part i <:+ b)
    (hj : p.part j <:+ b) : i = j := by
  have heq : p.part i = p.part j :=
    (List.suffix_of_suffix_length_le hi hj (by simp [Site.part])).eq_of_length
      (by simp [Site.part])
  simpa [Site.part] using heq

/-- Layouts below different parts go together. -/
theorem Laid.both (hA : Laid P p ks A) (hB : Laid Q p js B) (hapart : Apart ks js)
    (hC : ∀ {l m}, P l A → Q m B → R (l ++ m) C) : Laid R p (ks ++ js) C := by
  obtain ⟨l, hl, hlnodup, hlbelow⟩ := hA
  obtain ⟨m, hm, hmnodup, hmbelow⟩ := hB
  refine ⟨l ++ m, hC hl hm, List.nodup_append.2 ⟨hlnodup, hmnodup, ?_⟩, ?_⟩
  · rintro b hbl c hcm rfl
    obtain ⟨i, hi, hib⟩ := hlbelow b hbl
    obtain ⟨j, hj, hjb⟩ := hmbelow b hcm
    exact hapart.not_mem hi (Site.part_inj hib hjb ▸ hj)
  · intro b hb
    rcases List.mem_append.1 hb with hb | hb
    · obtain ⟨k, hk, hkb⟩ := hlbelow b hb
      exact ⟨k, List.mem_append_left _ hk, hkb⟩
    · obtain ⟨k, hk, hkb⟩ := hmbelow b hb
      exact ⟨k, List.mem_append_right _ hk, hkb⟩

end Laid

section Combinators

variable {p : Site} {ks js : List Nat} {s : String}

/-- Two layouts whose sites lie under different parts have no site in common. -/
theorem Laid.append (hF : Laid (Pattern settings ok) p ks F)
    (hG : Laid (Pattern settings ok) p js G) (hapart : Apart ks js) :
    Laid (Pattern settings ok) p (ks ++ js) fun f => F f ++ G f :=
  hF.both hG hapart .append

theorem Laid.then_fixed (hF : Laid (Pattern settings ok) p ks F)
    (hG : Pattern settings ok [] G) :
    Laid (Pattern settings ok) p ks fun f => F f ++ G f :=
  hF.lift (·.then_fixed hG)

theorem Laid.fixed_then (hF : Pattern settings ok [] F)
    (hG : Laid (Pattern settings ok) p ks G) :
    Laid (Pattern settings ok) p ks fun f => F f ++ G f :=
  hG.lift hF.fixed_then

theorem Laid.then_text (hF : Laid (Pattern settings ok) p ks F) (hs : IsPlain s) :
    Laid (Pattern settings ok) p ks fun f => F f ++ .text s :=
  hF.lift (·.then_text hs)

theorem Laid.text_then (hF : Laid (Pattern settings ok) p ks F) (hs : IsPlain s) :
    Laid (Pattern settings ok) p ks fun f => .text s ++ F f :=
  hF.lift (·.text_then hs)

theorem Laid.parens (hF : Laid (Pattern settings ok) p ks F) :
    Laid (Pattern settings ok) p ks fun f => .parens (F f) :=
  hF.lift .parens

/-- A list grows by a layout whose sites lie under another part. -/
theorem Laid.cons (hF : Laid (Pattern settings ok) p ks F)
    (hFs : Laid (Patterns settings ok) p js Fs) (hapart : Apart ks js) :
    Laid (Patterns settings ok) p (ks ++ js) fun f => F f :: Fs f :=
  hF.both hFs hapart .cons

theorem Laid.clause (hO : Laid (PatternOpt settings ok) p ks O) (hs : IsPlain s) :
    Laid (Pattern settings ok) p ks fun f => .clause s (O f) :=
  hO.lift (·.clause hs)

/-- An optional part is missing under every filling or there under every one. -/
theorem Laid.optional_cases (hO : Laid (PatternOpt settings ok) p ks O) :
    (O = fun _ => none) ∨ ∃ F, O = (fun f => some (F f)) ∧
      Laid (Pattern settings ok) p ks F := by
  obtain ⟨l, hl, hbelow⟩ := hO
  cases hl with
  | none => exact Or.inl rfl
  | some hF => exact Or.inr ⟨_, rfl, l, hF, hbelow⟩

/-- A part that is left out under a condition. -/
theorem Laid.unless (condition : Bool) (hF : Laid (Pattern settings ok) p ks F) :
    Laid (Pattern settings ok) p ks fun f => if condition then .empty else F f := by
  cases condition with
  | true => exact (Laid.const .empty p).mono (by simp)
  | false => exact hF

theorem Laid.optional (hO : Laid (PatternOpt settings ok) p ks O) :
    Laid (Pattern settings ok) p ks fun f => .optional (O f) :=
  hO.lift (·.optional)

theorem Laid.fragments (hFs : Laid (Patterns settings ok) p ks Fs) :
    Laid (Pattern settings ok) p ks fun f => .fragments " " (Fs f) :=
  hFs.lift (·.fragments)

theorem Laid.commas (hFs : Laid (Patterns settings ok) p ks Fs) :
    Laid (Pattern settings ok) p ks fun f => .commas (Fs f) :=
  hFs.lift (·.commas)

end Combinators

end SqlPrinter
