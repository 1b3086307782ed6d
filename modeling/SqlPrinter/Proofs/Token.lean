/-
A reader of printed texts.  It knows where quoted tokens begin and end, erases
what stands in them and keeps the rest with the marks.  Quoting is right if the
reader comes out of each token at its end, whatever the contents.
-/
import SqlPrinter.Text.Quoted

namespace SqlPrinter

/-- Where a reader stands in a text. -/
inductive Place where
  | outside
  /-- In a token that ends with a mark. -/
  | inside (closing : Char)
  /-- After the mark that ends a token, if it is not doubled. -/
  | closed (closing : Char)

/-- What is still to be kept at the end of a text. -/
def Place.rest : Place → List Char
  | outside | inside _ => []
  | closed closing => [closing]

namespace QuoteMarks

variable (marks : QuoteMarks)

/-! ## Reading -/

/-- The mark that ends the token which a character opens, if it opens one. -/
def closingOf (c : Char) : Option Char :=
  if c = '\x27' then some '\x27'
  else if c = marks.opening then some marks.closing
  else none

/-- The place after a character that stands in no token. -/
def enter (c : Char) : Place :=
  match marks.closingOf c with
  | some closing => .inside closing
  | none => .outside

/-- Read a character: what is kept of the text, and the place after it.  A mark
at the end of a token is kept as soon as it is known not to be doubled. -/
def readChar : Place → Char → List Char × Place
  | .outside, c => ([c], marks.enter c)
  | .inside closing, c =>
      ([], if c = closing then .closed closing else .inside closing)
  | .closed closing, c =>
      if c = closing then ([], .inside closing) else ([closing, c], marks.enter c)

/-- Read characters in order. -/
def read (p : Place) : List Char → List Char × Place
  | [] => ([], p)
  | c :: cs =>
      let first := marks.readChar p c
      let others := read first.2 cs
      (first.1 ++ others.1, others.2)

/-- A text without the contents of its quoted tokens.  A token opens at a single
quote or at an opening mark and ends at the first closing mark that is not
doubled. -/
def skeleton (s : String) : String :=
  let r := marks.read .outside s.toList
  String.ofList (r.1 ++ r.2.rest)

@[simp] theorem read_nil (p : Place) : marks.read p [] = ([], p) := rfl

/-- A text is read by reading its halves, the second from where the first ends. -/
theorem read_append (p : Place) (xs ys : List Char) :
    marks.read p (xs ++ ys) =
      ((marks.read p xs).1 ++ (marks.read (marks.read p xs).2 ys).1,
        (marks.read (marks.read p xs).2 ys).2) := by
  induction xs generalizing p with
  | nil => rfl
  | cons x xs ih => simp only [List.cons_append, read, ih, List.append_assoc]

/-! ## Places out of all tokens -/

/-- A character that opens or ends a quoted token. -/
def IsMark (c : Char) : Prop :=
  c = '\x27' ∨ c = marks.opening ∨ c = marks.closing

instance (c : Char) : Decidable (marks.IsMark c) :=
  inferInstanceAs (Decidable (_ ∨ _ ∨ _))

/-- The reader stands in no token. -/
def IsFree : Place → Prop
  | .outside => True
  | .inside _ => False
  | .closed closing => closing = '\x27' ∨ closing = marks.closing

variable {marks}

variable (marks) in
theorem closingOf_opening : marks.closingOf marks.opening = some marks.closing := by
  cases marks <;> rfl

theorem closingOf_eq_none {c : Char} (hc : ¬marks.IsMark c) :
    marks.closingOf c = none := by
  simp only [IsMark, not_or] at hc
  simp [closingOf, hc.1, hc.2.1]

theorem isFree_closed {c closing : Char} (hc : marks.closingOf c = some closing) :
    marks.IsFree (.closed closing) := by
  simp only [closingOf] at hc
  split at hc
  · exact Or.inl (Option.some.inj hc).symm
  · split at hc
    · exact Or.inr (Option.some.inj hc).symm
    · contradiction

/-- An opening mark that is also the end of the token before it goes with the
token that it opens. -/
theorem eq_of_isFree_closed {c closing : Char}
    (hc : marks.closingOf c = some closing) (hfree : marks.IsFree (.closed c)) :
    closing = c := by
  simp only [closingOf] at hc
  split at hc
  · next hquote => exact (Option.some.inj hc).symm.trans hquote.symm
  · next hquote =>
      split at hc
      · next hopening =>
          obtain hsingle | hclosing := hfree
          · exact absurd hsingle hquote
          · exact (Option.some.inj hc).symm.trans hclosing.symm
      · contradiction

/-- An opening mark leads inside, from wherever it may stand. -/
theorem readChar_opening {p : Place} {c closing : Char} (hp : marks.IsFree p)
    (hc : marks.closingOf c = some closing) :
    (marks.readChar p c).2 = .inside closing := by
  cases p with
  | outside => simp [readChar, enter, hc]
  | inside _ => exact hp.elim
  | closed before =>
      by_cases hsame : c = before
      · subst hsame
        simp [readChar, eq_of_isFree_closed hc hp]
      · simp [readChar, hsame, enter, hc]

theorem readChar_plain {p : Place} {c : Char} (hp : marks.IsFree p)
    (hc : ¬marks.IsMark c) : (marks.readChar p c).2 = .outside := by
  cases p with
  | outside => simp [readChar, enter, closingOf_eq_none hc]
  | inside _ => exact hp.elim
  | closed before =>
      have hne : c ≠ before := by
        rintro rfl
        exact hc (hp.elim Or.inl fun h => Or.inr (Or.inr h))
      simp [readChar, hne, enter, closingOf_eq_none hc]

/-! ## Texts without marks -/

variable (marks) in
/-- A text that opens and ends no token. -/
def Misses (s : String) : Prop :=
  ∀ c ∈ s.toList, ¬marks.IsMark c

instance (s : String) : Decidable (marks.Misses s) :=
  List.decidableBAll (¬marks.IsMark ·) s.toList

/-- A text without marks leads to a place where a mark may open. -/
theorem isFree_read_plain {cs : List Char} (hcs : ∀ c ∈ cs, ¬marks.IsMark c)
    {p : Place} (hp : marks.IsFree p) : marks.IsFree (marks.read p cs).2 := by
  induction cs generalizing p with
  | nil => exact hp
  | cons c cs ih =>
      have hc := readChar_plain hp (hcs c List.mem_cons_self)
      have hnext : marks.IsFree (marks.readChar p c).2 := by
        rw [hc]
        trivial
      exact ih (fun d hd => hcs d (List.mem_cons_of_mem c hd)) hnext

/-! ## Quoted texts -/

/-- Inside a token all contents are erased in which the closing mark is doubled. -/
theorem read_inside_encode (closing : Char) (cs : List Char) :
    marks.read (.inside closing) (Quoted.encode closing cs) =
      ([], .inside closing) := by
  induction cs with
  | nil => rfl
  | cons c cs ih =>
      by_cases hc : c = closing
      · simp [Quoted.encode, read, readChar, hc, ih]
      · simp [Quoted.encode, read, readChar, hc, ih]

/-- A quoted text leaves its opening mark, with the mark before it if there is
one, and the reader comes out of it. -/
theorem read_wrap {p : Place} {opening closing : Char} (hp : marks.IsFree p)
    (hopening : marks.closingOf opening = some closing) (s : String) :
    marks.read p (Quoted.wrap opening closing s).toList =
      ((marks.readChar p opening).1, .closed closing) := by
  have hinside := readChar_opening hp hopening
  have hcontents : marks.read (.inside closing) (Quoted.encode closing s.toList) =
      ([], .inside closing) := read_inside_encode closing s.toList
  have hend : marks.readChar (.inside closing) closing = ([], .closed closing) := by
    simp [readChar]
  simp [Quoted.wrap, read, hinside, read_append, hcontents, hend]

/-- A text without the closing mark is quoted as it is. -/
theorem encode_eq_self {closing : Char} {cs : List Char} (hcs : closing ∉ cs) :
    Quoted.encode closing cs = cs := by
  induction cs with
  | nil => rfl
  | cons c cs ih =>
      rw [List.mem_cons, not_or] at hcs
      rw [Quoted.encode, if_neg fun h => hcs.1 h.symm, ih hcs.2]

/-! ## Texts with one skeleton -/

variable (marks) in
/-- Two texts that differ inside quoted tokens only, wherever they stand outside
of one. -/
def Blur (xs ys : List Char) : Prop :=
  ∀ p, marks.IsFree p →
    marks.read p xs = marks.read p ys ∧ marks.IsFree (marks.read p xs).2

/-- Texts that blur together do so side by side. -/
theorem Blur.append {xs ys xs' ys' : List Char} (h : marks.Blur xs ys)
    (h' : marks.Blur xs' ys') : marks.Blur (xs ++ xs') (ys ++ ys') := by
  intro p hp
  obtain ⟨heq, hfree⟩ := h p hp
  obtain ⟨heq', hfree'⟩ := h' _ hfree
  constructor
  · rw [read_append, read_append, heq', heq]
  · rw [read_append]
    exact hfree'

theorem Blur.nil : marks.Blur [] [] :=
  fun _ hp => ⟨rfl, hp⟩

theorem Blur.of_misses {s : String} (hs : marks.Misses s) :
    marks.Blur s.toList s.toList :=
  fun _ hp => ⟨rfl, isFree_read_plain hs hp⟩

/-- Any two texts blur together between the same marks. -/
theorem Blur.wrap {opening closing : Char}
    (hopening : marks.closingOf opening = some closing) (s t : String) :
    marks.Blur (Quoted.wrap opening closing s).toList
      (Quoted.wrap opening closing t).toList := by
  intro p hp
  rw [read_wrap hp hopening, read_wrap hp hopening]
  exact ⟨rfl, isFree_closed hopening⟩

/-- Texts that blur together have one skeleton. -/
theorem Blur.skeleton_eq {s t : String} (h : marks.Blur s.toList t.toList) :
    marks.skeleton s = marks.skeleton t := by
  rw [skeleton, skeleton, (h .outside trivial).1]

end QuoteMarks

end SqlPrinter
