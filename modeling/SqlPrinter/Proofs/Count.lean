/-
The parameters of a layout, counted without evaluating it.  An evaluation that
succeeds moves its counters on by this count, and it prints no question mark in
a part that stands twice in the text.
-/
import Mathlib.Algebra.GroupWithZero.Nat
import SqlPrinter.Proofs.Template

namespace SqlPrinter

/-- What a parameter counts for: a bound one, a question mark of the statement,
and how many times over one in a part that is printed twice. -/
structure Tally where
  bound : Nat
  question : Nat
  repeats : Nat

namespace Tally

/-- A parameter that is numbered counts. -/
def numbers : PlaceholderStyle → Tally
  | .numbered => ⟨1, 0, 1⟩
  | .question => ⟨0, 0, 1⟩

/-- A parameter that is printed as a question mark counts; in a part that is
printed twice it counts so many times. -/
def marks (repeats : Nat) : PlaceholderStyle → Tally
  | .numbered => ⟨0, 1, repeats⟩
  | .question => ⟨1, 1, repeats⟩

end Tally

namespace Doc

variable (t : Tally)

/-- What the parameters of a layout count for together. -/
def count : Doc → Nat
  | placeholder => t.bound
  | question => t.question
  | append first second => first.count + second.count
  | isolated d => d.count
  | beside _ first second => first.count + second.count
  | twice _ _ part _ => t.repeats * part.count
  | empty | text _ | verbatim _ | name _ | string _ | fail _ => 0

/-- What the parameters of several layouts count for together. -/
def total (ds : List Doc) : Nat :=
  (ds.map (count t)).sum

/-- There is a point in the layout at which printing has to stop. -/
def hasFault : Doc → Bool
  | fail _ => true
  | append first second => first.hasFault || second.hasFault
  | isolated d => d.hasFault
  | beside _ first second => first.hasFault || second.hasFault
  | twice _ _ part _ => part.hasFault
  | empty | text _ | verbatim _ | name _ | string _ | placeholder
  | question => false

/-! ## Counts of the combinators -/

@[simp] theorem total_nil : total t [] = 0 := rfl

@[simp] theorem total_cons (d : Doc) (ds : List Doc) :
    total t (d :: ds) = d.count t + total t ds := by
  simp [total]

@[simp] theorem total_append (ds es : List Doc) :
    total t (ds ++ es) = total t ds + total t es := by
  simp [total]

@[simp] theorem count_empty : empty.count t = 0 := rfl

@[simp] theorem count_text (s : String) : (text s).count t = 0 := rfl

@[simp] theorem count_verbatim (s : String) : (verbatim s).count t = 0 := rfl

@[simp] theorem count_name (s : String) : (name s).count t = 0 := rfl

@[simp] theorem count_string (s : String) : (string s).count t = 0 := rfl

@[simp] theorem count_fail (e : Error) : (fail e).count t = 0 := rfl

/-- Counts add up, as texts do. -/
@[simp] theorem count_append (d e : Doc) :
    (d ++ e).count t = d.count t + e.count t := rfl

@[simp] theorem count_isolated (d : Doc) : (isolated d).count t = d.count t := rfl

@[simp] theorem count_twice (lead between : String) (part : Doc) (e : Error) :
    (twice lead between part e).count t = t.repeats * part.count t := rfl

/-- The count of a row is the total of its members. -/
@[simp] theorem count_concat (ds : List Doc) :
    (concat ds).count t = total t ds := by
  induction ds with
  | nil => rfl
  | cons d ds ih => simp [concat, ih]

/-- What is put before each of some layouts counts for nothing. -/
theorem total_map {g : Doc → Doc} (hg : ∀ d, (g d).count t = d.count t)
    (ds : List Doc) : total t (ds.map g) = total t ds := by
  induction ds with
  | nil => rfl
  | cons d ds ih => simp [hg, ih]

/-- Layouts without parameters. -/
theorem total_eq_zero {α : Type} {g : α → Doc} (as : List α)
    (hg : ∀ a, (g a).count t = 0) : total t (as.map g) = 0 := by
  induction as with
  | nil => rfl
  | cons a as ih => simp [hg, ih]

/-- Separators count for nothing. -/
theorem count_joined {separator : Doc} (hs : separator.count t = 0)
    (ds : List Doc) : (joined separator ds).count t = total t ds := by
  cases ds with
  | nil => rfl
  | cons d ds => simp [joined, total_map t (g := (separator ++ ·)) (by simp [hs])]

@[simp] theorem count_sepBy (s : String) (ds : List Doc) :
    (sepBy s ds).count t = total t ds :=
  count_joined t rfl ds

@[simp] theorem count_commas (ds : List Doc) : (commas ds).count t = total t ds :=
  count_sepBy t ", " ds

@[simp] theorem count_parens (d : Doc) : (parens d).count t = d.count t := by
  simp [parens]

/-- Leaving out empty fragments changes no count, since they hold nothing to
count. -/
@[simp] theorem count_fragments (s : String) (ds : List Doc) :
    (fragments s ds).count t = total t ds := by
  induction ds with
  | nil => rfl
  | cons d ds ih => simp [fragments, count, ih]

@[simp] theorem count_optional (o : Option Doc) :
    (optional o).count t = total t o.toList := by
  cases o <;> simp [optional]

@[simp] theorem count_clause (s : String) (o : Option Doc) :
    (clause s o).count t = total t o.toList := by
  cases o <;> simp [clause]

@[simp] theorem count_textIf (condition : Bool) (s : String) :
    (textIf condition s).count t = 0 := by
  cases condition <;> rfl

@[simp] theorem count_require (filled : Bool) (node field : String) :
    (require filled node field).count t = 0 := by
  cases filled <;> rfl

@[simp] theorem count_requireText (s node field : String) :
    (requireText s node field).count t = 0 :=
  count_require t _ node field

@[simp] theorem count_number (n : UInt64) : (number n).count t = 0 := rfl

@[simp] theorem count_word (s : String) : (word s).count t = 0 := rfl

@[simp] theorem count_words (ss : List String) : (words ss).count t = 0 := by
  rw [words, count_fragments]
  exact total_eq_zero t ss fun _ => rfl

@[simp] theorem count_path (ss : List String) : (path ss).count t = 0 := by
  rw [path, count_sepBy]
  exact total_eq_zero t ss fun _ => rfl

@[simp] theorem count_names (node field : String) (ss : List String) :
    (names node field ss).count t = 0 := by
  cases ss with
  | nil => rfl
  | cons s ss =>
      simp only [names, count_append, count_requireText, count_name, count_concat,
        Nat.zero_add]
      exact total_eq_zero t ss (by simp)

@[simp] theorem count_rename (withAs : Bool) (second : Option String) :
    (rename withAs second).count t = 0 := by
  unfold rename
  split <;> rfl

end Doc

/-! ## Evaluation -/

namespace Doc

variable {placeholders : PlaceholderStyle} {c : Counters} {d e : Doc}

/-- What there is after two layouts if both are printed. -/
theorem run_append (h : ((d ++ e).run placeholders c).failure = none) :
    (d.run placeholders c).failure = none ∧
      (e.run placeholders (d.run placeholders c).counters).failure = none ∧
      (d ++ e).run placeholders c =
        { e.run placeholders (d.run placeholders c).counters with
          pieces := (d.run placeholders c).pieces ++
            (e.run placeholders (d.run placeholders c).counters).pieces } := by
  obtain ⟨hd, he⟩ := Run.failure_andThen h
  refine ⟨hd, he, ?_⟩
  change (d.run placeholders c).andThen (e.run placeholders) = _
  simp only [Run.andThen, hd]

/-- An isolated part that succeeds runs as the part does. -/
theorem run_isolated (h : ((isolated d).run placeholders c).failure = none) :
    (d.run placeholders c).failure = none ∧
      (isolated d).run placeholders c = d.run placeholders c := by
  have hd : (d.run placeholders c).failure = none :=
    Run.failure_isolated.symm.trans h
  exact ⟨hd, by simp [run, Run.isolated, hd]⟩

/-- Where a pair succeeds, both halves do, the second in the state that the first
leaves. -/
theorem run_beside {separator : String}
    (h : ((beside separator d e).run placeholders c).failure = none) :
    (d.run placeholders c).failure = none ∧
      (e.run placeholders (d.run placeholders c).counters).failure = none ∧
      (beside separator d e).run placeholders c =
        { e.run placeholders (d.run placeholders c).counters with
          pieces := Piece.joinBeside separator (d.run placeholders c).pieces
            (e.run placeholders (d.run placeholders c).counters).pieces } := by
  obtain ⟨hd, he⟩ := Run.failure_combine h
  refine ⟨hd, he, ?_⟩
  simp only [run, Run.combine, hd, he]

/-- A part that is printed twice has counted no question mark. -/
theorem run_twice {lead between : String} {error : Error}
    (h : ((twice lead between d error).run placeholders c).failure = none) :
    (d.run placeholders c).failure = none ∧
      (d.run placeholders c).counters.positional = c.positional ∧
      (twice lead between d error).run placeholders c =
        { d.run placeholders c with
          pieces := .text lead :: (d.run placeholders c).pieces ++
            .text between :: (d.run placeholders c).pieces } := by
  obtain ⟨hd, hmarks⟩ := Run.failure_combine h
  have hpositional : (d.run placeholders c).counters.positional = c.positional := by
    refine Decidable.byContradiction fun hne => ?_
    simp [hne] at hmarks
  refine ⟨hd, hpositional, ?_⟩
  simp only [run, Run.combine, hd, hpositional, if_true]

/-- A layout with a fault in it is never printed. -/
theorem hasFault_eq_false {d : Doc} (h : (d.run placeholders c).failure = none) :
    d.hasFault = false := by
  induction d generalizing c with
  | fail e => contradiction
  | append first second ihFirst ihSecond =>
      obtain ⟨hfirst, hsecond, -⟩ := run_append h
      simp [hasFault, ihFirst hfirst, ihSecond hsecond]
  | isolated d ih => exact ih (run_isolated h).1
  | beside separator first second ihFirst ihSecond =>
      obtain ⟨hfirst, hsecond, -⟩ := run_beside h
      simp [hasFault, ihFirst hfirst, ihSecond hsecond]
  | twice lead between part e ih => exact ih (run_twice h).1
  | _ => rfl

/-- How an evaluation that succeeds moves its counters on. -/
structure Advance (placeholders : PlaceholderStyle) (d : Doc)
    (before after : Counters) : Prop where
  next : after.next = before.next + UInt64.ofNat (d.count (.numbers placeholders))
  positional :
    after.positional = before.positional + d.count (.marks 1 placeholders)
  /-- No question mark stands in a part that is printed twice. -/
  once : ∀ repeats,
    d.count (.marks repeats placeholders) = d.count (.marks 1 placeholders)

namespace Advance

variable {first second : Doc} {c' c'' : Counters}

/-- A layout that holds no placeholder moves no counter. -/
theorem of_count_eq_zero (h : ∀ t, d.count t = 0) : d.Advance placeholders c c := by
  constructor <;> simp [h]

/-- Two layouts one after the other, in any combination of both. -/
theorem both (h : first.Advance placeholders c c')
    (h' : second.Advance placeholders c' c'')
    (hd : ∀ t, d.count t = first.count t + second.count t) :
    d.Advance placeholders c c'' := by
  constructor
  · rw [h'.next, h.next, hd, UInt64.ofNat_add, UInt64.add_assoc]
  · rw [h'.positional, h.positional, hd, Nat.add_assoc]
  · intro repeats
    rw [hd, hd, h.once, h'.once]

/-- A part that is printed twice has no question mark. -/
theorem twice {lead between : String} {e : Error}
    (h : first.Advance placeholders c c') (hmarks : c'.positional = c.positional) :
    (Doc.twice lead between first e).Advance placeholders c c' := by
  have hzero : first.count (.marks 1 placeholders) = 0 := by
    have hpositional := h.positional
    omega
  constructor
  · have hnumbers : (Tally.numbers placeholders).repeats = 1 := by
      cases placeholders <;> rfl
    rw [count_twice, hnumbers, Nat.one_mul]
    exact h.next
  · rw [count_twice, hzero, Nat.mul_zero]
    exact hmarks
  · intro repeats
    rw [count_twice, count_twice, h.once, hzero, Nat.mul_zero, Nat.mul_zero]

end Advance

/-- A run that succeeds moves the counters by what the layout counts. -/
theorem advance {d : Doc} (h : (d.run placeholders c).failure = none) :
    d.Advance placeholders c (d.run placeholders c).counters := by
  induction d generalizing c with
  | placeholder =>
      cases placeholders with
      | numbered => exact ⟨rfl, rfl, fun _ => rfl⟩
      | question => exact ⟨(UInt64.add_zero _).symm, rfl, fun _ => rfl⟩
  | question =>
      cases placeholders <;> exact ⟨(UInt64.add_zero _).symm, rfl, fun _ => rfl⟩
  | append first second ihFirst ihSecond =>
      obtain ⟨hfirst, hsecond, hrun⟩ := run_append h
      have hboth :=
        (ihFirst hfirst).both (ihSecond hsecond) (d := first ++ second) fun _ => rfl
      exact congrArg Run.counters hrun ▸ hboth
  | isolated d ih =>
      obtain ⟨hd, hrun⟩ := run_isolated h
      rw [hrun]
      exact ⟨(ih hd).next, (ih hd).positional, (ih hd).once⟩
  | beside separator first second ihFirst ihSecond =>
      obtain ⟨hfirst, hsecond, hrun⟩ := run_beside h
      rw [hrun]
      exact (ihFirst hfirst).both (ihSecond hsecond) fun _ => rfl
  | twice lead between part e ih =>
      obtain ⟨hpart, hmarks, hrun⟩ := run_twice h
      rw [hrun]
      exact (ih hpart).twice hmarks
  | _ => exact .of_count_eq_zero fun _ => rfl

end Doc

end SqlPrinter
