/-
What can be seen of a layout without evaluating it: the names in it and the points
at which printing has to stop.  A layout is printed only if it has no such point,
and then the names that are printed are the names in it.
-/
import Mathlib.Tactic.Simproc.ExistsAndEq
import Mathlib.Tactic.Tauto
import SqlPrinter.Proofs.Count

namespace SqlPrinter

/-- What to look for in a layout. -/
structure Sight where
  /-- A name. -/
  name : String → Prop
  /-- A point at which printing has to stop. -/
  fault : Prop

namespace Sight

/-- Look for a name without a character. -/
def blank : Sight :=
  ⟨(· = ""), False⟩

/-- Look for a point at which printing has to stop. -/
def stop : Sight :=
  ⟨fun _ => False, True⟩

@[simp] theorem blank_name (s : String) : blank.name s ↔ s = "" := Iff.rfl

@[simp] theorem blank_fault : ¬ blank.fault := not_false

@[simp] theorem stop_name (s : String) : ¬ stop.name s := not_false

@[simp] theorem stop_fault : stop.fault := trivial

end Sight

/-- A text that counts as present is not empty. -/
theorem Text.ne_empty_of_nonEmpty {o : Option String} {s : String}
    (h : nonEmpty o = some s) : s ≠ "" := by
  simpa using (Option.filter_eq_some_iff.1 h).2

@[simp] theorem Text.nonEmpty_ne_some_empty (o : Option String) :
    nonEmpty o ≠ some "" :=
  fun h => ne_empty_of_nonEmpty h rfl

namespace Doc

variable (v : Sight)

/-- What is looked for is in a layout. -/
def Shows : Doc → Prop
  | name s => v.name s
  | fail _ => v.fault
  | append first second => first.Shows ∨ second.Shows
  | isolated d => d.Shows
  | beside _ first second => first.Shows ∨ second.Shows
  | twice _ _ part _ => part.Shows
  | empty | text _ | verbatim _ | string _ | placeholder | question => False

/-- What is looked for is in one of several layouts. -/
def ShowsSome (ds : List Doc) : Prop :=
  ∃ d ∈ ds, d.Shows v

/-! ## Layouts and their parts -/

@[simp] theorem showsSome_nil : ¬ ShowsSome v [] := by
  simp [ShowsSome]

@[simp] theorem showsSome_cons (d : Doc) (ds : List Doc) :
    ShowsSome v (d :: ds) ↔ d.Shows v ∨ ShowsSome v ds := by
  simp [ShowsSome]

@[simp] theorem showsSome_append (ds es : List Doc) :
    ShowsSome v (ds ++ es) ↔ ShowsSome v ds ∨ ShowsSome v es := by
  simp [ShowsSome, or_and_right, exists_or]

@[simp] theorem shows_empty : ¬ empty.Shows v := not_false

@[simp] theorem shows_text (s : String) : ¬ (text s).Shows v := not_false

@[simp] theorem shows_verbatim (s : String) : ¬ (verbatim s).Shows v := not_false

@[simp] theorem shows_string (s : String) : ¬ (string s).Shows v := not_false

@[simp] theorem shows_placeholder : ¬ placeholder.Shows v := not_false

@[simp] theorem shows_question : ¬ question.Shows v := not_false

@[simp] theorem shows_name (s : String) : (name s).Shows v ↔ v.name s := Iff.rfl

@[simp] theorem shows_fail (e : Error) : (fail e).Shows v ↔ v.fault := Iff.rfl

@[simp] theorem shows_append (d e : Doc) :
    (d ++ e).Shows v ↔ d.Shows v ∨ e.Shows v := Iff.rfl

@[simp] theorem shows_isolated (d : Doc) :
    (isolated d).Shows v ↔ d.Shows v := Iff.rfl

/-- What is printed twice shows what its part shows. -/
@[simp] theorem shows_twice (lead between : String) (part : Doc) (e : Error) :
    (twice lead between part e).Shows v ↔ part.Shows v := Iff.rfl

/-- A row shows what some member of it shows. -/
@[simp] theorem shows_concat (ds : List Doc) :
    (concat ds).Shows v ↔ ShowsSome v ds := by
  induction ds with
  | nil => simp [concat]
  | cons d ds ih => simp [concat, ih]

/-- Nothing is added to a layout that is looked for. -/
theorem showsSome_map {g : Doc → Doc} (hg : ∀ d, (g d).Shows v ↔ d.Shows v)
    (ds : List Doc) : ShowsSome v (ds.map g) ↔ ShowsSome v ds := by
  simp [ShowsSome, hg]

/-- Separators show nothing, so the members decide. -/
theorem shows_joined {separator : Doc} (hs : ¬ separator.Shows v) (ds : List Doc) :
    (joined separator ds).Shows v ↔ ShowsSome v ds := by
  cases ds with
  | nil => simp [joined]
  | cons d ds =>
      simp [joined, showsSome_map v (g := (separator ++ ·)) (by simp [hs])]

@[simp] theorem shows_sepBy (s : String) (ds : List Doc) :
    (sepBy s ds).Shows v ↔ ShowsSome v ds :=
  shows_joined v (shows_text v s) ds

@[simp] theorem shows_commas (ds : List Doc) :
    (commas ds).Shows v ↔ ShowsSome v ds :=
  shows_sepBy v ", " ds

@[simp] theorem shows_parens (d : Doc) : (parens d).Shows v ↔ d.Shows v := by
  simp [parens]

/-- A line of fragments shows what some fragment shows. -/
@[simp] theorem shows_fragments (s : String) (ds : List Doc) :
    (fragments s ds).Shows v ↔ ShowsSome v ds := by
  induction ds with
  | nil => simp [fragments]
  | cons d ds ih => rw [fragments, Shows, ih, showsSome_cons]

@[simp] theorem shows_optional (o : Option Doc) :
    (optional o).Shows v ↔ ShowsSome v o.toList := by
  cases o <;> simp [optional]

@[simp] theorem shows_clause (s : String) (o : Option Doc) :
    (clause s o).Shows v ↔ ShowsSome v o.toList := by
  cases o <;> simp [clause]

@[simp] theorem shows_textIf (condition : Bool) (s : String) :
    ¬ (textIf condition s).Shows v := by
  cases condition <;> simp [textIf]

@[simp] theorem shows_require (filled : Bool) (node field : String) :
    (require filled node field).Shows v ↔ filled = false ∧ v.fault := by
  cases filled <;> simp [require]

@[simp] theorem shows_requireText (s node field : String) :
    (requireText s node field).Shows v ↔ s = "" ∧ v.fault := by
  simp [requireText]

@[simp] theorem shows_number (n : UInt64) : ¬ (number n).Shows v :=
  shows_text v _

@[simp] theorem shows_word (s : String) : ¬ (word s).Shows v :=
  shows_verbatim v _

@[simp] theorem shows_words (ss : List String) : ¬ (words ss).Shows v := by
  simp [words, ShowsSome]

@[simp] theorem shows_path (ss : List String) :
    (path ss).Shows v ↔ ∃ s ∈ ss, v.name s := by
  simp [path, ShowsSome]

/-- None of the names in a list may be empty. -/
@[simp] theorem shows_names (node field : String) (ss : List String) :
    (names node field ss).Shows v ↔ "" ∈ ss ∧ v.fault ∨ ∃ s ∈ ss, v.name s := by
  have hone (s : String) :
      (requireText s node field ++ text ", " ++ name s).Shows v ↔
      s = "" ∧ v.fault ∨ v.name s := by
    simp
  cases ss with
  | nil => simp [names]
  | cons s ss =>
      have hrest :
          ShowsSome v (ss.map fun s => requireText s node field ++ text ", " ++
            name s) ↔
          "" ∈ ss ∧ v.fault ∨ ∃ s ∈ ss, v.name s := by
        simp only [ShowsSome, List.mem_map, exists_exists_and_eq_and, hone,
          and_or_left, exists_or]
        simp
      simp only [names, shows_append, shows_requireText, shows_name,
        shows_concat, hrest, List.mem_cons, exists_eq_or_imp, eq_comm (a := "")]
      tauto

/-- A second name that is printed is not empty. -/
@[simp] theorem shows_rename (withAs : Bool) (second : Option String) :
    (rename withAs second).Shows v ↔ ∃ s, Text.nonEmpty second = some s ∧
      v.name s := by
  unfold rename
  cases Text.nonEmpty second <;> simp

/-! ## Evaluation -/

theorem shows_stop_iff (d : Doc) : d.Shows .stop ↔ d.hasFault = true := by
  induction d with
  | append first second ihFirst ihSecond =>
      simp [Shows, hasFault, ihFirst, ihSecond]
  | beside separator first second ihFirst ihSecond =>
      simp [Shows, hasFault, ihFirst, ihSecond]
  | isolated d ih => exact ih
  | twice lead between part e ih => exact ih
  | _ => simp [Shows, hasFault]

variable {placeholders : PlaceholderStyle} {c : Counters} {d : Doc}

/-- A layout that is printed has no point at which printing has to stop. -/
theorem not_shows_stop (h : (d.run placeholders c).failure = none) :
    ¬ d.Shows .stop := by
  rw [shows_stop_iff, hasFault_eq_false h]
  exact Bool.false_ne_true

theorem name_mem_joinBeside {separator s : String} {ps qs : List Piece} :
    .name s ∈ Piece.joinBeside separator ps qs ↔ .name s ∈ ps ∨ .name s ∈ qs := by
  have hnot (ps : List Piece) (h : ps.all Piece.isEmpty = true) : .name s ∉ ps :=
    fun hmem => absurd (List.all_eq_true.1 h _ hmem) (by simp [Piece.isEmpty])
  unfold Piece.joinBeside
  split
  · next h => simp [hnot ps h]
  · split
    · next h => simp [hnot qs h]
    · simp

/-- The names that are printed are those in the layout. -/
theorem exists_name_mem_pieces {P : String → Prop}
    (h : (d.run placeholders c).failure = none) :
    (∃ s, .name s ∈ (d.run placeholders c).pieces ∧ P s) ↔ d.Shows ⟨P, False⟩ := by
  induction d generalizing c with
  | append first second ihFirst ihSecond =>
      obtain ⟨hfirst, hsecond, hrun⟩ := run_append h
      change (∃ s, .name s ∈ ((first ++ second).run placeholders c).pieces ∧ P s) ↔
        _
      rw [hrun, Shows, ← ihFirst hfirst, ← ihSecond hsecond]
      simp [or_and_right, exists_or]
  | isolated d ih =>
      obtain ⟨hd, hrun⟩ := run_isolated h
      rw [hrun]
      exact ih hd
  | beside separator first second ihFirst ihSecond =>
      obtain ⟨hfirst, hsecond, hrun⟩ := run_beside h
      rw [hrun, Shows, ← ihFirst hfirst, ← ihSecond hsecond]
      simp [name_mem_joinBeside, or_and_right, exists_or]
  | twice lead between part e ih =>
      obtain ⟨hpart, -, hrun⟩ := run_twice h
      rw [hrun, Shows, ← ih hpart]
      simp
  | placeholder | question =>
      cases placeholders <;> simp [Shows, run, Counters.placeholder]
  | _ => simp [Shows, run]

end Doc

end SqlPrinter
