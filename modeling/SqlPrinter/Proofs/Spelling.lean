/-
Layouts with one text.  A layout without a fault and without a bound parameter is
printed in the same way wherever it stands, and its text is put together from the
texts of its parts.
-/
import SqlPrinter.Proofs.Skeleton

namespace SqlPrinter

/-- Texts in a row, with a separator before each but the first. -/
def Text.joined {α : Type} (separator : List Char) (write : α → List Char) :
    List α → List Char
  | [] => []
  | a :: as => write a ++ as.flatMap fun b => separator ++ write b

/-- Joined texts are equal where their members are written alike. -/
theorem Text.joined_congr {α : Type} {separator : List Char}
    {write write' : α → List Char} {as : List α}
    (h : ∀ a ∈ as, write a = write' a) :
    joined separator write as = joined separator write' as := by
  cases as with
  | nil => rfl
  | cons a as =>
      obtain ⟨ha, has⟩ := List.forall_mem_cons.1 h
      have hsame :=
        List.map_congr_left fun b hb => congrArg (separator ++ ·) (has b hb)
      rw [joined, joined, ha, List.flatMap_def, hsame, List.flatMap_def]

namespace Doc

/-- Neither a fault nor a bound parameter is in the layout, nor a part whose
separator depends on what it prints. -/
def IsFixed : Doc → Prop
  | empty | text _ | verbatim _ | name _ | string _ | question => True
  | append first second => first.IsFixed ∧ second.IsFixed
  | isolated d => d.IsFixed
  | placeholder | fail _ | beside _ _ _ | twice _ _ _ _ => False

/-- The characters of a fixed layout. -/
def chars (settings : Settings) : Doc → List Char
  | text s | verbatim s => s.toList
  | name s => (Ident.quote settings s).toList
  | string s => (Quoted.string s).toList
  | question => ['?']
  | append first second => first.chars settings ++ second.chars settings
  | isolated d => d.chars settings
  | empty | placeholder | fail _ | beside _ _ _ | twice _ _ _ _ => []

variable {settings : Settings} {d e : Doc}

@[simp] theorem isFixed_append : (d ++ e).IsFixed ↔ d.IsFixed ∧ e.IsFixed :=
  Iff.rfl

@[simp] theorem isFixed_empty : Doc.empty.IsFixed :=
  trivial

@[simp] theorem isFixed_text (s : String) : (Doc.text s).IsFixed :=
  trivial

@[simp] theorem isFixed_name (s : String) : (Doc.name s).IsFixed :=
  trivial

@[simp] theorem isFixed_string (s : String) : (Doc.string s).IsFixed :=
  trivial

@[simp] theorem isFixed_question : Doc.question.IsFixed :=
  trivial

@[simp] theorem isFixed_number (n : UInt64) : (Doc.number n).IsFixed :=
  trivial

@[simp] theorem isFixed_parens : (Doc.parens d).IsFixed ↔ d.IsFixed := by
  simp [parens]

/-- A row of fixed layouts is fixed. -/
theorem isFixed_concat {ds : List Doc} (h : ∀ d ∈ ds, d.IsFixed) :
    (concat ds).IsFixed := by
  induction ds with
  | nil => trivial
  | cons d ds ih =>
      obtain ⟨hd, hds⟩ := List.forall_mem_cons.1 h
      exact ⟨hd, ih hds⟩

theorem isFixed_sepBy {separator : String} {ds : List Doc}
    (h : ∀ d ∈ ds, d.IsFixed) : (sepBy separator ds).IsFixed := by
  cases ds with
  | nil => trivial
  | cons d ds =>
      obtain ⟨hd, hds⟩ := List.forall_mem_cons.1 h
      refine ⟨hd, isFixed_concat fun e he => ?_⟩
      obtain ⟨d', hd', rfl⟩ := List.mem_map.1 he
      exact ⟨trivial, hds d' hd'⟩

@[simp] theorem chars_append :
    (d ++ e).chars settings = d.chars settings ++ e.chars settings :=
  rfl

@[simp] theorem chars_empty : Doc.empty.chars settings = [] :=
  rfl

@[simp] theorem chars_text (s : String) : (Doc.text s).chars settings = s.toList :=
  rfl

@[simp] theorem chars_name (s : String) :
    (Doc.name s).chars settings = (Ident.quote settings s).toList :=
  rfl

@[simp] theorem chars_string (s : String) :
    (Doc.string s).chars settings = (Quoted.string s).toList :=
  rfl

@[simp] theorem chars_question : Doc.question.chars settings = ['?'] :=
  rfl

@[simp] theorem chars_number (n : UInt64) :
    (Doc.number n).chars settings = (toString n.toNat).toList :=
  rfl

@[simp] theorem chars_parens :
    (parens d).chars settings = '(' :: (d.chars settings ++ [')']) := by
  simp [parens]

/-- The characters of a row are those of its members, in order. -/
theorem chars_concat (ds : List Doc) :
    (concat ds).chars settings = ds.flatMap (chars settings) := by
  induction ds with
  | nil => rfl
  | cons d ds ih => rw [concat, chars_append, ih, List.flatMap_cons]

/-- The characters of a list are those of its members with separators between
them. -/
theorem chars_sepBy {α : Type} (separator : String) (doc : α → Doc) (as : List α) :
    (sepBy separator (as.map doc)).chars settings =
      Text.joined separator.toList (fun a => (doc a).chars settings) as := by
  cases as with
  | nil => rfl
  | cons a as =>
      rw [List.map_cons, sepBy, joined, chars_append, chars_concat,
        List.flatMap_map, List.flatMap_map]
      rfl

/-- Nothing is printed where a node is filled in. -/
@[simp] theorem require_true (node field : String) :
    require true node field = .empty :=
  rfl

/-- A fixed layout has its text after whatever has been printed before, and however
bound parameters are spelled. -/
theorem IsFixed.run (settings : Settings) (h : d.IsFixed)
    (placeholders : PlaceholderStyle) (c : Counters) :
    (d.run placeholders c).failure = none ∧
      (Piece.textOf settings (d.run placeholders c).pieces).toList =
        d.chars settings := by
  induction d generalizing c with
  | empty => exact ⟨rfl, rfl⟩
  | text s | verbatim s | name s | string s =>
      exact ⟨rfl, by simp [Doc.run, Piece.textOf, Piece.toText, chars]⟩
  | question =>
      exact ⟨rfl, by simp [Doc.run, Counters.placeholder, Piece.textOf,
        Piece.toText, chars]⟩
  | append first second hfirst hsecond =>
      obtain ⟨hok, htext⟩ := hfirst h.1 c
      obtain ⟨hok', htext'⟩ := hsecond h.2 (first.run placeholders c).counters
      simp only [Doc.run, Run.andThen, hok]
      exact ⟨hok', by rw [Piece.textOf_append, String.toList_append, htext,
        htext', chars]⟩
  | isolated d ih =>
      obtain ⟨hok, htext⟩ := ih h c
      rw [Doc.run, Run.isolated, hok]
      exact ⟨hok, htext⟩
  | placeholder | fail _ | beside _ _ _ _ _ | twice _ _ _ _ _ => exact h.elim

/-- A fixed layout is printed. -/
theorem IsFixed.print {settings : Settings} (h : d.IsFixed) :
    d.print settings = .ok (String.ofList (d.chars settings)) := by
  obtain ⟨hok, htext⟩ := h.run settings settings.placeholders .start
  rw [Doc.print_eq_run, Run.answer]
  simp only [hok, ← htext, String.ofList_toList]

end Doc

end SqlPrinter
