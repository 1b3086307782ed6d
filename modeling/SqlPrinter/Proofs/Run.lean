/-
The evaluation of a document without a writer.  It numbers the parameters, finds
the first fault and leaves a list of pieces, which the settings then turn into
text.  Neither the text printed before nor the marks around names play a part in
it.  Writing a document comes to the same: its pieces are added to the text.
-/
import SqlPrinter.Proofs.Character
import SqlPrinter.Writer

namespace SqlPrinter

/-- The smallest parts of a printed statement. -/
inductive Piece where
  | text (s : String)
  | verbatim (s : String)
  | name (s : String)
  | string (s : String)
  /-- The mark of a parameter that has been counted. -/
  | mark (s : String)

namespace Piece

/-- The text of a piece. -/
def toText (settings : Settings) : Piece → String
  | text s | verbatim s | mark s => s
  | name s => Ident.quote settings s
  | string s => Quoted.string s

/-- A piece that prints nothing; names and strings have their quotes at least. -/
def isEmpty : Piece → Bool
  | text s | verbatim s | mark s => s = ""
  | name _ | string _ => false

/-- The text of a list of pieces. -/
def textOf (settings : Settings) (pieces : List Piece) : String :=
  String.join (pieces.map (toText settings))

end Piece

/-- What an evaluation leaves behind: the pieces that stay, the counters, and
the fault that ended it, if one did.  The counters never go back. -/
structure Run where
  pieces : List Piece
  counters : Counters
  failure : Option Error

namespace Run

/-- Nothing of a run that failed. -/
def isolated (r : Run) : Run :=
  if r.failure.isSome then { r with pieces := [] } else r

/-- The text of a run, or the fault that ended it. -/
def answer (settings : Settings) (r : Run) : Except Error String :=
  match r.failure with
  | some e => .error e
  | none => .ok (Piece.textOf settings r.pieces)

/-- Go on where a run ended, unless it failed. -/
def andThen (r : Run) (next : Counters → Run) : Run :=
  match r.failure with
  | some _ => r
  | none =>
      let s := next r.counters
      { s with pieces := r.pieces ++ s.pieces }

/-- Go on where a run ended, and combine the pieces of both; if one of them
failed there are no pieces. -/
def combine (r : Run) (next : Counters → Run)
    (join : List Piece → List Piece → List Piece) : Run :=
  match r.failure with
  | some _ => { r with pieces := [] }
  | none =>
      let s := next r.counters
      match s.failure with
      | some _ => { s with pieces := [] }
      | none => { s with pieces := join r.pieces s.pieces }

end Run

/-- Two lists of pieces with a separator between them, or just one of them if
the other prints nothing. -/
def Piece.joinBeside (separator : String) (first second : List Piece) :
    List Piece :=
  if first.all isEmpty then second
  else if second.all isEmpty then first
  else first ++ .text separator :: second

/-- The next parameter in a style. -/
def Counters.placeholder (c : Counters) : PlaceholderStyle → Run
  | .numbered =>
      ⟨[.mark ("$" ++ toString c.next.toNat)], { c with next := c.next + 1 }, none⟩
  | .question => ⟨[.mark "?"], { c with positional := c.positional + 1 }, none⟩

/-- Evaluate a document. -/
def Doc.run (placeholders : PlaceholderStyle) : Doc → Counters → Run
  | empty, c => ⟨[], c, none⟩
  | text s, c => ⟨[.text s], c, none⟩
  | verbatim s, c => ⟨[.verbatim s], c, none⟩
  | name s, c => ⟨[.name s], c, none⟩
  | string s, c => ⟨[.string s], c, none⟩
  | placeholder, c => c.placeholder placeholders
  | question, c => c.placeholder .question
  | fail e, c => ⟨[], c, some e⟩
  | append first second, c =>
      (first.run placeholders c).andThen (second.run placeholders)
  | isolated d, c => (d.run placeholders c).isolated
  | beside separator first second, c =>
      (first.run placeholders c).combine (second.run placeholders)
        (Piece.joinBeside separator)
  | twice lead between part onQuestion, c =>
      (part.run placeholders c).combine
        (fun c' => ⟨[], c',
          if c'.positional = c.positional then none else some onQuestion⟩)
        (fun pieces _ => .text lead :: pieces ++ .text between :: pieces)

/-! ## Pieces and their text -/

theorem Quoted.wrap_ne_empty (opening closing : Char) (s : String) :
    wrap opening closing s ≠ "" := by
  intro h
  have hlist := congrArg String.toList h
  simp [wrap] at hlist

/-- A name that stands bare has a letter, and any other one has its marks. -/
theorem Ident.quote_ne_empty (settings : Settings) (s : String) :
    quote settings s ≠ "" := by
  have hspecial : isSpecial "" = false := by decide +kernel
  have hbare : staysBare settings.quote "" = false := by
    cases settings.quote with
    | always => rfl
    | smart preserveCase => simp [staysBare, isSimple]
  unfold quote
  dsimp only
  split
  · next h =>
      rw [ne_eq, Text.toUpper_eq_empty_iff]
      rintro rfl
      simp [hspecial] at h
  · split
    · next h =>
        intro hempty
        simp [hempty, hbare] at h
    · exact Quoted.wrap_ne_empty _ _ _

namespace Piece

variable (settings : Settings)

@[simp] theorem textOf_nil : textOf settings [] = "" :=
  rfl

theorem toText_eq_empty_iff (p : Piece) :
    p.toText settings = "" ↔ p.isEmpty = true := by
  cases p with
  | name s => simpa [toText, isEmpty] using Ident.quote_ne_empty settings s
  | string s => simp [toText, isEmpty, Quoted.string, Quoted.wrap_ne_empty]
  | _ => simp [toText, isEmpty]

theorem textOf_cons (p : Piece) (ps : List Piece) :
    textOf settings (p :: ps) = p.toText settings ++ textOf settings ps := by
  simp [textOf]

theorem textOf_eq_empty_iff (ps : List Piece) :
    textOf settings ps = "" ↔ ps.all isEmpty = true := by
  induction ps with
  | nil => simp [textOf]
  | cons p ps ih =>
      rw [textOf_cons, String.append_eq_empty_iff, toText_eq_empty_iff, ih,
        List.all_cons, Bool.and_eq_true]

theorem textOf_append (ps qs : List Piece) :
    textOf settings (ps ++ qs) = textOf settings ps ++ textOf settings qs := by
  simp [textOf]

end Piece

/-- The text of two pieces is that of one of them if the other is empty. -/
theorem Fragments.join_pair (separator s t : String) :
    (ofList [s, t]).join separator =
      if s = "" then t else if t = "" then s else s ++ separator ++ t := by
  by_cases hs : s = "" <;> by_cases ht : t = "" <;>
    simp [ofList, push, empty, join, hs, ht]

theorem Piece.textOf_joinBeside (settings : Settings) (separator : String)
    (ps qs : List Piece) : textOf settings (joinBeside separator ps qs) =
      (Fragments.ofList [textOf settings ps, textOf settings qs]).join
        separator := by
  simp only [joinBeside, Fragments.join_pair, textOf_eq_empty_iff]
  repeat' split
  · rfl
  · rfl
  · rw [textOf_append, textOf_cons, toText, String.append_assoc]

/-! ## What is written -/

namespace Writer

variable (settings : Settings)

/-- A writer that has added the pieces of a run to its text. -/
def add (w : Writer) (r : Run) : Option Error × Writer :=
  (r.failure,
    { w with
      buffer := w.buffer ++ Piece.textOf settings r.pieces
      counters := r.counters })

/-- The text that is split off is that of the pieces, and the text of
before stays. -/
theorem capture_write {d : Doc}
    (h : ∀ w : Writer,
      w.write settings d = w.add settings (d.run w.placeholders w.counters))
    (w : Writer) :
    w.capture (write settings · d) =
      ((d.run w.placeholders w.counters).answer settings,
        { w with counters := (d.run w.placeholders w.counters).counters }) := by
  simp only [capture, h, add, String.toList_append, ← String.length_toList,
    List.drop_left, List.take_left, String.ofList_toList]
  rfl

/-- To write a document is to add the pieces that it is evaluated to. -/
theorem write_eq (w : Writer) (d : Doc) :
    w.write settings d = w.add settings (d.run w.placeholders w.counters) := by
  induction d generalizing w with
  | empty => simp [write, Doc.run, add]
  | text s => simp [write, Doc.run, add, push, Piece.textOf, Piece.toText]
  | verbatim s => simp [write, Doc.run, add, push, Piece.textOf, Piece.toText]
  | name s => simp [write, Doc.run, add, push, Piece.textOf, Piece.toText]
  | string s => simp [write, Doc.run, add, push, Piece.textOf, Piece.toText]
  | placeholder =>
      rcases w with ⟨buffer, counters, _ | _⟩ <;>
        simp [write, Doc.run, add, pushPlaceholder, pushQuestion, push,
          Counters.placeholder, Piece.textOf, Piece.toText]
  | question =>
      simp [write, Doc.run, add, pushQuestion, push, Counters.placeholder,
        Piece.textOf, Piece.toText]
  | fail e => simp [write, Doc.run, add]
  | append first second ihFirst ihSecond =>
      rw [write, Doc.run, ihFirst]
      rcases first.run w.placeholders w.counters with ⟨pieces, counters, _ | e⟩
      · simp [add, Run.andThen, ihSecond, Piece.textOf_append, String.append_assoc]
      · rfl
  | isolated d ih =>
      rw [write, Doc.run, capture_write settings ih]
      rcases d.run w.placeholders w.counters with ⟨pieces, counters, _ | e⟩ <;>
        simp [andThen, add, Run.answer, Run.isolated, push]
  | beside separator first second ihFirst ihSecond =>
      rw [write, Doc.run, capture_write settings ihFirst]
      rcases first.run w.placeholders w.counters with ⟨pieces, counters, _ | e⟩
      · simp only [andThen, Run.answer, capture_write settings ihSecond,
          Run.combine]
        rcases second.run w.placeholders counters with
          ⟨pieces', counters', _ | e⟩ <;>
          simp [add, push, Piece.textOf_joinBeside]
      · simp [andThen, add, Run.answer, Run.combine]
  | twice lead between part onQuestion ih =>
      rw [write, Doc.run, capture_write settings ih]
      rcases part.run w.placeholders w.counters with ⟨pieces, counters, _ | e⟩
      · simp only [andThen, Run.answer, Run.combine]
        by_cases hmarks : counters.positional = w.counters.positional <;>
          simp [hmarks, add, push, Piece.textOf_append, Piece.textOf_cons,
            Piece.toText, String.append_assoc]
      · simp [andThen, add, Run.answer, Run.combine]

end Writer

/-- A document that is printed on its own has the text of its pieces. -/
theorem Doc.print_eq_run (d : Doc) (settings : Settings) :
    d.print settings = (d.run settings.placeholders .start).answer settings := by
  rw [print, Writer.write_eq, Writer.add, Writer.fresh, Run.answer]
  cases (d.run settings.placeholders .start).failure <;> simp

end SqlPrinter
