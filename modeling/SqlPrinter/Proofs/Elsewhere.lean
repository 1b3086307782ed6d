/-
What a writer has written before plays no part in what it writes next: it gains what
a blank writer with the same next number would gain.  A text may therefore be taken
out of one place and written to another, and to capture a text and to write it then
is the same as to write it at once.
-/
import Mathlib.Data.Nat.Basic
import SqlPrinter.Layout.Query
import SqlPrinter.Writer

namespace SqlPrinter

/-! ## Question marks that have been counted before -/

/-- The counters with some question marks more. -/
def Counters.raise (marks : Nat) (c : Counters) : Counters :=
  { c with positional := c.positional + marks }

namespace Writer

/-! ## A writer and a blank one -/

/-- A writer with the next number and the style of parameters, and nothing else. -/
def blank (w : Writer) : Writer :=
  ⟨"", ⟨w.counters.next, 0⟩, w.placeholders⟩

/-- What one writer has gained after what another one has had before. -/
def after (before gained : Writer) : Writer :=
  { gained with
    buffer := before.buffer ++ gained.buffer
    counters := gained.counters.raise before.counters.positional }

/-- A writer is what it holds, after a blank one in the same state. -/
theorem after_blank (w : Writer) : w.after w.blank = w := by
  simp [after, blank, Counters.raise]

/-- A push goes to the later writer. -/
theorem after_push (w v : Writer) (s : String) :
    (w.after v).push s = w.after (v.push s) := by
  simp [after, push, String.append_assoc]

theorem after_pushQuestion (w v : Writer) :
    (w.after v).pushQuestion = w.after v.pushQuestion := by
  simp [after, pushQuestion, push, Counters.raise, String.append_assoc,
    Nat.add_right_comm]

/-- A placeholder goes to the later writer, since it has the counters. -/
theorem after_pushPlaceholder (w v : Writer) :
    (w.after v).pushPlaceholder = w.after v.pushPlaceholder := by
  rcases v with ⟨buffer, counters, _ | _⟩
  · simp [after, pushPlaceholder, push, Counters.raise, String.append_assoc]
  · exact after_pushQuestion w _

/-- The text is split at a place that lies behind the text of before. -/
theorem after_capture {w v : Writer} {act : Writer → Option Error × Writer}
    (hact : act (w.after v) = (act v).map id w.after) :
    (w.after v).capture act = (v.capture act).map id w.after := by
  have hstart :
      (w.after v).buffer.length = w.buffer.toList.length + v.buffer.length := by
    rw [after, String.length_append, String.length_toList]
  have htext : (act (w.after v)).2.buffer.toList =
      w.buffer.toList ++ (act v).2.buffer.toList := by
    rw [hact]
    exact String.toList_append
  have hanswer : (act (w.after v)).1 = (act v).1 := by
    rw [hact]
    rfl
  unfold capture
  simp only [hstart, htext, hanswer, List.take_length_add_append,
    List.drop_length_add_append, String.ofList_append, String.ofList_toList]
  rw [hact]
  rfl

/-- Going on with a text that was handed over. -/
theorem after_andThen {w : Writer} {captured : Except Error String × Writer}
    {next next' : String → Writer → Option Error × Writer}
    (hnext : ∀ text v, next text (w.after v) = (next' text v).map id w.after) :
    andThen (captured.map id w.after) next =
      (andThen captured next').map id w.after := by
  rcases captured with ⟨_ | text, v⟩
  · rfl
  · exact hnext text v

/-- A document is written in the same way whatever was written before.  Captures
start where the text ended, and a part that is printed twice compares the number of
question marks with what it was, not with zero. -/
theorem after_write (settings : Settings) (w v : Writer) (d : Doc) :
    (w.after v).write settings d = (v.write settings d).map id w.after := by
  induction d generalizing v with
  | empty | fail e => rfl
  | text s | verbatim s | name s | string s => simp [write, after_push]
  | placeholder => simp [write, after_pushPlaceholder]
  | question => simp [write, after_pushQuestion]
  | append first second ihFirst ihSecond =>
      rw [write, write, ihFirst]
      rcases v.write settings first with ⟨_ | e, u⟩
      · exact ihSecond u
      · rfl
  | isolated d ih =>
      rw [write, write, after_capture (ih v)]
      exact after_andThen fun text u => by simp [after_push]
  | beside separator first second ihFirst ihSecond =>
      rw [write, write, after_capture (ihFirst v)]
      refine after_andThen fun text u => ?_
      rw [after_capture (ihSecond u)]
      exact after_andThen fun text' u => by simp [after_push]
  | twice lead between part onQuestion ih =>
      rw [write, write, after_capture (ih v)]
      refine after_andThen fun text u => ?_
      have hmarks :
          (w.after u).counters.positional = (w.after v).counters.positional ↔
          u.counters.positional = v.counters.positional := Nat.add_right_cancel_iff
      simp only [hmarks, after_push]
      split <;> rfl

/-- The answer to a write does not depend on what the buffer held before. -/
theorem written_map (r : Option Error × Writer) (f : Writer → Writer) :
    written (r.map id f) = (written r).map id f := by
  rcases r with ⟨_ | _, _⟩ <;> rfl

theorem handedOver_map (r : Except Error String × Writer) (f : Writer → Writer) :
    handedOver (r.map id f) = (handedOver r).map id f :=
  rfl

section Steps

variable (settings : Settings)

mutual

/-- One step after another writer is the step itself, with the text of the other in
front. -/
theorem after_step (w : Writer) : (op : Op) → (v : Writer) →
    step settings op (w.after v) = (step settings op v).map id w.after
  | .push s, v => by simp [step, after_push]
  | .pushChar c, v => by simp [step, after_push]
  | .pushNumber n, v => by simp [step, after_push]
  | .separate item separator, v => by
      simp only [step]
      split
      · rfl
      · simp [after_push]
  | .placeholder, v => by rw [step, step, after_pushPlaceholder, Prod.map_apply, id]
  | .question, v => by rw [step, step, after_pushQuestion, Prod.map_apply, id]
  | .setNext n, v => rfl
  | .setPlaceholders placeholders, v => rfl
  | .write d, v => by rw [step, step, after_write, written_map]
  | .textOf d, v => by
      rw [step, step, after_capture (after_write settings w v d), handedOver_map]
  | .capture ops, v => by
      rw [step, step, after_capture (after_steps w ops v), handedOver_map]
  | .fail e, v => rfl

/-- Any number of steps after another writer are the steps themselves: by
`after_step`, step after step. -/
theorem after_steps (w : Writer) : (ops : List Op) → (v : Writer) →
    steps settings ops (w.after v) = (steps settings ops v).map id w.after
  | [], v => rfl
  | op :: ops, v => by
      simp only [steps]
      rw [after_step w op v]
      rcases step settings op v with ⟨_ | _, u⟩
      · rfl
      · exact after_steps w ops u

end

/-- Steps that go on after a failure. -/
theorem after_session (w : Writer) (ops : List Op) (v : Writer) :
    session settings ops (w.after v) =
      ((session settings ops v).1.map (·.map id w.after),
        w.after (session settings ops v).2) := by
  induction ops generalizing v with
  | nil => rfl
  | cons op ops ih =>
      simp only [session, after_step settings w op v]
      rw [Prod.map_snd, ih]
      rfl

end Steps

/-! ## Two writers -/

/-- The next parameter looks the same in both writers. -/
structure Alike (w w' : Writer) : Prop where
  next : w.counters.next = w'.counters.next
  placeholders : w.placeholders = w'.placeholders

/-- Each of two writers has gained the same text and has counted the same number of
question marks, and their next parameters look the same. -/
structure GainAlike (w w' v v' : Writer) : Prop where
  text : ∃ added, v.buffer = w.buffer ++ added ∧ v'.buffer = w'.buffer ++ added
  marks : ∃ marks, v.counters.positional = w.counters.positional + marks ∧
    v'.counters.positional = w'.counters.positional + marks
  alike : v.Alike v'

/-- To capture what is done to a writer and to write the text then comes to the same
as to do it, and it fails with the same fault. -/
structure Transparent (w : Writer) (act : Writer → Option Error × Writer) :
    Prop where
  push : ∀ text v, w.capture act = (.ok text, v) → act w = (none, v.push text)
  failure : ∀ e, (w.capture act).1 = .error e ↔ (act w).1 = some e

/-- Writers that are alike differ in their text only. -/
theorem Alike.blank_eq {w w' : Writer} (h : w.Alike w') : w.blank = w'.blank := by
  unfold blank
  rw [h.next, h.placeholders]

theorem gainAlike_after (w w' v : Writer) :
    GainAlike w w' (w.after v) (w'.after v) where
  text := ⟨v.buffer, rfl, rfl⟩
  marks := ⟨v.counters.positional, Nat.add_comm _ _, Nat.add_comm _ _⟩
  alike := ⟨rfl, rfl⟩

section Uses

variable (settings : Settings)

/-- To take a step is to let a blank writer take it, and to add what
that one gains. -/
theorem step_eq_blank (op : Op) (w : Writer) :
    step settings op w = (step settings op w.blank).map id w.after := by
  conv => lhs; rw [← w.after_blank, after_step]

/-- A run of steps is the run from a blank writer, put after the text that was
there. -/
theorem steps_eq_blank (ops : List Op) (w : Writer) :
    steps settings ops w = (steps settings ops w.blank).map id w.after := by
  conv => lhs; rw [← w.after_blank, after_steps]

/-- The answers of a session and what it adds are those of a session from a blank
writer. -/
theorem session_eq_blank (ops : List Op) (w : Writer) :
    session settings ops w =
      ((session settings ops w.blank).1.map (·.map id w.after),
        w.after (session settings ops w.blank).2) := by
  conv => lhs; rw [← w.after_blank, after_session]

/-- A blank writer has no text to split off from. -/
theorem capture_blank (w : Writer) (act : Writer → Option Error × Writer) :
    w.blank.capture act =
      ((match (act w.blank).1 with
        | some e => .error e
        | none => .ok (act w.blank).2.buffer),
        { (act w.blank).2 with buffer := "" }) := by
  have hstart : w.blank.buffer.length = 0 := rfl
  cases h : (act w.blank).1 <;> simp [capture, hstart, h]

/-- Pushing a captured text gives what would have been written without the
capture. -/
theorem push_after_captured (w v : Writer) :
    (w.after { v with buffer := "" }).push v.buffer = w.after v := by
  rw [after_push, push, String.empty_append]

/-- What gains what a blank writer gains may be captured and written then. -/
theorem transparent_of_after {w : Writer} {act : Writer → Option Error × Writer}
    (hact : act (w.after w.blank) = (act w.blank).map id w.after) :
    w.Transparent act := by
  have hcapture : w.capture act = (w.blank.capture act).map id w.after := by
    conv => lhs; rw [← w.after_blank, after_capture hact]
  rw [capture_blank] at hcapture
  rw [after_blank] at hact
  rcases h : act w.blank with ⟨_ | fault, gained⟩
  · rw [h] at hact hcapture
    refine ⟨fun text v htext => ?_, fun e => by simp [hact, hcapture]⟩
    rw [hcapture] at htext
    obtain ⟨rfl, rfl⟩ :
      gained.buffer = text ∧ w.after { gained with buffer := "" } = v := by
      simpa using htext
    rw [hact, push_after_captured]
    rfl
  · rw [h] at hact hcapture
    constructor <;> simp [hact, hcapture]

end Uses

/-- What is written does not depend on what was written before: two writers whose
next parameters look the same give the same answers and gain the same, in every
step, in every sequence of steps that ends at the first fault and in every sequence
that goes on after one.  To capture the text of a document or of some steps makes no
difference to it.  A document is the layout of any node; one kind of step writes its
text, another one hands it over. -/
theorem used_alike (settings : Settings) {w w' : Writer} (h : w.Alike w') :
    (∀ op, (step settings op w).1 = (step settings op w').1 ∧
      GainAlike w w' (step settings op w).2 (step settings op w').2) ∧
    (∀ ops, (steps settings ops w).1 = (steps settings ops w').1 ∧
      GainAlike w w' (steps settings ops w).2 (steps settings ops w').2) ∧
    (∀ ops, (session settings ops w).1.map Prod.fst =
        (session settings ops w').1.map Prod.fst ∧
      GainAlike w w' (session settings ops w).2 (session settings ops w').2) ∧
    (∀ d, w.Transparent (·.write settings d)) ∧
    ∀ ops, w.Transparent (steps settings ops) := by
  refine ⟨fun op => ?_, fun ops => ?_, fun ops => ?_,
    fun d => transparent_of_after (after_write settings w _ d),
    fun ops => transparent_of_after (after_steps settings w ops _)⟩
  · rw [step_eq_blank, step_eq_blank settings op w', h.blank_eq]
    exact ⟨rfl, gainAlike_after w w' _⟩
  · rw [steps_eq_blank, steps_eq_blank settings ops w', h.blank_eq]
    exact ⟨rfl, gainAlike_after w w' _⟩
  · rw [session_eq_blank, session_eq_blank settings ops w', h.blank_eq]
    exact ⟨by simp, gainAlike_after w w' _⟩

/-- A call with a number and a question mark, handed over by a writer that has
counted a question mark and by one that has counted none. -/
theorem used_alike_call :
    let settings := (Settings.ofDialect .postgres)
    let op : Op := .textOf (Layout.functionCall settings
      (.ofArgs "f" [.parameter .bind, .parameter .question]))
    let w : Writer := ⟨"SELECT ?, ", ⟨5, 1⟩, .numbered⟩
    let w' : Writer := ⟨"", ⟨5, 0⟩, .numbered⟩
    w.Alike w' ∧ (step settings op w).1 = .ok (some "f($5, ?)") ∧
      (step settings op w).2.counters.positional = 2 ∧
      (step settings op w).1 = (step settings op w').1 ∧
      GainAlike w w' (step settings op w).2 (step settings op w').2 := by
  intro settings op w w'
  have halike : w.Alike w' := ⟨rfl, rfl⟩
  have hanswer : (step settings op w).1 = .ok (some "f($5, ?)") := by decide +kernel
  have hmarks : (step settings op w).2.counters.positional = 2 := by decide +kernel
  exact ⟨halike, hanswer, hmarks, (used_alike settings halike).1 op⟩

end Writer

end SqlPrinter
