/-
What a writer keeps to, whatever it is used for and wherever a step fails.  Its
text only ever grows, a text that is handed over leaves no trace in it, its
counters go on by at most the parameters of a step, and its style of parameters
stays.  Every step keeps to this, and so does every sequence of steps.
-/
import SqlPrinter.Proofs.Count
import SqlPrinter.Proofs.Run

namespace SqlPrinter

/-! ## Counters that go on -/

/-- Counters that have gone on by at most so many numbers and question marks. -/
structure Counters.Moves (numbers marks : Nat) (before after : Counters) :
    Prop where
  next : ∃ k ≤ numbers, after.next = before.next + UInt64.ofNat k
  positional_le : before.positional ≤ after.positional
  positional_le_add : after.positional ≤ before.positional + marks

namespace Counters.Moves

variable {c c' c'' : Counters} {j k m n : Nat}

theorem refl (n m : Nat) (c : Counters) : c.Moves n m c where
  next := ⟨0, Nat.zero_le n, (UInt64.add_zero c.next).symm⟩
  positional_le := Nat.le_refl _
  positional_le_add := Nat.le_add_right _ m

theorem trans (h : Moves n m c c') (h' : Moves k j c' c'') :
    Moves (n + k) (m + j) c c'' where
  next := by
    obtain ⟨a, ha, hnext⟩ := h.next
    obtain ⟨b, hb, hnext'⟩ := h'.next
    refine ⟨a + b, Nat.add_le_add ha hb, ?_⟩
    rw [hnext', hnext, UInt64.ofNat_add, UInt64.add_assoc]
  positional_le := Nat.le_trans h.positional_le h'.positional_le
  positional_le_add := by
    have hfirst := h.positional_le_add
    have hsecond := h'.positional_le_add
    omega

theorem mono (h : Moves n m c c') (hn : n ≤ k) (hm : m ≤ j) : Moves k j c c' where
  next := by
    obtain ⟨a, ha, hnext⟩ := h.next
    exact ⟨a, Nat.le_trans ha hn, hnext⟩
  positional_le := h.positional_le
  positional_le_add := Nat.le_trans h.positional_le_add (Nat.add_le_add_left hm _)

/-- Below the largest number the numbers never go back. -/
theorem next_le (h : Moves n m c c') (hlimit : c.next.toNat + n < UInt64.size) :
    c.next ≤ c'.next := by
  obtain ⟨k, hk, hnext⟩ := h.next
  have hword : (UInt64.ofNat k).toNat = k := UInt64.toNat_ofNat_of_lt' (by omega)
  have hsum : c'.next.toNat = c.next.toNat + k := by
    rw [hnext, UInt64.toNat_add, hword]
    exact Nat.mod_eq_of_lt (Nat.lt_of_le_of_lt (Nat.add_le_add_left hk _) hlimit)
  rw [UInt64.le_iff_toNat_le, hsum]
  exact Nat.le_add_right _ k

end Counters.Moves

/-- No parameter has a number where they are question marks. -/
theorem Doc.count_numbers_question (d : Doc) :
    d.count (.numbers .question) = 0 := by
  induction d with
  | append first second ihFirst ihSecond =>
      exact Nat.add_eq_zero_iff.2 ⟨ihFirst, ihSecond⟩
  | isolated d ih => exact ih
  | beside separator first second ihFirst ihSecond =>
      exact Nat.add_eq_zero_iff.2 ⟨ihFirst, ihSecond⟩
  | twice lead between part e ih => exact Nat.mul_eq_zero.2 (.inr ih)
  | _ => rfl

/-! ## Steps -/

namespace Writer

namespace Op

variable (t : Tally)

mutual

/-- What the parameters in a step count for together. -/
def count : Op → Nat
  | placeholder => t.bound
  | question => t.question
  | write d | textOf d => d.count t
  | capture ops => countAll ops
  | push _ | pushChar _ | pushNumber _ | separate _ _ | setNext _
  | setPlaceholders _ | fail _ =>
      0

/-- What the parameters in several steps count for together. -/
def countAll : List Op → Nat
  | [] => 0
  | op :: ops => op.count + countAll ops

end

mutual

theorem count_numbers_question : (op : Op) → op.count (.numbers .question) = 0
  | placeholder | question => rfl
  | write d | textOf d => d.count_numbers_question
  | capture ops => countAll_numbers_question ops
  | push _ | pushChar _ | pushNumber _ | separate _ _ | setNext _
  | setPlaceholders _ | fail _ =>
      rfl

theorem countAll_numbers_question :
    (ops : List Op) → countAll (.numbers .question) ops = 0
  | [] => rfl
  | op :: ops =>
      Nat.add_eq_zero_iff.2 ⟨count_numbers_question op,
        countAll_numbers_question ops⟩

end

mutual

/-- The step sets a counter or the style of parameters by hand. -/
def assigns : Op → Bool
  | setNext _ | setPlaceholders _ => true
  | capture ops => assignsAny ops
  | push _ | pushChar _ | pushNumber _ | separate _ _ | placeholder | question
  | write _
  | textOf _ | fail _ => false

/-- One of the steps does. -/
def assignsAny : List Op → Bool
  | [] => false
  | op :: ops => op.assigns || assignsAny ops

end

/-- The step hands a text over instead of writing it. -/
def handsOver : Op → Bool
  | textOf _ | capture _ => true
  | push _ | pushChar _ | pushNumber _ | separate _ _ | placeholder | question
  | setNext _
  | setPlaceholders _ | write _ | fail _ => false

end Op

/-- A writer that has gone on from another: with more text, with the same style
of parameters, and with at most so many numbers and question marks. -/
structure Continues (numbers marks : Nat) (before after : Writer) : Prop where
  text : before.buffer.toList <+: after.buffer.toList
  placeholders : after.placeholders = before.placeholders
  counters : before.counters.Moves numbers marks after.counters

namespace Continues

variable {u v w : Writer} {j k m n : Nat}

theorem refl (n m : Nat) (w : Writer) : w.Continues n m w :=
  ⟨List.prefix_refl _, rfl, .refl n m _⟩

theorem trans (h : Continues n m u v) (h' : Continues k j v w) :
    Continues (n + k) (m + j) u w where
  text := h.text.trans h'.text
  placeholders := h'.placeholders.trans h.placeholders
  counters := h.counters.trans h'.counters

/-- Bounds on what is added may be loosened. -/
theorem mono (h : Continues n m u v) (hn : n ≤ k) (hm : m ≤ j) :
    Continues k j u v :=
  ⟨h.text, h.placeholders, h.counters.mono hn hm⟩

/-- A push adds its text and moves no counter. -/
theorem push (w : Writer) (s : String) : w.Continues 0 0 (w.push s) := by
  refine ⟨?_, rfl, .refl 0 0 _⟩
  rw [Writer.push, String.toList_append]
  exact List.prefix_append _ _

/-- A question mark adds one to the positional counter. -/
theorem pushQuestion (w : Writer) : w.Continues 0 1 w.pushQuestion where
  text := (push w "?").text
  placeholders := rfl
  counters :=
    ⟨⟨0, Nat.le_refl 0, (UInt64.add_zero _).symm⟩, Nat.le_succ _, Nat.le_refl _⟩

/-- A placeholder moves the counter of its own style, and no other. -/
theorem pushPlaceholder (w : Writer) :
    w.Continues (Doc.placeholder.count (.numbers w.placeholders))
      (Doc.placeholder.count (.marks 1 w.placeholders)) w.pushPlaceholder := by
  rcases w with ⟨buffer, counters, _ | _⟩
  · exact ⟨(push _ _).text, rfl, ⟨1, Nat.le_refl 1, rfl⟩, Nat.le_refl _,
      Nat.le_refl _⟩
  · exact pushQuestion _

/-- What the text was before is still its beginning, so the place at which it is
split is the place where it ended. -/
theorem buffer_capture {act : Writer → Option Error × Writer}
    (h : w.Continues n m (act w).2) : (w.capture act).2.buffer = w.buffer := by
  obtain ⟨added, hadded⟩ := h.text
  have hsplit : (act w).2.buffer.toList.take w.buffer.length = w.buffer.toList := by
    rw [← hadded, ← String.length_toList, List.take_left]
  rw [← String.toList_inj, ← hsplit]
  exact String.toList_ofList

/-- A capture leaves the text as it was and moves the counters as what it captures
does. -/
theorem capture {act : Writer → Option Error × Writer}
    (h : w.Continues n m (act w).2) : w.Continues n m (w.capture act).2 where
  text := (buffer_capture h).symm ▸ List.prefix_refl _
  placeholders := h.placeholders
  counters := h.counters

/-- Going on with a text that was handed over. -/
theorem andThen {captured : Except Error String × Writer}
    {next : String → Writer → Option Error × Writer}
    (h : w.Continues n m captured.2)
    (hnext : ∀ text, captured.2.Continues k j (next text captured.2).2) :
    w.Continues (n + k) (m + j) (Writer.andThen captured next).2 := by
  rcases captured with ⟨_ | text, v⟩
  · exact h.mono (Nat.le_add_right _ _) (Nat.le_add_right _ _)
  · exact h.trans (hnext text)

/-- Adding to the text what was handed over, or what is made of it. -/
theorem pushCaptured {captured : Except Error String × Writer}
    (h : w.Continues n m captured.2) (made : String → String) :
    w.Continues n m (Writer.andThen captured fun text v =>
      (none, v.push (made text))).2 := by
  rcases captured with ⟨_ | text, v⟩
  · exact h
  · exact h.trans (push v (made text))

/-- A layout that is captured moves the counters as it does when it is written. -/
theorem captureWrite {settings : Settings} {d : Doc}
    (h : w.Continues n m (w.write settings d).2) :
    w.Continues n m (w.capture (Writer.write settings · d)).2 :=
  capture h

/-- To write a document adds to the text and takes nothing away, whether or not it
fails.  The parts of a document that are captured start where the text ended, so
what is split off is theirs. -/
theorem write (settings : Settings) (w : Writer) (d : Doc) :
    w.Continues (d.count (.numbers w.placeholders))
      (d.count (.marks 1 w.placeholders))
      (w.write settings d).2 := by
  induction d generalizing w with
  | empty | fail e => exact .refl 0 0 w
  | text s | verbatim s | name s | string s => exact .push w _
  | placeholder => exact .pushPlaceholder w
  | question =>
      cases hplaceholders : w.placeholders <;> exact .pushQuestion w
  | append first second ihFirst ihSecond =>
      have hfirst := ihFirst w
      rw [Writer.write]
      split
      · next v hv =>
          rw [hv] at hfirst
          have hsecond := ihSecond v
          rw [hfirst.placeholders] at hsecond
          exact hfirst.trans hsecond
      · next e v hv =>
          rw [hv] at hfirst
          exact hfirst.mono (Nat.le_add_right _ _) (Nat.le_add_right _ _)
  | isolated d ih => exact (ih w).captureWrite.pushCaptured id
  | beside separator first second ihFirst ihSecond =>
      have hfirst := (ihFirst w).captureWrite
      rw [Writer.write]
      refine hfirst.andThen fun text => ?_
      have hsecond :=
        (ihSecond (w.capture (Writer.write settings · first)).2).captureWrite
      rw [hfirst.placeholders] at hsecond
      exact hsecond.pushCaptured fun text' =>
        (Fragments.ofList [text, text']).join separator
  | twice lead between part onQuestion ih =>
      have honce (t : Tally) (h : t.repeats = 1) :
          (Doc.twice lead between part onQuestion).count t = part.count t := by
        rw [Doc.count_twice, h, Nat.one_mul]
      rw [honce _ (by cases w.placeholders <;> rfl),
        honce _ (by cases w.placeholders <;> rfl)]
      rw [Writer.write]
      refine (ih w).captureWrite.andThen (k := 0) (j := 0) fun text => ?_
      split
      · exact .push _ _
      · exact .refl 0 0 _

end Continues

/-- Whether a part has a question mark could be seen on a machine word as well: it
would have to count all its values to be back where it was. -/
theorem positional_write_eq_iff_word (settings : Settings) (w : Writer) {d : Doc}
    (hd : d.count (.marks 1 w.placeholders) < UInt64.size) :
    UInt64.ofNat (w.write settings d).2.counters.positional =
        UInt64.ofNat w.counters.positional ↔
      (w.write settings d).2.counters.positional = w.counters.positional := by
  have hmoves := (Continues.write settings w d).counters
  have hle := hmoves.positional_le
  have hle_add := hmoves.positional_le_add
  simp only [← UInt64.toNat_inj, UInt64.toNat_ofNat', UInt64.size] at hd ⊢
  omega

end Writer

/-- Without parameters the counters stay where they are, whether or not there is a
fault. -/
theorem Doc.counters_run (placeholders : PlaceholderStyle) {d : Doc}
    (h : ∀ t, d.count t = 0) (c : Counters) :
    (d.run placeholders c).counters = c := by
  have hmoves := (Writer.Continues.write .standard ⟨"", c, placeholders⟩ d).counters
  rw [Writer.write_eq, h, h] at hmoves
  obtain ⟨k, hk, hnext⟩ := hmoves.next
  rw [Nat.le_zero.1 hk] at hnext
  have hnext : (d.run placeholders c).counters.next = c.next :=
    hnext.trans (UInt64.add_zero _)
  have hpositional : (d.run placeholders c).counters.positional = c.positional :=
    Nat.le_antisymm hmoves.positional_le_add hmoves.positional_le
  exact congr (congrArg Counters.mk hnext) hpositional

namespace Writer

section Steps

variable (settings : Settings)

mutual

/-- One step, by cases on its kind. -/
theorem continues_step : (op : Op) → op.assigns = false → (w : Writer) →
    w.Continues (op.count (.numbers w.placeholders))
      (op.count (.marks 1 w.placeholders))
      (step settings op w).2
  | .push s, _, w => .push w s
  | .pushChar c, _, w => .push w _
  | .pushNumber n, _, w => .push w _
  | .separate item separator, _, w => by
      simp only [step, Op.count]
      split
      · exact .refl 0 0 w
      · exact .push w separator
  | .placeholder, _, w => .pushPlaceholder w
  | .question, _, w => by
      cases hplaceholders : w.placeholders <;> exact .pushQuestion w
  | .write d, _, w => by
      rw [step, written_snd]
      exact .write settings w d
  | .textOf d, _, w => by
      rw [step, handedOver_snd]
      exact (Continues.write settings w d).capture
  | .capture ops, hops, w => by
      rw [step, handedOver_snd]
      exact (continues_steps ops hops w).capture
  | .fail e, _, w => .refl 0 0 w

/-- Several steps; after one that fails there are no more. -/
theorem continues_steps :
    (ops : List Op) → Op.assignsAny ops = false → (w : Writer) →
    w.Continues (Op.countAll (.numbers w.placeholders) ops)
      (Op.countAll (.marks 1 w.placeholders) ops) (steps settings ops w).2
  | [], _, w => .refl 0 0 w
  | op :: ops, hops, w => by
      obtain ⟨hop, hrest⟩ := Bool.or_eq_false_iff.1 hops
      have hfirst := continues_step op hop w
      rw [steps]
      split
      · next v hv =>
          rw [hv] at hfirst
          have hothers := continues_steps ops hrest v
          rw [hfirst.placeholders] at hothers
          exact hfirst.trans hothers
      · next e v hv =>
          rw [hv] at hfirst
          exact hfirst.mono (Nat.le_add_right _ _) (Nat.le_add_right _ _)

end

/-- A session may be cut anywhere: the rest goes on from the writer that the first
part leaves. -/
theorem session_append (ops ops' : List Op) (w : Writer) :
    session settings (ops ++ ops') w =
      ((session settings ops w).1 ++
        (session settings ops' (session settings ops w).2).1,
          (session settings ops' (session settings ops w).2).2) := by
  induction ops generalizing w with
  | nil => rfl
  | cons op ops ih => simp only [List.cons_append, session, ih]

/-- Each step has one answer, also after steps that failed. -/
theorem length_session (ops : List Op) (w : Writer) :
    (session settings ops w).1.length = ops.length := by
  induction ops generalizing w with
  | nil => rfl
  | cons op ops ih => exact congrArg (· + 1) (ih _)

/-- A sequence of steps that goes on after a failure. -/
theorem continues_session (ops : List Op) (hops : ∀ op ∈ ops, op.assigns = false)
    (w : Writer) : w.Continues (Op.countAll (.numbers w.placeholders) ops)
      (Op.countAll (.marks 1 w.placeholders) ops) (session settings ops w).2 := by
  induction ops generalizing w with
  | nil => exact .refl 0 0 w
  | cons op ops ih =>
      obtain ⟨hop, hrest⟩ := List.forall_mem_cons.1 hops
      have hfirst := continues_step settings op hop w
      have hothers := ih hrest (step settings op w).2
      rw [hfirst.placeholders] at hothers
      exact hfirst.trans hothers

/-- A text that is handed over is not left in the writer, whether or not the step
fails. -/
theorem buffer_step_of_handsOver {op : Op} (hop : op.assigns = false)
    (hover : op.handsOver = true) (w : Writer) :
    (step settings op w).2.buffer = w.buffer := by
  cases op with
  | textOf d =>
      rw [step, handedOver_snd]
      exact (Continues.write settings w d).buffer_capture
  | capture ops =>
      rw [step, handedOver_snd]
      exact (continues_steps settings ops hop w).buffer_capture
  | _ => contradiction

end Steps

/-! ## Sequences of steps -/

/-- What a step may do to a writer. -/
structure Disciplined (op : Op) (before after : Writer) : Prop where
  /-- The text before the step is the beginning of the text after it. -/
  text : before.buffer.toList <+: after.buffer.toList
  /-- A step that hands its text over leaves nothing of it. -/
  handedOver : op.handsOver = true → after.buffer = before.buffer
  placeholders : after.placeholders = before.placeholders
  /-- Numbers are given out one by one, at most one for each parameter. -/
  next : ∃ k ≤ op.count (.numbers before.placeholders),
    after.counters.next = before.counters.next + UInt64.ofNat k
  /-- Below the largest number they never go back. -/
  next_le : before.counters.next.toNat + op.count (.numbers before.placeholders) <
      UInt64.size →
    before.counters.next ≤ after.counters.next
  /-- Question marks are counted one by one, at most one for each parameter. -/
  positional_le : before.counters.positional ≤ after.counters.positional
  positional_le_add : after.counters.positional ≤
    before.counters.positional + op.count (.marks 1 before.placeholders)
  /-- Where parameters are question marks, no number is given out. -/
  next_eq : before.placeholders = .question →
    after.counters.next = before.counters.next
  /-- Where they are numbers, a placeholder is no question mark. -/
  positional_eq : before.placeholders = .numbered → op = .placeholder →
    after.counters.positional = before.counters.positional

/-- Every step that assigns no counter keeps the discipline, whether it fails or
not. -/
theorem disciplined_step (settings : Settings) {op : Op} (hop : op.assigns = false)
    (w : Writer) : Disciplined op w (step settings op w).2 := by
  have h := continues_step settings op hop w
  refine ⟨h.text, fun hover => buffer_step_of_handsOver settings hop hover w,
    h.placeholders, h.counters.next, h.counters.next_le, h.counters.positional_le,
    h.counters.positional_le_add, fun hw => ?_, fun hw hplaceholder => ?_⟩
  · obtain ⟨k, hk, hnext⟩ := h.counters.next
    rw [hw, Op.count_numbers_question, Nat.le_zero] at hk
    rw [hnext, hk]
    exact UInt64.add_zero _
  · have hle := h.counters.positional_le_add
    rw [hw, hplaceholder] at hle
    rw [hplaceholder] at h ⊢
    exact Nat.le_antisymm hle h.counters.positional_le

/-- Whatever a writer is used for and wherever a step fails, each step keeps to the
discipline, and so does the whole sequence: the text that was there before is the
beginning of the text after it, the style of parameters is the same, and the
counters have gone on by at most the parameters of the steps.  No step may set a
counter or the style by hand; a document is the layout of any node. -/
theorem disciplined_session (settings : Settings) (ops : List Op)
    (hops : ∀ op ∈ ops, op.assigns = false) (w : Writer) :
    (∀ earlier op later, ops = earlier ++ op :: later →
      let before := (session settings earlier w).2
      let answer := step settings op before
      (session settings ops w).1[earlier.length]? = some answer ∧
        Disciplined op before answer.2) ∧
    w.Continues (Op.countAll (.numbers w.placeholders) ops)
      (Op.countAll (.marks 1 w.placeholders) ops) (session settings ops w).2 := by
  refine ⟨?_, continues_session settings ops hops w⟩
  rintro earlier op later rfl before answer
  constructor
  · rw [session_append, ← length_session settings earlier w,
      List.getElem?_append_right (Nat.le_refl _), Nat.sub_self]
    rfl
  · exact disciplined_step settings (hops op (by simp)) before

/-- A writer that fails three times: in the middle of a comparison, in a call whose
second argument is at fault, and in a capture inside a capture. -/
def Op.failures (settings : Settings) : List Op :=
  let nameless : Expr := .column ⟨none, none, ""⟩
  [.push "x ", .write (Layout.expr settings
    (.binary (.parameter .bind) (.standard .eq) nameless)),
      .textOf (Layout.functionCall settings
        (.ofArgs "f" [.parameter .bind, nameless])),
    .capture [.push "y",
      .capture [.placeholder, .write (Layout.expr settings nameless)], .question],
    .placeholder]

/-- Only the text outside of all captures is left, and every number is used once. -/
theorem disciplined_session_failures :
    let settings := (Settings.ofDialect .postgres)
    let w := Writer.fresh .numbered
    let last := (session settings (Op.failures settings) w).2
    (∀ op ∈ Op.failures settings, op.assigns = false) ∧
      last.buffer = "x $1 = $4" ∧ last.counters.next = 5 ∧
      last.counters.positional = 0 ∧
      (∀ earlier op later, Op.failures settings = earlier ++ op :: later →
        let before := (session settings earlier w).2
        let answer := step settings op before
        (session settings (Op.failures settings) w).1[earlier.length]? =
            some answer ∧
          Disciplined op before answer.2) ∧
      w.Continues 4 1 last := by
  intro settings w last
  have hops : ∀ op ∈ Op.failures settings, op.assigns = false := by decide +kernel
  have hbuffer : last.buffer = "x $1 = $4" := by decide +kernel
  have hnext : last.counters.next = 5 := by decide +kernel
  have hpositional : last.counters.positional = 0 := by decide +kernel
  have hnumbers :
      Op.countAll (.numbers w.placeholders) (Op.failures settings) = 4 := by
    decide +kernel
  have hmarks :
      Op.countAll (.marks 1 w.placeholders) (Op.failures settings) = 1 := by
    decide +kernel
  obtain ⟨hsteps, hgone⟩ :=
    disciplined_session settings (Op.failures settings) hops w
  rw [hnumbers, hmarks] at hgone
  exact ⟨hops, hbuffer, hnext, hpositional, hsteps, hgone⟩

end Writer

end SqlPrinter
