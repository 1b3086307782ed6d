/-
Statements in a row.  Each of them is printed on its own, with parameters of its
own, so the text of a list is put together from the texts of its parts, and the
first statement without a text is the answer.
-/
import SqlPrinter.Proofs.Form.Yielding
import SqlPrinter.Render

namespace SqlPrinter

open Form

variable {settings : Settings}

/-- Why a statement has no text, if it has none. -/
def Statement.failure? (settings : Settings) (s : Statement) : Option Error :=
  match s.render settings with
  | .ok _ => none
  | .error e => some e

namespace Statement

variable {s : Statement} {e : Error}

/-- No failure is the same as a text. -/
theorem failure?_eq_none :
    s.failure? settings = none ↔ ∃ text, s.render settings = .ok text := by
  rw [failure?]
  cases s.render settings <;> simp

theorem failure?_eq_some :
    s.failure? settings = some e ↔ s.render settings = .error e := by
  rw [failure?]
  cases s.render settings <;> simp

end Statement

/-- A list of results that are all there. -/
theorem mapM_eq_ok {α β ε : Type} {f : α → Except ε β} {as : List α} {bs : List β} :
    as.mapM f = .ok bs ↔ as.map f = bs.map .ok := by
  induction as generalizing bs with
  | nil => cases bs <;> simp [pure, Except.pure]
  | cons a as ih =>
      rw [List.mapM_cons, bind_eq_ok, List.map_cons]
      constructor
      · rintro ⟨b, hb, hrest⟩
        obtain ⟨bs', hbs', hcons⟩ := bind_eq_ok.1 hrest
        obtain rfl := Except.ok.inj hcons
        rw [hb, ih.1 hbs', List.map_cons]
      · intro hmap
        cases bs with
        | nil => cases hmap
        | cons b bs =>
            obtain ⟨hb, hbs⟩ := List.cons.inj hmap
            exact ⟨b, hb, bind_eq_ok.2 ⟨bs, ih.2 hbs, rfl⟩⟩

/-- All statements are printed exactly when each is, and their texts are joined. -/
theorem renderAll_eq_ok {statements : List Statement} {text : String} :
    renderAll settings statements = .ok text ↔
      ∃ texts, statements.map (Statement.render settings) = texts.map .ok ∧
        " ; ".intercalate texts = text := by
  rw [renderAll, map_eq_ok]
  simp only [mapM_eq_ok]

/-- The first statement that fails on its own decides. -/
theorem renderAll_eq_error {statements : List Statement} {e : Error} :
    renderAll settings statements = .error e ↔
      statements.findSome? (Statement.failure? settings) = some e := by
  have hmap {ε α β : Type} {x : Except ε α} {g : α → β} {e : ε} :
      x.map g = .error e ↔ x = .error e := by
    cases x <;> simp [Except.map]
  rw [renderAll, hmap]
  induction statements with
  | nil => simp [pure, Except.pure]
  | cons s statements ih =>
      rw [List.mapM_cons, List.findSome?_cons]
      cases hs : s.render settings with
      | error e' => simp [Statement.failure?_eq_some.2 hs, bind, Except.bind]
      | ok text =>
          rw [Statement.failure?_eq_none.2 ⟨text, hs⟩]
          refine Iff.trans ?_ ih
          cases statements.mapM (Statement.render settings) <;>
            simp [bind, Except.bind, pure, Except.pure]

/-- Where no statement fails, there is a text. -/
theorem exists_renderAll_eq_ok {statements : List Statement}
    (h : statements.findSome? (Statement.failure? settings) = none) :
    ∃ text, renderAll settings statements = .ok text := by
  cases hrender : renderAll settings statements with
  | ok text => exact ⟨text, rfl⟩
  | error e =>
      rw [renderAll_eq_error.1 hrender] at h
      contradiction

theorem renderAll_nil : renderAll settings [] = .ok "" :=
  rfl

/-- A list of one statement is that statement. -/
theorem renderAll_singleton (s : Statement) :
    renderAll settings [s] = s.render settings := by
  cases hs : s.render settings with
  | error e => simp [renderAll_eq_error, Statement.failure?_eq_some.2 hs]
  | ok text =>
      exact renderAll_eq_ok.2 ⟨[text], by rw [List.map_singleton, hs]; rfl, rfl⟩

/-- Two lists in a row have the texts of both in a row. -/
theorem renderAll_append {front back : List Statement} {text text' : String}
    (hfront : front ≠ []) (hback : back ≠ [])
    (h : renderAll settings front = .ok text)
    (h' : renderAll settings back = .ok text') :
    renderAll settings (front ++ back) = .ok (text ++ " ; " ++ text') := by
  obtain ⟨texts, htexts, rfl⟩ := renderAll_eq_ok.1 h
  obtain ⟨texts', htexts', rfl⟩ := renderAll_eq_ok.1 h'
  refine renderAll_eq_ok.2 ⟨texts ++ texts', ?_, ?_⟩
  · rw [List.map_append, List.map_append, htexts, htexts']
  · refine String.intercalate_append_of_ne_nil ?_ ?_
    · rintro rfl
      exact hfront (List.map_eq_nil_iff.1 htexts)
    · rintro rfl
      exact hback (List.map_eq_nil_iff.1 htexts')

end SqlPrinter
