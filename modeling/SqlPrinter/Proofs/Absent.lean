/-
An optional text that is empty is the same as none: it leaves no mark in the text of
a statement, and no statement is refused because of it.
-/
import SqlPrinter.Proofs.Retouch.Render

namespace SqlPrinter

/-- Leave out every optional text that is empty: schemas, tables and second names,
character sets, separators, symbols, the words of a cast or a search, the base of a
window, the name of a constraint.  The quoted name of a type is not one of them. -/
def Retouch.dropEmpty : Retouch :=
  .ofText Text.nonEmpty fun o => by simp [Text.nonEmpty, Option.filter_filter]

/-- A statement gives the text or the error that it gives without the optional texts
that are empty. -/
theorem Statement.render_dropEmpty (s : Statement) (settings : Settings) :
    (Retouch.dropEmpty.statement s).render settings = s.render settings :=
  Retouch.KeepsKeys.render_statement (fun _ => rfl) settings s

/-- Two statements that differ only in optional texts, empty in one of them where
there is none in the other, give the same text or the same error. -/
theorem Statement.render_eq_of_dropEmpty_eq {s t : Statement} (settings : Settings)
    (h : Retouch.dropEmpty.statement s = Retouch.dropEmpty.statement t) :
    s.render settings = t.render settings :=
  calc s.render settings
      = (Retouch.dropEmpty.statement s).render settings :=
        (s.render_dropEmpty settings).symm
    _ = (Retouch.dropEmpty.statement t).render settings := by rw [h]
    _ = t.render settings := t.render_dropEmpty settings

/-- `DELETE FROM t WHERE a ORDER BY b`, with the same text, if any, as the schema
and the second name of the table and as the qualifiers of the columns. -/
def Delete.qualified (text : Option String) : Delete where
  ctes := none
  targets := []
  tables := [.named text "t" text]
  joins := []
  usingTables := []
  condition := some (.column ⟨text, text, "a"⟩)
  orderBy := [⟨.column ⟨text, text, "b"⟩, none, none⟩]
  limit := none
  returning := []

theorem Statement.render_eq_of_dropEmpty_eq_delete :
    let blank := Statement.delete (.qualified (some ""))
    let absent := Statement.delete (.qualified none)
    Retouch.dropEmpty.statement blank = Retouch.dropEmpty.statement absent ∧
      blank.render .standard = absent.render .standard :=
  ⟨by rfl, render_eq_of_dropEmpty_eq .standard (by rfl)⟩

end SqlPrinter
