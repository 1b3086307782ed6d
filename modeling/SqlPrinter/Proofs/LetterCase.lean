/-
Keywords in any letter case.  The words that are printed in upper case may be
written in any letter case, at any depth of a statement: the statement is printed as
the same text, or refused for the same reason.
-/
import SqlPrinter.Proofs.Switch

namespace SqlPrinter

/-- Write every word in upper case: keywords, the names of aggregates and types,
options, units and modes, character sets and collations.  Names of functions and
quoted names of types are not words, and the value of a table option is one if its
keyword says so. -/
def Retouch.upperCase : Retouch :=
  { Retouch.nothing with
    word := String.toUpper, toUpper_word := Text.toUpper_toUpper }

/-- A statement gives the text or the error that it gives with its words in upper
case, so statements that differ in the letter case of words only give the same. -/
theorem Statement.render_caseless (settings : Settings) :
    (∀ s, (Retouch.upperCase.statement s).render settings = s.render settings) ∧
      ∀ s t, Retouch.upperCase.statement s = Retouch.upperCase.statement t →
        s.render settings = t.render settings := by
  have hupper (s : Statement) : (Retouch.upperCase.statement s).render settings =
      s.render settings :=
    Retouch.KeepsKeys.render_statement (fun _ => rfl) settings s
  exact ⟨hupper, fun s t h => by rw [← hupper s, h, hupper t]⟩

/-- `COUNT(CAST(EXTRACT(DAY FROM DATE '2000-01-01') AS UNSIGNED INTEGER))`, with the
words as they are spelled. -/
def Expr.countOfDay (spell : String → String) : Expr :=
  .aggregate
    { name := spell "Count", distinct := false, orderBy := [], separator := none,
      filter := none, window := none,
      args :=
        [.cast
          { subject := .extract ⟨spell "Extract", spell "Day", none,
              .literal (.typed (spell "Date") "2000-01-01")⟩,
            target := ⟨spell "Unsigned", none, none, false, none, [spell "Integer"],
              none, []⟩,
            form := .keyword, keyword := some (spell "Cast"), tail := none,
            rename := none, collate := none }] }

/-- A table of one column that is filled by a query, with the words as
they are spelled. -/
def CreateTable.countingDays (spell : String → String) : CreateTable where
  temporary := false
  ifNotExists := false
  name := ⟨none, "t"⟩
  elements :=
    [.column
      { name := "a",
        dataType := some ⟨spell "Varchar", some 8, none, true, none, [], none, []⟩,
        options :=
          { ColumnOptions.plain with
            characterSet := some (spell "Utf8")
            collate := some (spell "Utf8_bin") } }]
  options := [⟨spell "Engine", spell "InnoDB"⟩, ⟨spell "Comment", "Days"⟩]
  query :=
    some <| .ofSelect
      { distinct := false, distinctOn := [], options := [spell "Sql_no_cache"],
        items := [.expr (.countOfDay spell) none], into := none, tables := [],
        joins := [], condition := none, groupBy := [], groupModifiers := [],
        having := none, windows := [], orderBy := [], limit := none, offset := none,
        locking := none }
  like := none

/-- Whatever letter case the words are spelled in, they are the same
in upper case. -/
theorem Retouch.upperCase_countingDays {spell : String → String}
    (h : ∀ s, (spell s).toUpper = s.toUpper) :
    upperCase.statement (.createTable (.countingDays spell)) =
      .createTable (.countingDays String.toUpper) := by
  have hword (s : String) : upperCase.word (spell s) = s.toUpper := h s
  have htext : upperCase.text = id := rfl
  have hengine : TableOption.takesWord ⟨spell "Engine", spell "InnoDB"⟩ = true := by
    rw [TableOption.takesWord, h]
    decide +kernel
  have hcomment : TableOption.takesWord ⟨spell "Comment", "Days"⟩ = false := by
    rw [TableOption.takesWord, h]
    decide +kernel
  have hvalue :
      upperCase.expr (.countOfDay spell) = .countOfDay String.toUpper := by
    simp [Expr.countOfDay, expr, exprs, expr?, aggregate, cast, castTail, extract,
      literal, dataType, sortKeys, over?, word?, hword, htext]
  simp [statement, element, columnDef, option, dataType, exprs, expr?, query, body,
    select, items, item, tables, joins, modifiers, windows, sortKeys, into?, with?,
    CreateTable.countingDays, ColumnOptions.plain, Query.ofSelect, hengine,
    hcomment, hvalue, hword, htext]

theorem Statement.render_caseless_countingDays :
    let lower := Statement.createTable (.countingDays String.toLower)
    let upper := Statement.createTable (.countingDays String.toUpper)
    Retouch.upperCase.statement lower = Retouch.upperCase.statement upper ∧
      lower.render (.ofDialect .mysql) = upper.render (.ofDialect .mysql) := by
  intro lower upper
  have hsame :
      Retouch.upperCase.statement lower = Retouch.upperCase.statement upper :=
    (Retouch.upperCase_countingDays Text.toUpper_toLower).trans
      (Retouch.upperCase_countingDays Text.toUpper_toUpper).symm
  exact ⟨hsame, (render_caseless (.ofDialect .mysql)).2 lower upper hsame⟩

end SqlPrinter
