/-
Lists of statements and their JSON form.  A list is printed statement by statement,
and so is a JSON array, once all of its items have been read; a value that is no
array is printed as the array with this one item is.
-/
import SqlPrinter.Proofs.Batch
import SqlPrinter.Proofs.Enclosed
import SqlPrinter.Proofs.Form.Depth
import SqlPrinter.Proofs.Numbering

namespace SqlPrinter

open Form

variable {options : Options} {settings : Settings} {text : String} {j : Json}

/-- A value that stands for one statement. -/
def Json.IsSingle (j : Json) : Prop :=
  ∀ items, j ≠ .array items

theorem Settings.ofOptions_of_unknown {name : String}
    (hname : options.database = some name)
    (hunknown : Dialect.ofName? name = none) :
    ofOptions options = .error (.unknownDialect name) := by
  simp [ofOptions, hname, Dialect.parse, hunknown, bind, Except.bind]

/-- A dialect of an unknown name is reported before the text is read. -/
theorem renderJson_of_unknown {name : String} (hname : options.database = some name)
    (hunknown : Dialect.ofName? name = none) (text : String) :
    renderJson options text = .error (.unknownDialect name) := by
  rw [renderJson, Settings.ofOptions_of_unknown hname hunknown]
  rfl

theorem renderJson_of_parse (hsettings : Settings.ofOptions options = .ok settings)
    (hparse : Json.parse text = some j) :
    renderJson options text = renderValue settings j := by
  simp [renderJson, hsettings, hparse, bind, Except.bind]

theorem renderJson_of_notJson
    (hsettings : Settings.ofOptions options = .ok settings)
    (hparse : Json.parse text = none) :
    renderJson options text = .error .notJson := by
  simp [renderJson, hsettings, hparse, bind, Except.bind]

/-- An array is decoded as a whole before any of it is printed. -/
theorem renderValue_array (items : List Json) :
    renderValue settings (.array items) =
      ((items.mapM Statement.ofJson).mapError .notTree >>= renderAll settings) := by
  rw [renderValue, Statement.decode_array]

/-- A value that is no array is read as one statement. -/
theorem renderValue_single (hsingle : j.IsSingle) :
    renderValue settings j =
      ((Statement.ofJson j).mapError .notTree >>= Statement.render settings) := by
  cases j with
  | array items => exact absurd rfl (hsingle items)
  | _ => rfl

/-- The list with one item is printed as the item. -/
theorem renderValue_singleton (hsingle : j.IsSingle) :
    renderValue settings (.array [j]) = renderValue settings j := by
  rw [renderValue_array, renderValue_single hsingle, List.mapM_cons, List.mapM_nil]
  cases Statement.ofJson j with
  | error f => rfl
  | ok s => exact renderAll_singleton s

/-- One item that is no statement is enough for there to be no text. -/
theorem renderValue_array_of_fault {items : List Json} (hj : j ∈ items) {f : Fault}
    (hfault : Statement.ofJson j = .error f) :
    ∃ f', renderValue settings (.array items) = .error (.notTree f') := by
  rw [renderValue_array]
  cases hitems : items.mapM Statement.ofJson with
  | error f' => exact ⟨f', rfl⟩
  | ok statements =>
      have hmem := List.mem_map_of_mem (f := Statement.ofJson) hj
      rw [mapM_eq_ok.1 hitems, hfault] at hmem
      obtain ⟨_, -, hok⟩ := List.mem_map.1 hmem
      contradiction

/-- An array of statements is printed as they are, one after another. -/
theorem renderValue_array_of_statements {items : List Json}
    {statements : List Statement}
    (h : items.map Statement.ofJson = statements.map .ok) :
    renderValue settings (.array items) = renderAll settings statements := by
  rw [renderValue_array, mapM_eq_ok.2 h]
  rfl

/-- Two texts with one value have one answer. -/
theorem renderJson_congr {text' : String} {j' : Json}
    (hparse : Json.parse text = some j) (hparse' : Json.parse text' = some j')
    (h : ∀ settings, renderValue settings j' = renderValue settings j) :
    renderJson options text' = renderJson options text := by
  cases hsettings : Settings.ofOptions options with
  | error e => simp [renderJson, hsettings, bind, Except.bind]
  | ok settings =>
      rw [renderJson_of_parse hsettings hparse,
        renderJson_of_parse hsettings hparse', h]

/-- Below the limit of nesting, brackets make a text that of an array. -/
theorem Json.parse_enclose (h : parseWithin 126 text = some j) :
    parse text = some j ∧ parse ("[" ++ text ++ "]") = some (.array [j]) := by
  refine ⟨parseWithin_of_le (Nat.le_succ 126) h, ?_⟩
  have hparse := parseWithin_enclose (Nat.le_refl 126) h
  rwa [h] at hparse

/-- At the limit of nesting, brackets make it too deep. -/
theorem Json.parse_enclose_of_deep (h : parse text = some j)
    (hdeep : parseWithin 126 text = none) : parse ("[" ++ text ++ "]") = none := by
  have hparse := parseWithin_enclose (Nat.le_succ 126) h
  rwa [hdeep] at hparse

/-- Batches are compositional, and the JSON form of a batch agrees with the batch.
(1) Two lists in a row have the texts of both in a row, unless a statement fails on
its own; the first one that does is the answer.  (2) A statement is printed as by a
writer of its own, whose first parameter has the number one.  (3) An unknown
database is the answer whatever the text is; (4) then comes a text that is no JSON,
then an item that is no statement, and only then what the statements have for an
answer.  (5) A value that is no array has the answer of the array with this one
item, and the text of this array can be had by brackets around the text of the
value, if it is nested at most 126 deep. -/
theorem renderAll_renderJson_compositional :
    (∀ (settings : Settings) (front back : List Statement), front ≠ [] → back ≠ [] →
      match (front ++ back).findSome? (Statement.failure? settings) with
      | some e => renderAll settings (front ++ back) = .error e
      | none => ∃ text text', renderAll settings front = .ok text ∧
          renderAll settings back = .ok text' ∧
          renderAll settings (front ++ back) = .ok (text ++ " ; " ++ text')) ∧
    (∀ settings : Settings, renderAll settings [] = .ok "" ∧
      ∀ s, renderAll settings [s] =
        match (Root.statement s).write settings
          ⟨"", ⟨1, 0⟩, settings.placeholders⟩ with
        | (some e, _) => .error e
        | (none, w) => .ok w.buffer) ∧
    (∀ (options : Options) (text name : String), options.database = some name →
      Dialect.ofName? name = none →
        renderJson options text = .error (.unknownDialect name)) ∧
    (∀ (options : Options) (settings : Settings) (text : String),
      Settings.ofOptions options = .ok settings →
        (Json.parse text = none → renderJson options text = .error .notJson) ∧
        ∀ items, Json.parse text = some (.array items) →
          (∀ j ∈ items, ∀ f, Statement.ofJson j = .error f →
            ∃ f', renderJson options text = .error (.notTree f')) ∧
          ∀ statements, items.map Statement.ofJson = statements.map .ok →
            renderJson options text = renderAll settings statements) ∧
    ∀ (options : Options) (text : String) (j : Json), j.IsSingle →
      (∀ text', Json.parse text = some j → Json.parse text' = some (.array [j]) →
        renderJson options text' = renderJson options text) ∧
      (Json.parseWithin 126 text = some j →
        Json.parse text = some j ∧
          Json.parse ("[" ++ text ++ "]") = some (.array [j]) ∧
          renderJson options ("[" ++ text ++ "]") = renderJson options text) := by
  refine ⟨?_, fun settings => ⟨renderAll_nil, fun s => ?_⟩,
    fun _ text _ hname hunknown => renderJson_of_unknown hname hunknown text, ?_,
    ?_⟩
  · intro settings front back hfront hback
    cases hfail : (front ++ back).findSome? (Statement.failure? settings) with
    | some e => exact renderAll_eq_error.2 hfail
    | none =>
        rw [List.findSome?_append, Option.or_eq_none_iff] at hfail
        obtain ⟨text, htext⟩ := exists_renderAll_eq_ok hfail.1
        obtain ⟨text', htext'⟩ := exists_renderAll_eq_ok hfail.2
        exact ⟨text, text', htext, htext',
          renderAll_append hfront hback htext htext'⟩
  · rw [renderAll_singleton]
    exact (Root.statement s).render_eq_write settings
  · intro options settings text hsettings
    refine ⟨renderJson_of_notJson hsettings,
      fun items hparse => ⟨fun j hj f hfault => ?_, ?_⟩⟩
    · rw [renderJson_of_parse hsettings hparse]
      exact renderValue_array_of_fault hj hfault
    · intro statements hstatements
      rw [renderJson_of_parse hsettings hparse]
      exact renderValue_array_of_statements hstatements
  · intro options text j hsingle
    have hsame (settings : Settings) :
        renderValue settings (.array [j]) = renderValue settings j :=
      renderValue_singleton hsingle
    refine ⟨fun text' hparse hparse' => renderJson_congr hparse hparse' hsame,
      fun hwithin => ?_⟩
    obtain ⟨hparse, hparse'⟩ := Json.parse_enclose hwithin
    exact ⟨hparse, hparse', renderJson_congr hparse hparse' hsame⟩

/-- A text of `SHOW DATABASES`. -/
def Json.showDatabases : String :=
  "\x7b\"type\":\"show\",\"target\":\x7b\"type\":\"databases\"\x7d\x7d"

/-- A text of `SHOW INDEX` without the name of a table, which is never printed. -/
def Json.showIndex : String :=
  "\x7b\"type\":\"show\",\"target\":\x7b\"type\":\"index\",\"table\":\x7b\"name\":\"\"\x7d\x7d\x7d"

/-- `SHOW DATABASES` alone, twice and in an array; and an array whose first item is
not printed and whose second one is no statement. -/
theorem renderAll_renderJson_compositional_show :
    let s : Statement := .list .databases
    (∃ text text', renderAll .standard [s] = .ok text ∧
      renderAll .standard [s] = .ok text' ∧
      renderAll .standard ([s] ++ [s]) = .ok (text ++ " ; " ++ text')) ∧
    renderJson ⟨some "oracle", false⟩ Json.showDatabases =
        .error (.unknownDialect "oracle") ∧
    renderJson .standard "" = .error .notJson ∧
    (∃ f, renderJson .standard ("[" ++ Json.showIndex ++ ",null]") =
      .error (.notTree f)) ∧
    renderJson .standard
      ("[" ++ Json.showDatabases ++ "," ++ Json.showDatabases ++ "]") =
      renderAll .standard [s, s] ∧
    renderJson .standard ("[ " ++ Json.showDatabases ++ " ]") =
      renderJson .standard Json.showDatabases ∧
    renderJson .standard ("[" ++ Json.showDatabases ++ "]") =
      renderJson .standard Json.showDatabases := by
  obtain ⟨hlist, -, hunknown, hjson, hsingle⟩ := renderAll_renderJson_compositional
  obtain ⟨hread, henclosed⟩ := hsingle .standard Json.showDatabases
    (.object [("type", .string "show"),
      ("target", .object [("type", .string "databases")])])
    fun _ h => nomatch h
  refine ⟨hlist .standard [.list .databases] [.list .databases] nofun nofun,
    hunknown _ _ "oracle" rfl (by decide +kernel),
    (hjson .standard .standard _ rfl).1 rfl, ?_, ?_, hread _ rfl rfl,
    (henclosed rfl).2.2⟩
  · exact ((hjson .standard .standard _ rfl).2 [_, .null] rfl).1 .null
      (by simp) .shape rfl
  · exact ((hjson .standard .standard _ rfl).2 [_, _] rfl).2 [_, _] rfl

end SqlPrinter
