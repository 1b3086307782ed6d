/-
The values of fields that are not written.  Which keys a record has to have, and
what a field has for a value when its key is missing, is written into the readers,
field by field.  Here it is compared with two tables of the JSON form: one of the
keys that are needed, and one of the defaults.
-/
import SqlPrinter.Form.Statement
import SqlPrinter.Proofs.Form.Edit

namespace SqlPrinter

/-- The defaults of the JSON form.  A flag is off, but for two that are on. -/
inductive Form.IsDefault : String → {α : Type} → α → Prop
  | absent : IsDefault key (none : Option α)
  | empty : IsDefault key ([] : List α)
  | off : key ∉ ["args_parentheses", "into"] → IsDefault key false
  | argsParentheses : IsDefault "args_parentheses" true
  | into : IsDefault "into" true
  | sigil : IsDefault "prefix" "@"
  | hexStyle : IsDefault "style" HexForm.quoted
  | bitStyle : IsDefault "style" BitForm.quoted
  | position : IsDefault "position" IntoPosition.afterColumns
  | keyword : IsDefault "keyword" DatabaseKeyword.database
  | options : IsDefault "options" ColumnOptions.plain

/-- The keys that a record has to have.  All its other keys may be left out. -/
inductive Form.RecordKeys : Type → List String → Prop
  | columnRef : RecordKeys ColumnRef ["column"]
  | objectName : RecordKeys ObjectName ["name"]
  | keywordValue : RecordKeys KeywordValue ["keyword", "value"]
  | locking : RecordKeys Locking ["mode"]
  | sortKey : RecordKeys OrderItem ["expr"]
  | frame : RecordKeys WindowFrame ["units", "start"]
  | window : RecordKeys WindowSpec []
  | namedWindow : RecordKeys NamedWindow ["name", "spec"]
  | call : RecordKeys FunctionCall ["name"]
  | dataType : RecordKeys DataType ["data_type"]
  | castTail : RecordKeys CastTail ["operator", "expr"]
  | anyValueHaving : RecordKeys AnyValueHaving ["prefix", "expr"]
  | selectInto : RecordKeys SelectInto ["target"]
  | join : RecordKeys Join ["kind", "table"]
  | cte : RecordKeys Cte ["name", "query"]
  | ctes : RecordKeys With ["ctes"]
  | query : RecordKeys Query ["body"]
  | assignment : RecordKeys Assignment ["col", "value"]
  | conflict : RecordKeys ConflictClause []
  | reference : RecordKeys Reference ["table"]
  | columnOptions : RecordKeys ColumnOptions []
  | columnDef : RecordKeys ColumnDef ["name"]
  | indexColumn : RecordKeys IndexColumn ["column"]
  | indexDef : RecordKeys IndexDef ["kind", "columns"]
  | tableOption : RecordKeys TableOption ["keyword", "value"]

/-- The tags of a type with variants, each with the keys that it has to
have besides. -/
inductive Form.VariantKeys : Type → List (String × List String) → Prop
  | literal : VariantKeys Literal
      [("string", ["value"]), ("national", ["value"]), ("hex", ["value"]),
        ("bit", ["value"]), ("number", ["value"]), ("bool", ["value"]),
        ("null", []), ("typed", ["kind", "value"])]
  | parameter : VariantKeys Parameter
      [("question", []), ("dollar", ["index"]), ("named", ["name"]), ("bind", [])]
  | bound : VariantKeys FrameBound
      [("unbounded_preceding", []), ("preceding", ["expr"]), ("current_row", []),
        ("following", ["expr"]), ("unbounded_following", [])]
  | over : VariantKeys Over [("named", ["name"]), ("spec", [])]
  | expr : VariantKeys Expr
      [("column", ["column"]), ("star", []), ("keyword", ["value"]),
        ("literal", ["value"]), ("param", ["param"]), ("var", ["name"]),
        ("binary", ["left", "op", "right"]), ("unary", ["op", "expr"]),
        ("between", ["expr", "low", "high"]), ("paren", ["expr"]),
        ("list", ["items"]), ("function", ["name"]), ("aggregate", ["name"]),
        ("cast", ["expr", "target", "symbol"]),
        ("extract", ["name", "field", "source"]), ("any_value", ["name", "expr"]),
        ("case", ["when_then"]), ("subquery", ["query"]),
        ("collate", ["expr", "collate"]), ("full_text", ["columns", "against"]),
        ("interval", ["expr", "unit"])]
  | item : VariantKeys SelectItem
      [("star", []), ("qualified_star", ["table"]), ("expr", ["expr"])]
  | modifier : VariantKeys GroupModifier
      [("rollup", []), ("cube", []), ("grouping_sets", ["sets"])]
  | intoTarget : VariantKeys IntoTarget
      [("vars", ["vars"]), ("outfile", ["file"]), ("dumpfile", ["file"]),
        ("table", ["name"])]
  | table : VariantKeys TableRef
      [("named", ["name"]), ("subquery", ["query"]), ("function", ["function"]),
        ("values", ["rows"]), ("paren", ["table"])]
  | body : VariantKeys QueryBody [("select", []), ("set", ["left", "op", "right"])]
  | source : VariantKeys RowSource
      [("values", ["rows"]), ("query", ["query"]), ("set", ["assignments"])]
  | conflictAction :
      VariantKeys ConflictAction [("do_nothing", []), ("do_update", ["set"])]
  | constraint : VariantKeys TableConstraint
      [("primary_key", ["columns"]), ("unique", ["columns"]),
        ("foreign_key", ["columns", "references"]), ("check", ["expr"])]
  | element : VariantKeys TableElement
      [("column", ["name"]), ("constraint", ["constraint"]),
        ("index", ["kind", "columns"])]
  | alterAction : VariantKeys AlterAction
      [("add_column", ["column"]), ("drop_column", ["name"]),
        ("modify_column", ["column"]), ("change_column", ["old_name", "column"]),
        ("rename_column", ["old_name", "new_name"]),
        ("add_constraint", ["constraint"]), ("add_index", ["index"]),
        ("drop_index", ["name"]), ("drop_primary_key", []),
        ("rename_table", ["to"]), ("set_option", ["option"])]
  | shown : VariantKeys Show
      [("tables", []), ("databases", []), ("columns", ["table"]),
        ("index", ["table"]), ("create", ["kind", "name"])]
  | statement : VariantKeys Statement
      [("query", ["body"]), ("insert", ["table", "source"]),
        ("update", ["table", "set"]), ("delete", ["from"]),
        ("create_table", ["name"]), ("create_database", ["name"]),
        ("create_view", ["name", "query"]),
        ("create_index", ["name", "table", "columns"]),
        ("alter_table", ["name", "actions"]), ("drop", ["kind", "names"]),
        ("show", ["target"]), ("analyze", ["names"]),
        ("attach", ["expr", "schema"])]

namespace Form

mutual

/-- A reader whose records need the keys that the JSON form asks for, and no others,
and have no defaults but those of the JSON form. -/
inductive Reader.Documented : {α : Type} → Reader α → Prop
  | nothing : Reader.Documented (fun _ _ => .error .shape : Reader α)
  | text : Reader.Documented .text
  | flag : Reader.Documented .flag
  | count : Reader.Documented .count
  | word {all : List α} : Reader.Documented (.word all spelling)
  | binaryOp : Reader.Documented BinaryOp.read
  | unaryOp : Reader.Documented UnaryOp.read
  | list {reader : Reader α} :
      Reader.Documented reader → Reader.Documented reader.list
  | pair {first : Reader α} {second : Reader β} : Reader.Documented first →
      Reader.Documented second → Reader.Documented (.pair first second)
  | record {fields : Fields α} : Fields.Documented fields keys → RecordKeys α keys →
      Reader.Documented (.record fields)
  | tagged {variants : List (String × Fields α)} :
      Variants.Documented variants table →
      VariantKeys α table → Reader.Documented (.tagged variants)

/-- Fields of which these keys are needed, and which have no defaults but those of
the JSON form. -/
inductive Fields.Documented : {α : Type} → Fields α → List String → Prop
  | none : Fields.Documented (.none a) []
  | both {f : Fields (α → β)} {x : Fields α} : Fields.Documented f keys →
      Fields.Documented x keys' → Fields.Documented (.both f x) (keys ++ keys')
  | required {reader : Reader α} :
      Reader.Documented reader → Fields.Documented (.required key reader) [key]
  | withDefault {reader : Reader α} : IsDefault key a → Reader.Documented reader →
      Fields.Documented (.withDefault key a reader) []
  | optional {reader : Reader α} :
      Reader.Documented reader → Fields.Documented (.optional key reader) []

/-- Variants with these tags, of which these keys are needed. -/
inductive Variants.Documented :
    {α : Type} → List (String × Fields α) → List (String × List String) → Prop
  | nil : Variants.Documented [] []
  | cons {fields : Fields α} : Fields.Documented fields keys →
      Variants.Documented variants table →
      Variants.Documented ((tag, fields) :: variants) ((tag, keys) :: table)

end

/-- A required field is read where its key is there and has a value
that can be read. -/
theorem Fields.read_required {α : Type} {key : String} {reader : Reader α}
    {inVariant : Bool} {entries : List (String × Json)} {i : Nat} {a : α} :
    (required key reader).read inVariant (.entries entries) i = .ok a ↔
      ∃ j, entries.lookup key = some j ∧ reader inVariant j = .ok a := by
  rw [required, Fields.read_field, Source.value?, find]
  cases entries.lookup key <;> simp

/-- A field with a default can be read wherever it is left out. -/
theorem Fields.read_withDefault_spared {α : Type} {key : String} {default a : α}
    {reader : Reader α} {inVariant : Bool} {entries entries' : List (String × Json)}
    {i : Nat} (h : entries'.lookup key = entries.lookup key ∨
      entries'.lookup key = .none)
    (ha : (withDefault key default reader).read inVariant (.entries entries) i =
      .ok a) :
    ∃ a', (withDefault key default reader).read inVariant (.entries entries') i =
      .ok a' := by
  simp only [withDefault, Fields.read_field, Source.value?, find] at ha ⊢
  rcases h with hsame | hnone
  · exact ⟨a, by rwa [hsame]⟩
  · exact ⟨default, by simp [hnone]⟩

namespace Fields.Documented

variable {α β : Type} {key : String} {keys keys' : List String}

/-- A constant needs no key. -/
theorem pure {a : α} : (Pure.pure a : Fields α).Documented [] :=
  .none

/-- Fields that are read one after another need the keys of both. -/
theorem seq {f : Fields (α → β)} {x : Fields α} (hf : f.Documented keys)
    (hx : x.Documented keys') : (f <*> x).Documented (keys ++ keys') :=
  .both hf hx

/-- What is made of a value needs the keys of the value. -/
theorem map {g : α → β} {x : Fields α} (hx : x.Documented keys) :
    (g <$> x).Documented keys :=
  .both .none hx

/-- A list that may be missing. -/
theorem many {reader : Reader α} (h : reader.Documented) :
    (Fields.withDefault key [] reader.list).Documented [] :=
  .withDefault .empty (.list h)

/-- A flag that is off unless it is written. -/
theorem off (h : key ∉ ["args_parentheses", "into"]) :
    (Fields.withDefault key false .flag).Documented [] :=
  .withDefault (.off h) .flag

variable {inVariant : Bool} {entries entries' : List (String × Json)}

/-- Where a key that is needed is missing, nothing is read. -/
theorem needs {α : Type} {fields : Fields α} {keys : List String} {i : Nat}
    {a : α} :
    fields.Documented keys → fields.read inVariant (.entries entries) i = .ok a →
      ∀ key ∈ keys, ∃ j, entries.lookup key = some j
  | .none, _ => fun _ hkey => absurd hkey List.not_mem_nil
  | .both hf hx, ha => by
      obtain ⟨g, b, hg, hb, _⟩ := Fields.read_both.1 ha
      intro key hkey
      exact (List.mem_append.1 hkey).elim (hf.needs hg key) (hx.needs hb key)
  | .required _, ha => by
      obtain ⟨j, hj, _⟩ := Fields.read_required.1 ha
      intro key hkey
      obtain rfl := List.mem_singleton.1 hkey
      exact ⟨j, hj⟩
  | .withDefault _ _, _ | .optional _, _ =>
      fun _ hkey => absurd hkey List.not_mem_nil

/-- The keys that are not needed may be left out, any number of them. -/
theorem spares {α : Type} {fields : Fields α} {keys : List String} {i : Nat} {a : α}
    (hrest : ∀ key,
      entries'.lookup key = entries.lookup key ∨ entries'.lookup key = .none) :
    fields.Documented keys →
      (∀ key ∈ keys, entries'.lookup key = entries.lookup key) →
      fields.read inVariant (.entries entries) i = .ok a →
      ∃ a', fields.read inVariant (.entries entries') i = .ok a'
  | .none, _, ha => ⟨a, ha⟩
  | .both hf hx, hkeys, ha => by
      obtain ⟨g, b, hg, hb, _⟩ := Fields.read_both.1 ha
      obtain ⟨g', hg'⟩ :=
        hf.spares hrest (fun key hkey => hkeys key (List.mem_append_left _ hkey)) hg
      obtain ⟨b', hb'⟩ :=
        hx.spares hrest (fun key hkey =>
          hkeys key (List.mem_append_right _ hkey)) hb
      exact ⟨g' b', Fields.read_both.2 ⟨g', b', hg', hb', rfl⟩⟩
  | .required _, hkeys, ha => by
      obtain ⟨j, hj, hread⟩ := Fields.read_required.1 ha
      have hkept := (hkeys _ (List.mem_singleton.2 rfl)).trans hj
      exact ⟨a, Fields.read_required.2 ⟨j, hkept, hread⟩⟩
  | .withDefault _ _, _, ha | .optional _, _, ha =>
      Fields.read_withDefault_spared (hrest _) ha

end Fields.Documented

/-- Readers for nodes that need no other keys and have no other defaults. -/
structure Readers.Documented (r : Readers) : Prop where
  expr : r.expr.Documented
  table : r.table.Documented
  body : r.body.Documented
  query : r.query.Documented

end Form

open Form

/-! ## Parts without nodes -/

theorem ColumnRef.documented : fields.Documented ["column"] :=
  .seq (.seq (.map (.optional .text)) (.optional .text)) (.required .text)

theorem ObjectName.documented : read.Documented :=
  .record (.seq (.map (.optional .text)) (.required .text)) .objectName

theorem KeywordValue.documented : read.Documented :=
  .record (.seq (.seq (.map (.required .text)) (.optional .text)) (.required .text))
    .keywordValue

theorem Literal.documented : read.Documented := by
  have hform {α : Type} {make : String → α → Option String → Literal} {a : α}
      {reader : Reader α} (hdefault : IsDefault "style" a) (h : reader.Documented) :
      (make <$> Fields.required "value" .text <*>
        Fields.withDefault "style" a reader <*>
        Fields.optional "prefix" .text).Documented ["value"] :=
    .seq (.seq (.map (.required .text)) (.withDefault hdefault h)) (.optional .text)
  refine .tagged ?_ .literal
  exact .cons (.seq (.map (.required .text)) (.optional .text)) <|
    .cons (.map (.required .text)) <|
    .cons (hform .hexStyle .word) <|
    .cons (hform .bitStyle .word) <|
    .cons (.map (.required .text)) <|
    .cons (.map (.required .flag)) <|
    .cons .pure <|
    .cons (.seq (.map (.required .text)) (.required .text)) .nil

theorem Parameter.documented : read.Documented := by
  refine .tagged ?_ .parameter
  exact .cons .pure <| .cons (.map (.required .count)) <|
    .cons (.map (.required .text)) <|
    .cons .pure .nil

theorem Locking.documented : read.Documented :=
  .record (.seq (.seq (.map (.required .word)) (.many .text)) (.optional .word))
    .locking

theorem Reference.documented : read.Documented := by
  refine .record ?_ .reference
  exact .seq (.seq (.seq (.map (.required ObjectName.documented)) (.many .text))
    (.optional .word)) (.optional .word)

theorem IndexColumn.documented : read.Documented :=
  .record (.seq (.seq (.map (.required .text)) (.optional .count))
    (.optional .word))
    .indexColumn

theorem IndexDef.documented : fields.Documented ["kind", "columns"] :=
  .seq (.seq (.seq (.map (.required .word)) (.optional .text))
    (.required (.list IndexColumn.documented))) (.optional .word)

theorem TableOption.documented : read.Documented :=
  .record (.seq (.map (.required .text)) (.required .text)) .tableOption

theorem Show.documented : fields.Documented ["target"] := by
  refine .required (.tagged ?_ .shown)
  exact .cons (.map (.optional .text)) <|
    .cons .pure <|
    .cons (.map (.required ObjectName.documented)) <|
    .cons (.map (.required ObjectName.documented)) <|
    .cons (.seq (.map (.required .word)) (.required ObjectName.documented)) .nil

namespace Node

variable {r : Readers} (h : r.Documented)

include h

/-! ## Windows and calls -/

theorem documented_sortKey : (OrderItem.read r).Documented :=
  .record (.seq (.seq (.map (.required h.expr)) (.optional .word))
    (.optional .word)) .sortKey

theorem documented_bound : (Reader.tagged (FrameBound.variants r)).Documented := by
  refine .tagged ?_ .bound
  exact .cons .pure <| .cons (.map (.required h.expr)) <| .cons .pure <|
    .cons (.map (.required h.expr)) <| .cons .pure .nil

/-- Every part of a window may be left out. -/
theorem documented_window : (WindowSpec.fields r).Documented [] := by
  have hframe : (WindowFrame.fields r).Documented ["units", "start"] :=
    .seq (.seq (.map (.required .word)) (.required (documented_bound h)))
      (.optional (documented_bound h))
  exact (Fields.Documented.map (.optional .text))
    |>.seq (.many h.expr)
    |>.seq (.many (documented_sortKey h))
    |>.seq (.optional (.record hframe .frame))

theorem documented_over : (Over.read r).Documented :=
  .tagged (.cons (.map (.required .text)) <|
    .cons (.map (documented_window h)) .nil) .over

/-- A call needs its name only. -/
theorem documented_call : (FunctionCall.fields r).Documented ["name"] :=
  (Fields.Documented.map (.required .text))
    |>.seq (.optional (.list h.expr))
    |>.seq (.withDefault .argsParentheses .flag)
    |>.seq (.optional .text)
    |>.seq (.off (by decide))
    |>.seq (.optional (documented_over h))
    |>.seq (.optional KeywordValue.documented)
    |>.seq (.optional h.expr)

theorem documented_aggregate : (Aggregate.fields r).Documented ["name"] :=
  (Fields.Documented.map (.required .text))
    |>.seq (.off (by decide))
    |>.seq (.many h.expr)
    |>.seq (.many (documented_sortKey h))
    |>.seq (.optional h.expr)
    |>.seq (.optional h.expr)
    |>.seq (.optional (documented_over h))

theorem documented_dataType : (DataType.read r).Documented := by
  refine .record ?_ .dataType
  exact (Fields.Documented.map (.required .text))
    |>.seq (.optional .count)
    |>.seq (.optional .count)
    |>.seq (.off (by decide))
    |>.seq (.optional .text)
    |>.seq (.many .text)
    |>.seq (.optional .word)
    |>.seq (.many h.expr)

/-- A cast needs its operand, its target type and the form it is written in. -/
theorem documented_cast :
    (Cast.fields r).Documented ["expr", "target", "symbol"] := by
  have htail : (CastTail.fields r).Documented ["operator", "expr"] :=
    .seq (.map (.required .text)) (.required h.expr)
  exact (Fields.Documented.map (.required h.expr))
    |>.seq (.required (documented_dataType h))
    |>.seq (.required .word)
    |>.seq (.optional .text)
    |>.seq (.optional (.record htail .castTail))
    |>.seq (.optional .text)
    |>.seq (.optional KeywordValue.documented)

theorem documented_extract :
    (Extract.fields r).Documented ["name", "field", "source"] :=
  .seq (.seq (.seq (.map (.required .text)) (.required .text)) (.optional .text))
    (.required h.expr)

theorem documented_anyValue : (AnyValue.fields r).Documented ["name", "expr"] := by
  have hhaving : (AnyValueHaving.fields r).Documented ["prefix", "expr"] :=
    .seq (.map (.required .text)) (.required h.expr)
  exact (Fields.Documented.map (.required .text))
    |>.seq (.required h.expr)
    |>.seq (.optional (.record hhaving .anyValueHaving))
    |>.seq (.optional (documented_over h))

/-! ## Expressions and queries -/

/-- Each kind of expression needs the keys that its variant names. -/
theorem documented_expr : (Reader.tagged (Expr.variants r)).Documented := by
  have hexpr {key : String} : (Fields.required key r.expr).Documented [key] :=
    .required h.expr
  have hcolumn : (Reader.record ColumnRef.fields).Documented :=
    .record ColumnRef.documented .columnRef
  refine .tagged ?_ .expr
  exact .cons (.map ColumnRef.documented) <|
    .cons (.map (.optional .text)) <|
    .cons (.map (.required .text)) <|
    .cons (.map (.required Literal.documented)) <|
    .cons (.map (.required Parameter.documented)) <|
    .cons (.seq (.map (.withDefault .sigil .text)) (.required .text)) <|
    .cons (.seq (.seq (.map hexpr) (.required .binaryOp)) hexpr) <|
    .cons (.seq (.map (.required .unaryOp)) hexpr) <|
    .cons (.seq (.seq (.seq (.map hexpr) (.off (by decide))) hexpr) hexpr) <|
    .cons (.map hexpr) <|
    .cons (.map (.required (.list h.expr))) <|
    .cons (.map (documented_call h)) <|
    .cons (.map (documented_aggregate h)) <|
    .cons (.map (documented_cast h)) <|
    .cons (.map (documented_extract h)) <|
    .cons (.map (documented_anyValue h)) <|
    .cons
      (.seq (.seq (.map (.optional h.expr))
        (.required (.list (.pair h.expr h.expr))))
      (.optional h.expr)) <|
    .cons (.map (.required h.query)) <|
    .cons (.seq (.map hexpr) (.required KeywordValue.documented)) <|
    .cons (.seq (.seq (.map (.required (.list hcolumn))) hexpr)
      (.optional .text)) <|
    .cons (.seq (.map hexpr) (.required .text)) .nil

theorem documented_item : (SelectItem.read r).Documented := by
  refine .tagged ?_ .item
  exact .cons .pure <| .cons (.map (.required .text)) <|
    .cons (.seq (.map (.required h.expr)) (.optional .text)) .nil

theorem documented_modifier :
    (Reader.tagged (GroupModifier.variants r)).Documented := by
  refine .tagged ?_ .modifier
  exact .cons .pure <| .cons .pure <|
    .cons (.map (.required (.list (.list h.expr)))) .nil

theorem documented_into : (Reader.record (SelectInto.fields r)).Documented := by
  have htarget : (Reader.tagged (IntoTarget.variants r)).Documented := by
    refine .tagged ?_ .intoTarget
    exact .cons (.map (.required (.list h.expr))) <|
      .cons (.seq (.map (.required .text)) (.optional .text)) <|
      .cons (.map (.required .text)) <|
      .cons (.map (.required .text)) .nil
  exact .record (.seq (.map (.withDefault .position .word)) (.required htarget))
    .selectInto

theorem documented_table : (Reader.tagged (TableRef.variants r)).Documented := by
  refine .tagged ?_ .table
  exact .cons (.seq (.seq (.map (.optional .text)) (.required .text))
    (.optional .text)) <|
    .cons (.seq (.map (.required h.query)) (.optional .text)) <|
    .cons (.seq (.map (.required (.record (documented_call h) .call)))
      (.optional .text)) <|
    .cons (.seq (.seq (.map (.required (.list (.list h.expr)))) (.off (by decide)))
      (.optional .text)) <|
    .cons (.map (.required h.table)) .nil

theorem documented_join : (Join.read r).Documented := by
  refine .record ?_ .join
  exact .seq (.seq (.seq (.map (.required .word)) (.required h.table))
    (.optional h.expr))
    (.optional (.list .text))

theorem documented_namedWindow :
    (Reader.record (NamedWindow.fields r)).Documented :=
  .record (.seq (.map (.required .text))
    (.required (.record (documented_window h) .window)))
    .namedWindow

/-- Every part of a SELECT may be left out, its items too. -/
theorem documented_select : (Select.fields r).Documented [] :=
  (Fields.Documented.map (.off (by decide)))
    |>.seq (.many h.expr)
    |>.seq (.many .text)
    |>.seq (.many (documented_item h))
    |>.seq (.optional (documented_into h))
    |>.seq (.many h.table)
    |>.seq (.many (documented_join h))
    |>.seq (.optional h.expr)
    |>.seq (.many h.expr)
    |>.seq (.many (documented_modifier h))
    |>.seq (.optional h.expr)
    |>.seq (.many (documented_namedWindow h))
    |>.seq (.many (documented_sortKey h))
    |>.seq (.optional h.expr)
    |>.seq (.optional h.expr)
    |>.seq (.optional Locking.documented)

theorem documented_body : (Reader.tagged (QueryBody.variants r)).Documented := by
  refine .tagged ?_ .body
  exact .cons (.map (documented_select h)) <|
    .cons (.seq (.seq (.map (.required h.body)) (.required .word))
      (.required h.body)) .nil

theorem documented_with : (With.read r).Documented := by
  have hcte : (Cte.fields r).Documented ["name", "query"] :=
    .seq (.seq (.seq (.map (.required .text)) (.many .text)) (.optional .word))
      (.required h.query)
  exact .record (.seq (.map (.off (by decide)))
    (.required (.list (.record hcte .cte)))) .ctes

/-- A query needs its body only. -/
theorem documented_query : (Query.fields r).Documented ["body"] :=
  (Fields.Documented.map (.optional (documented_with h)))
    |>.seq (.required h.body)
    |>.seq (.many (documented_sortKey h))
    |>.seq (.optional h.expr)
    |>.seq (.optional h.expr)

/-! ## Changes of rows -/

theorem documented_assignment : (Assignment.read r).Documented := by
  refine .record ?_ .assignment
  exact .seq (.seq (.seq (.map (.optional .text)) (.required .text))
    (.required h.expr))
    (.off (by decide))

/-- An INSERT needs its table and its source. -/
theorem documented_insert : (Insert.fields r).Documented ["table", "source"] := by
  have hsource : (Reader.tagged (RowSource.variants r)).Documented := by
    refine .tagged ?_ .source
    exact .cons (.map (.required (.list (.list h.expr)))) <|
      .cons (.map (.required h.query)) <|
      .cons (.map (.required (.list (documented_assignment h)))) .nil
  have haction : (Reader.tagged (ConflictAction.variants r)).Documented := by
    refine .tagged ?_ .conflictAction
    exact .cons .pure <|
      .cons (.seq (.map (.required (.list (documented_assignment h))))
        (.optional h.expr)) .nil
  have hconflict : (ConflictClause.fields r).Documented [] :=
    .seq (.seq (.map (.many .text)) (.optional .text)) (.optional haction)
  exact (Fields.Documented.map (.off (by decide)))
    |>.seq (.off (by decide))
    |>.seq (.withDefault .into .flag)
    |>.seq (.required h.table)
    |>.seq (.many .text)
    |>.seq (.required hsource)
    |>.seq (.optional (.record hconflict .conflict))
    |>.seq (.many (documented_item h))

/-- An UPDATE needs its table and its assignments. -/
theorem documented_update : (Update.fields r).Documented ["table", "set"] :=
  (Fields.Documented.map (.optional (documented_with h)))
    |>.seq (.optional .word)
    |>.seq (.required h.table)
    |>.seq (.many (documented_join h))
    |>.seq (.required (.list (documented_assignment h)))
    |>.seq (.many h.table)
    |>.seq (.optional h.expr)
    |>.seq (.many (documented_sortKey h))
    |>.seq (.optional h.expr)
    |>.seq (.many (documented_item h))

/-- A DELETE needs the table it deletes from. -/
theorem documented_delete : (Delete.fields r).Documented ["from"] :=
  (Fields.Documented.map (.optional (documented_with h)))
    |>.seq (.many .text)
    |>.seq (.required (.list h.table))
    |>.seq (.many (documented_join h))
    |>.seq (.many h.table)
    |>.seq (.optional h.expr)
    |>.seq (.many (documented_sortKey h))
    |>.seq (.optional h.expr)
    |>.seq (.many (documented_item h))

/-! ## Statements about tables -/

/-- A column definition needs a name, and its data type may be missing. -/
theorem documented_columnDef : (ColumnDef.fields r).Documented ["name"] := by
  have hoptions : (ColumnOptions.fields r).Documented [] :=
    (Fields.Documented.map (.optional .flag))
      |>.seq (.optional h.expr)
      |>.seq (.optional h.expr)
      |>.seq (.off (by decide))
      |>.seq (.off (by decide))
      |>.seq (.off (by decide))
      |>.seq (.optional .text)
      |>.seq (.optional .text)
      |>.seq (.optional .text)
      |>.seq (.optional h.expr)
      |>.seq (.optional Reference.documented)
  exact (Fields.Documented.map (.required .text))
    |>.seq (.optional (documented_dataType h))
    |>.seq (.withDefault .options (.record hoptions .columnOptions))

theorem documented_constraint : (TableConstraint.read r).Documented := by
  have hname : (Fields.optional "constraint" .text).Documented [] := .optional .text
  have hcolumns :
      (Fields.required "columns" (.list IndexColumn.read)).Documented ["columns"] :=
    .required (.list IndexColumn.documented)
  refine .tagged ?_ .constraint
  exact .cons (.seq (.seq (.map hname) hcolumns) (.optional .word)) <|
    .cons (.seq (.seq (.seq (.seq (.map hname) (.optional .word)) (.optional .text))
      hcolumns) (.optional .word)) <|
    .cons (.seq (.seq (.map hname) (.required (.list .text)))
      (.required Reference.documented)) <|
    .cons (.seq (.map hname) (.required h.expr)) .nil

/-- CREATE TABLE needs a name, and its elements may be missing. -/
theorem documented_createTable : (CreateTable.fields r).Documented ["name"] := by
  have helement : (TableElement.read r).Documented := by
    refine .tagged ?_ .element
    exact .cons (.map (documented_columnDef h)) <|
      .cons (.map (.required (documented_constraint h))) <|
      .cons (.map IndexDef.documented) .nil
  exact (Fields.Documented.map (.off (by decide)))
    |>.seq (.off (by decide))
    |>.seq (.required ObjectName.documented)
    |>.seq (.many helement)
    |>.seq (.many TableOption.documented)
    |>.seq (.optional h.query)
    |>.seq (.optional ObjectName.documented)

theorem documented_action :
    (Reader.tagged (AlterAction.variants r)).Documented := by
  have hflag : (Fields.withDefault "column_keyword" false .flag).Documented [] :=
    .off (by decide)
  have hcolumn :
      (Fields.required "column" (ColumnDef.read r)).Documented ["column"] :=
    .required (.record (documented_columnDef h) .columnDef)
  refine .tagged ?_ .alterAction
  exact .cons (.seq (.map hflag) hcolumn) <|
    .cons (.seq (.map hflag) (.required .text)) <|
    .cons (.seq (.map hflag) hcolumn) <|
    .cons (.seq (.seq (.map hflag) (.required .text)) hcolumn) <|
    .cons (.seq (.map (.required .text)) (.required .text)) <|
    .cons (.map (.required (documented_constraint h))) <|
    .cons (.map (.required (.record IndexDef.documented .indexDef))) <|
    .cons (.map (.required .text)) <|
    .cons .pure <|
    .cons (.map (.required ObjectName.documented)) <|
    .cons (.map (.required TableOption.documented)) .nil

/-- Each kind of statement needs the keys that its variant names. -/
theorem documented_statement : (Statement.read r).Documented := by
  have hcreateDatabase : CreateDatabase.fields.Documented ["name"] :=
    (Fields.Documented.map (.withDefault .keyword .word))
      |>.seq (.off (by decide))
      |>.seq (.required .text)
      |>.seq (.many TableOption.documented)
  have hcreateView : (CreateView.fields r).Documented ["name", "query"] :=
    .seq (.seq (.seq (.map (.off (by decide))) (.required ObjectName.documented))
      (.many .text))
      (.required h.query)
  have hcreateIndex : CreateIndex.fields.Documented ["name", "table", "columns"] :=
    (Fields.Documented.map (.off (by decide)))
      |>.seq (.off (by decide))
      |>.seq (.required .text)
      |>.seq (.required ObjectName.documented)
      |>.seq (.required (.list IndexColumn.documented))
      |>.seq (.optional .word)
  have halterTable : (AlterTable.fields r).Documented ["name", "actions"] :=
    .seq (.map (.required ObjectName.documented))
      (.required (.list (documented_action h)))
  have hdrop : Drop.fields.Documented ["kind", "names"] :=
    .seq (.seq (.seq (.map (.required .word)) (.off (by decide)))
      (.required (.list ObjectName.documented))) (.optional ObjectName.documented)
  have hanalyze : Analyze.fields.Documented ["names"] :=
    .seq (.map (.off (by decide))) (.required (.list ObjectName.documented))
  have hattach : (Attach.fields r).Documented ["expr", "schema"] :=
    .seq (.map (.required h.expr)) (.required .text)
  refine .tagged ?_ .statement
  exact .cons (.map (documented_query h)) <|
    .cons (.map (documented_insert h)) <|
    .cons (.map (documented_update h)) <|
    .cons (.map (documented_delete h)) <|
    .cons (.map (documented_createTable h)) <|
    .cons (.map hcreateDatabase) <|
    .cons (.map hcreateView) <|
    .cons (.map hcreateIndex) <|
    .cons (.map halterTable) <|
    .cons (.map hdrop) <|
    .cons (.map Show.documented) <|
    .cons (.map hanalyze) <|
    .cons (.map hattach) .nil

end Node

/-- The readers of all depths have no other defaults. -/
theorem Form.Readers.upTo_documented (d : Nat) : (upTo d).Documented := by
  induction d with
  | zero => exact ⟨.nothing, .nothing, .nothing, .nothing⟩
  | succ d ih =>
      exact {
        expr := Node.documented_expr ih
        table := Node.documented_table ih
        body := Node.documented_body ih
        query := .record (Node.documented_query ih) .query }

end SqlPrinter
