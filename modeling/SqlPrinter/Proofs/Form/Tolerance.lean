/-
The JSON form is tolerant.  What a value is decoded to does not depend on keys that
no field has, on fields that are written although they have their default, nor on
whether an optional field without a value is null or missing.
-/
import SqlPrinter.Proofs.Entry
import SqlPrinter.Proofs.Form.Default
import SqlPrinter.Proofs.Form.Edit

namespace SqlPrinter

open Form

namespace Form.Readers

/-- Readers that reach to the bottom of every value. -/
def whole : Readers where
  expr inVariant j := (upTo j.depth).expr inVariant j
  table inVariant j := (upTo j.depth).table inVariant j
  body inVariant j := (upTo j.depth).body inVariant j
  query inVariant j := (upTo j.depth).query inVariant j

/-- Reading to a depth is reading without a limit, as far as that depth. -/
theorem upTo_agree_whole (d : Nat) : (upTo d).Agree d whole where
  expr inVariant j hdepth :=
    ((upTo_agree hdepth).expr inVariant j (Nat.le_refl _)).symm
  table inVariant j hdepth :=
    ((upTo_agree hdepth).table inVariant j (Nat.le_refl _)).symm
  body inVariant j hdepth :=
    ((upTo_agree hdepth).body inVariant j (Nat.le_refl _)).symm
  query inVariant j hdepth :=
    ((upTo_agree hdepth).query inVariant j (Nat.le_refl _)).symm

/-- Nodes inside a node are read by the same readers as the node itself. -/
theorem whole_eq_above : whole = whole.above := by
  have hsame (j : Json) := upTo_agree (Nat.le_succ j.depth)
  have habove (j : Json) := (upTo_agree_whole j.depth).above
  have hself (j : Json) := Nat.le_refl j.depth
  have hsucc (j : Json) := Nat.le_succ j.depth
  refine congr (congr (congr (congrArg Readers.mk ?expr) ?table) ?body) ?query
  case expr =>
    exact funext₂ fun b j =>
      ((hsame j).expr b j (hself j)).trans ((habove j).expr b j (hsucc j))
  case table =>
    exact funext₂ fun b j =>
      ((hsame j).table b j (hself j)).trans ((habove j).table b j (hsucc j))
  case body =>
    exact funext₂ fun b j =>
      ((hsame j).body b j (hself j)).trans ((habove j).body b j (hsucc j))
  case query =>
    exact funext₂ fun b j =>
      ((hsame j).query b j (hself j)).trans ((habove j).query b j (hsucc j))

end Form.Readers

theorem Statement.read_whole (j : Json) : read .whole false j = ofJson j :=
  (Node.agrees_statement (Readers.upTo_agree_whole j.depth) false j
    (Nat.le_refl _)).symm

theorem Statement.list_read_whole (items : List Json) :
    Reader.list (read .whole) false (.array items) = items.mapM ofJson :=
  mapM_congr fun j _ => read_whole j

/-! ## Unknown keys -/

/-- One of the fields has the key. -/
inductive Form.Fields.Names (key : String) : {α : Type} → Fields α → Prop
  | field {reader : Reader α} : Names key (.field key reader missing)
  | left {f : Fields (α → β)} {x : Fields α} : Names key f → Names key (.both f x)
  | right {f : Fields (α → β)} {x : Fields α} : Names key x → Names key (.both f x)

/-- Fields that are put together from single ones. -/
inductive Form.Fields.Composed : {α : Type} → Fields α → Prop
  | none : Composed (.none a)
  | both {f : Fields (α → β)} {x : Fields α} : Composed f → Composed x →
      Composed (.both f x)
  | field {reader : Reader α} : Composed (.field key reader missing)

theorem Form.Fields.Documented.composed {α : Type} {fields : Fields α}
    {keys : List String} : fields.Documented keys → fields.Composed
  | .none => .none
  | .both hf hx => .both hf.composed hx.composed
  | .required _ | .withDefault _ _ | .optional _ => .field

section Unknown

variable {inVariant : Bool} {entries entries' front back : List (String × Json)}
  {key : String}

/-- Only what stands under the keys of the fields counts. -/
theorem Form.Fields.Composed.edit {α : Type} {fields : Fields α} {i : Nat} :
    fields.Composed → (∀ key, fields.Names key →
        entries'.lookup key = entries.lookup key) →
      fields.Edit inVariant (.entries entries) (.entries entries') i
  | .none, _ => .none
  | .both hf hx, hsame =>
      .both (hf.edit fun key hkey => hsame key hkey.left)
        (hx.edit fun key hkey => hsame key hkey.right)
  | .field, hsame => .kept (hsame _ .field)

/-- An entry of another key hides nothing. -/
theorem Json.lookup_insert {k : String} {j : Json} (hk : k ≠ key) :
    (front ++ (key, j) :: back).lookup k = (front ++ back).lookup k := by
  simp only [List.lookup_append, List.lookup_cons, beq_false_of_ne hk]

/-- A key that no field has may be put anywhere in a record. -/
theorem Form.Fields.Composed.edit_insert {α : Type} {fields : Fields α}
    (h : fields.Composed) (hkey : ¬ fields.Names key) (j : Json) :
    (Reader.record fields).Edit inVariant (.object (front ++ back))
      (.object (front ++ (key, j) :: back)) := by
  refine .record (h.edit fun k hk => Json.lookup_insert ?_)
  rintro rfl
  exact hkey hk

/-- A key that no field has may be put anywhere in a variant, unless it is
that of the tag. -/
theorem Form.Fields.Composed.edit_insert_variant {α : Type} {fields : Fields α}
    (h : fields.Composed) {variants : List (String × Fields α)}
    (hfields : ((front ++ back).lookup "type").bind
      (Reader.choose variants inVariant) =
      some fields) (htag : key ≠ "type") (hkey : ¬ fields.Names key) (j : Json) :
    (Reader.tagged variants).Edit inVariant (.object (front ++ back))
      (.object (front ++ (key, j) :: back)) := by
  refine .variant (Json.lookup_insert htag.symm) hfields
    (h.edit fun k hk => Json.lookup_insert ?_)
  rintro rfl
  exact hkey hk

/-- Fields are read only where all keys that they need are there. -/
theorem Form.Fields.Documented.fieldsFrom_needs {α : Type} {fields : Fields α}
    {keys : List String} {a : α} (h : fields.Documented keys)
    (ha : Reader.fieldsFrom fields inVariant (.entries entries) = .ok a) :
    ∀ key ∈ keys, ∃ j, entries.lookup key = some j :=
  h.needs (Reader.fieldsFrom_entries.1 ha)

/-- Fields that were read are read still when keys that they do not need
are left out. -/
theorem Form.Fields.Documented.fieldsFrom_spares {α : Type} {fields : Fields α}
    {keys : List String} {a : α} (h : fields.Documented keys)
    (ha : Reader.fieldsFrom fields inVariant (.entries entries) = .ok a)
    (hkeys : ∀ key ∈ keys, entries'.lookup key = entries.lookup key)
    (hrest : ∀ key,
      entries'.lookup key = entries.lookup key ∨ entries'.lookup key = .none) :
    ∃ a', Reader.fieldsFrom fields inVariant (.entries entries') = .ok a' := by
  obtain ⟨a', ha'⟩ := h.spares hrest hkeys (Reader.fieldsFrom_entries.1 ha)
  exact ⟨a', Reader.fieldsFrom_entries.2 ha'⟩

end Unknown

/-! ## Documents -/

/-- An edit leaves an object an object. -/
theorem Form.Reader.Edit.isSingle {α : Type} {reader : Reader α} {inVariant : Bool}
    {j j' : Json} : reader.Edit inVariant j j' → j.IsSingle → j'.IsSingle
  | .orNull h, hj => h.isSingle hj
  | .record _, _ | .variant _ _ _, _ => nofun
  | .row _ _, hj | .variantRow _ _ _, hj | .item _ _ _, hj | .first _ _, hj
  | .second _ _ _, hj =>
      absurd rfl (hj _)

theorem Form.Reader.Edits.isSingle {α : Type} {reader : Reader α} {inVariant : Bool}
    {j j' : Json} (h : reader.Edits inVariant j j') (hj : j.IsSingle) :
    j'.IsSingle := by
  induction h with
  | refl => exact hj
  | tail _ hedit ih => exact hedit.isSingle ih

variable {settings : Settings} {j j' : Json}

/-- A statement that can be decoded is decoded to the same after any
number of edits. -/
theorem Statement.ofJson_of_edits {s : Statement}
    (h : (read .whole).Edits false j j') (hs : ofJson j = .ok s) :
    ofJson j' = .ok s := by
  rw [← read_whole] at hs ⊢
  exact h.read hs

/-- The text of a statement stays the same. -/
theorem renderValue_of_edits {s : Statement}
    (h : (Statement.read .whole).Edits false j j') (hsingle : j.IsSingle)
    (hs : Statement.ofJson j = .ok s) :
    renderValue settings j = s.render settings ∧
      renderValue settings j' = s.render settings := by
  rw [renderValue_single hsingle, renderValue_single (h.isSingle hsingle), hs,
    Statement.ofJson_of_edits h hs]
  exact ⟨rfl, rfl⟩

/-- The text of a list of statements stays the same. -/
theorem renderValue_of_edits_list {items items' : List Json} {ss : List Statement}
    (h : (Reader.list (Statement.read .whole)).Edits false (.array items)
      (.array items'))
    (hs : items.mapM Statement.ofJson = .ok ss) :
    renderValue settings (.array items) = renderAll settings ss ∧
      renderValue settings (.array items') = renderAll settings ss := by
  have hs' : items'.mapM Statement.ofJson = .ok ss := by
    rw [← Statement.list_read_whole] at hs ⊢
    exact h.read hs
  rw [renderValue_array, renderValue_array, hs, hs']
  exact ⟨rfl, rfl⟩

/-- The JSON form is tolerant.  (1) Whatever is read, by any reader of a record, a
variant or a part of one, is read as the same after any number of edits.  (2) So a
statement is decoded to the same, and (3) it has the same text, (4) as have the
statements of a list.  (5) Expressions and queries are decoded to the same as well.
(6) Among the edits is to put a key that no field has anywhere into a record, or
into a variant if it is not the tag.  (7) The keys that are needed and the defaults
of all the others are those of the JSON form, in all records and variants at all
depths.  (8) Nodes inside a node are read as the node itself is, so that edits reach
any depth.  (9) The fields of (7) are among those of (6); where a key that they need
is missing nothing is read, and any number of their other keys may be left out. -/
theorem Form.decode_tolerant :
    (∀ {α : Type} (reader : Reader α) (inVariant : Bool) (j j' : Json) (a : α),
      reader.Edits inVariant j j' → reader inVariant j = .ok a →
        reader inVariant j' = .ok a) ∧
    (∀ (j j' : Json) (s : Statement), (Statement.read .whole).Edits false j j' →
      Statement.ofJson j = .ok s → Statement.ofJson j' = .ok s) ∧
    (∀ (settings : Settings) (j j' : Json) (s : Statement),
      (Statement.read .whole).Edits false j j' → j.IsSingle →
        Statement.ofJson j = .ok s → renderValue settings j = s.render settings ∧
        renderValue settings j' = s.render settings) ∧
    (∀ (settings : Settings) (items items' : List Json) (ss : List Statement),
      (Reader.list (Statement.read .whole)).Edits false (.array items)
          (.array items') →
      items.mapM Statement.ofJson = .ok ss →
        renderValue settings (.array items) = renderAll settings ss ∧
        renderValue settings (.array items') = renderAll settings ss) ∧
    ((∀ (j j' : Json) (e : Expr), Readers.whole.expr.Edits false j j' →
        Expr.ofJson j = .ok e → Expr.ofJson j' = .ok e) ∧
      ∀ (j j' : Json) (q : Query), Readers.whole.query.Edits false j j' →
        Query.ofJson j = .ok q → Query.ofJson j' = .ok q) ∧
    ((∀ {α : Type} (fields : Fields α) (inVariant : Bool)
        (front back : List (String × Json)) (key : String) (j : Json),
        fields.Composed → ¬ fields.Names key →
        (Reader.record fields).Edit inVariant (.object (front ++ back))
          (.object (front ++ (key, j) :: back))) ∧
      ∀ {α : Type} (variants : List (String × Fields α)) (fields : Fields α)
        (inVariant : Bool) (front back : List (String × Json)) (key : String)
        (j : Json), fields.Composed →
        ((front ++ back).lookup "type").bind (Reader.choose variants inVariant) =
            some fields →
        key ≠ "type" → ¬ fields.Names key →
        (Reader.tagged variants).Edit inVariant (.object (front ++ back))
          (.object (front ++ (key, j) :: back))) ∧
    (∀ d, (Statement.read (.upTo d)).Documented) ∧
    Readers.whole = Readers.whole.above ∧
    (∀ {α : Type} (fields : Fields α) (keys : List String), fields.Documented keys →
      fields.Composed ∧ ∀ (inVariant : Bool) (entries : List (String × Json))
        (a : α), Reader.fieldsFrom fields inVariant (.entries entries) = .ok a →
        (∀ key ∈ keys, ∃ j, entries.lookup key = some j) ∧
        ∀ entries' : List (String × Json),
          (∀ key ∈ keys, entries'.lookup key = entries.lookup key) →
          (∀ key, entries'.lookup key = entries.lookup key ∨
            entries'.lookup key = none) →
            ∃ a', Reader.fieldsFrom fields inVariant (.entries entries') =
              .ok a') := by
  refine ⟨?_, ?_, ?_, ?_, ⟨?_, ?_⟩, ⟨?_, ?_⟩, ?_, ?_, ?_⟩
  · exact fun reader inVariant j j' a h ha => h.read ha
  · exact fun j j' s h hs => Statement.ofJson_of_edits h hs
  · exact fun settings j j' s h hsingle hs => renderValue_of_edits h hsingle hs
  · exact fun settings items items' ss h hs => renderValue_of_edits_list h hs
  · exact fun j j' e (h : Readers.whole.expr.Edits false j j') he => h.read he
  · exact fun j j' q (h : Readers.whole.query.Edits false j j') hq => h.read hq
  · exact fun fields inVariant front back key j h hkey => h.edit_insert hkey j
  · exact fun variants fields inVariant front back key j h hfields htag hkey =>
      h.edit_insert_variant hfields htag hkey j
  · exact fun d => Node.documented_statement (Readers.upTo_documented d)
  · exact Readers.whole_eq_above
  · exact fun fields keys h => ⟨h.composed, fun inVariant entries a ha =>
      ⟨h.fieldsFrom_needs ha, fun entries' => h.fieldsFrom_spares ha⟩⟩

/-- One edit that leaves out a flag that is off, puts in a key that no field has,
and writes null for a schema that is missing. -/
theorem Form.decode_tolerant_analyze :
    let j := Json.object [("type", .string "analyze"),
      ("table_keyword", .bool false),
      ("names", .array [.object [("name", .string "t")]])]
    let j' := Json.object [("type", .string "analyze"),
      ("names", .array [.object [("note", .array []), ("schema", .null),
        ("name", .string "t")]])]
    let s := Statement.analyze ⟨false, [⟨none, "t"⟩]⟩
    (Statement.read .whole).Edits false j j' ∧ Statement.ofJson j = .ok s ∧
      Statement.ofJson j' = .ok s := by
  intro j j' s
  have hname : ObjectName.read.Edit true (.object [("name", .string "t")])
      (.object [("note", .array []), ("schema", .null), ("name", .string "t")]) :=
    .record <| .both (.both .none (.null rfl rfl)) (.kept rfl)
  have hedit : (Statement.read .whole).Edit false j j' := by
    have hfields :
        Reader.choose (Statement.variants .whole) false (.string "analyze") =
      some (Statement.analyze <$> Analyze.fields) := rfl
    refine .variant rfl hfields (.both .none ?_)
    exact .both (.both .none (.removed rfl rfl rfl))
      (.inside rfl rfl (.item [] [] hname))
  have hs : Statement.ofJson j = .ok s := rfl
  exact ⟨.single hedit, hs, decode_tolerant.2.1 j j' s (.single hedit) hs⟩

end SqlPrinter
