/-
Readers that reach deep enough.  A value is read in the same way, faults included,
by all readers that reach at least to its bottom.  So an item of an array is read
as it would be read alone, although the array is deeper than the item.
-/
import Mathlib.Data.List.Forall2
import SqlPrinter.Form.Statement
import SqlPrinter.Proofs.Form.Reading

namespace SqlPrinter

namespace Json

/-- An item of an array is nested less deeply than the array. -/
theorem depth_lt_of_mem {items : List Json} {j : Json} (h : j ∈ items) :
    j.depth < (array items).depth :=
  Nat.lt_succ_of_le (depth_le_depthOfItems h)

theorem depthOfItems_tail_le (j : Json) (items : List Json) :
    depthOfItems items ≤ depthOfItems (j :: items) :=
  Nat.le_max_right _ _

end Json

namespace Form

variable {α β : Type}

/-- The depth of the deepest value among the fields. -/
def Source.depth : Source → Nat
  | .entries es => Json.depthOfEntries es
  | .items js => Json.depthOfItems js

/-- Two readers that read all values alike that are no deeper than `d`. -/
def Reader.Agrees (d : Nat) (reader reader' : Reader α) : Prop :=
  ∀ inVariant j, j.depth ≤ d → reader inVariant j = reader' inVariant j

/-- Two ways to read fields that read values alike that are no deeper than `d`. -/
structure Fields.Agrees (d : Nat) (fields fields' : Fields α) : Prop where
  count : fields.count = fields'.count
  read : ∀ inVariant (source : Source) i, source.depth ≤ d →
    fields.read inVariant source i = fields'.read inVariant source i

/-- Variants with the same tags whose fields are read alike. -/
def Variants.Agree (d : Nat) :
    List (String × Fields α) → List (String × Fields α) → Prop :=
  List.Forall₂ fun v v' => v.1 = v'.1 ∧ v.2.Agrees d v'.2

/-! ## Fields -/

namespace Fields.Agrees

variable {d i : Nat} {key : String} {reader reader' : Reader α}

theorem refl {fields : Fields α} : fields.Agrees d fields :=
  ⟨rfl, fun _ _ _ _ => rfl⟩

/-- Fields agree when both halves do, since they read the same source. -/
theorem seq {f f' : Fields (α → β)} {x x' : Fields α} (hf : f.Agrees d f')
    (hx : x.Agrees d x') : (f <*> x).Agrees d (f' <*> x') where
  count := congrArg₂ (· + ·) hf.count hx.count
  read inVariant source i hdepth := by
    change (Fields.both f x).read inVariant source i =
      (Fields.both f' x').read inVariant source i
    simp only [Fields.both, hf.read inVariant source i hdepth, hf.count,
      hx.read inVariant source _ hdepth]

theorem map {g : α → β} {x x' : Fields α} (hx : x.Agrees d x') :
    (g <$> x).Agrees d (g <$> x') :=
  seq refl hx

/-- What is found in a source is no deeper than the source. -/
theorem depth_le_of_find {source : Source} {j : Json} {name : Option String}
    (h : find key source i = (some j, name)) : j.depth ≤ source.depth := by
  cases source with
  | entries entries => exact Json.depth_le_depthOfEntries (congrArg Prod.fst h)
  | items items =>
      exact Json.depth_le_depthOfItems (List.mem_of_getElem? (congrArg Prod.fst h))

/-- A field agrees when its reader does: the value it reads is nested no deeper than
the record. -/
theorem field {missing : Except FieldFault α} (h : reader.Agrees d reader') :
    (Fields.field key reader missing).Agrees d
      (Fields.field key reader' missing) where
  count := rfl
  read inVariant source i hdepth := by
    simp only [Fields.field]
    split
    · next j name hj =>
        rw [h inVariant j (Nat.le_trans (depth_le_of_find hj) hdepth)]
    · rfl

theorem required (h : reader.Agrees d reader') :
    (Fields.required key reader).Agrees d (Fields.required key reader') :=
  field h

theorem withDefault {default : α} (h : reader.Agrees d reader') :
    (Fields.withDefault key default reader).Agrees d
      (Fields.withDefault key default reader') :=
  field h

theorem optional (h : reader.Agrees d reader') :
    (Fields.optional key reader).Agrees d (Fields.optional key reader') := by
  refine withDefault fun inVariant j hdepth => ?_
  cases j with
  | null => rfl
  | _ => exact congrArg (Except.map some) (h inVariant _ hdepth)

end Fields.Agrees

/-! ## Readers -/

/-- Readers that agree on the items of a list agree on the list. -/
theorem mapM_congr {read read' : Json → Except Fault α} {items : List Json}
    (h : ∀ j ∈ items, read j = read' j) : items.mapM read = items.mapM read' := by
  induction items with
  | nil => rfl
  | cons j items ih =>
      obtain ⟨hj, hitems⟩ := List.forall_mem_cons.1 h
      rw [List.mapM_cons, List.mapM_cons, hj, ih hitems]

namespace Reader.Agrees

variable {d : Nat} {reader reader' : Reader α}

theorem refl : reader.Agrees d reader :=
  fun _ _ _ => rfl

/-- Readers that agree to a depth agree to the depths below it. -/
theorem of_succ (h : reader.Agrees (d + 1) reader') : reader.Agrees d reader' :=
  fun inVariant j hdepth => h inVariant j (Nat.le_succ_of_le hdepth)

/-- The items of a list are read alike. -/
theorem list (h : reader.Agrees d reader') : reader.list.Agrees d reader'.list := by
  intro inVariant j hdepth
  cases j with
  | array items =>
      refine mapM_congr fun j hj => h inVariant j ?_
      exact Nat.le_of_lt (Nat.lt_of_lt_of_le (Json.depth_lt_of_mem hj) hdepth)
  | _ => rfl

/-- The two members of a pair are read alike. -/
theorem pair {first first' : Reader α} {second second' : Reader β}
    (ha : first.Agrees d first') (hb : second.Agrees d second') :
    (Reader.pair first second).Agrees d (Reader.pair first' second') := by
  intro inVariant j hdepth
  rcases j with _ | _ | _ | _ | _ | (_ | ⟨j, _ | ⟨k, rest⟩⟩) | _
  case array.cons.nil =>
    have hj : j.depth < d :=
      Nat.lt_of_lt_of_le (Json.depth_lt_of_mem (by simp)) hdepth
    simp only [Reader.pair, ha inVariant j (Nat.le_of_lt hj)]
  case array.cons.cons =>
    have hj : j.depth < d :=
      Nat.lt_of_lt_of_le (Json.depth_lt_of_mem (by simp)) hdepth
    have hk : k.depth < d :=
      Nat.lt_of_lt_of_le (Json.depth_lt_of_mem (by simp)) hdepth
    simp only [Reader.pair, ha inVariant j (Nat.le_of_lt hj),
      hb inVariant k (Nat.le_of_lt hk)]
  all_goals rfl

/-- The fields of a record are read alike, whether it is an object or an array. -/
theorem fieldsFrom {fields fields' : Fields α} (h : fields.Agrees d fields')
    {inVariant : Bool} (source : Source) (hdepth : source.depth ≤ d) :
    Reader.fieldsFrom fields inVariant source =
      Reader.fieldsFrom fields' inVariant source := by
  simp only [Reader.fieldsFrom, h.read inVariant source 0 hdepth, h.count]

/-- The fields of a record lie one level deeper than the record. -/
theorem record_succ {fields fields' : Fields α} (h : fields.Agrees d fields') :
    (Reader.record fields).Agrees (d + 1) (Reader.record fields') := by
  intro inVariant j hdepth
  cases j with
  | object entries =>
      exact fieldsFrom h (.entries entries) (Nat.le_of_succ_le_succ hdepth)
  | array items => exact fieldsFrom h (.items items) (Nat.le_of_succ_le_succ hdepth)
  | _ => rfl

theorem record {fields fields' : Fields α} (h : fields.Agrees d fields') :
    (Reader.record fields).Agrees d (Reader.record fields') :=
  (record_succ h).of_succ

end Reader.Agrees

/-! ## Variants -/

namespace Variants.Agree

variable {d : Nat} {vs vs' : List (String × Fields α)}

theorem nil : Variants.Agree d ([] : List (String × Fields α)) [] :=
  List.Forall₂.nil

theorem cons {tag : String} {fields fields' : Fields α}
    (h : fields.Agrees d fields') (hrest : Variants.Agree d vs vs') :
    Variants.Agree d ((tag, fields) :: vs) ((tag, fields') :: vs') :=
  List.Forall₂.cons ⟨rfl, h⟩ hrest

theorem refl : Variants.Agree d vs vs :=
  List.forall₂_same.2 fun _ _ => ⟨rfl, .refl⟩

/-- The same tag finds variants that agree, or none in both. -/
theorem lookup (h : Variants.Agree d vs vs') (tag : String) :
    Option.Rel (Fields.Agrees d) (vs.lookup tag) (vs'.lookup tag) := by
  induction h with
  | nil => exact .none
  | @cons v v' vs vs' hv _ ih =>
      rw [List.lookup_cons, List.lookup_cons, ← hv.1]
      split
      · exact .some hv.2
      · exact ih

/-- The same index finds variants that agree, or none in both. -/
theorem getElem? (h : Variants.Agree d vs vs') (n : Nat) :
    Option.Rel (Fields.Agrees d) (vs[n]?.map (·.2)) (vs'[n]?.map (·.2)) := by
  induction h generalizing n with
  | nil => exact .none
  | cons hv _ ih =>
      cases n with
      | zero => exact .some hv.2
      | succ n => exact ih n

/-- The same variant is chosen on both sides, by its tag or by its index. -/
theorem choose (h : Variants.Agree d vs vs') (inVariant : Bool) (tag : Json) :
    Option.Rel (Fields.Agrees d) (Reader.choose vs inVariant tag)
      (Reader.choose vs' inVariant tag) := by
  cases tag with
  | string tag => exact h.lookup tag
  | natural n =>
      cases inVariant with
      | true => exact h.getElem? n
      | false => exact .none
  | _ => exact .none

end Variants.Agree

namespace Reader.Agrees

variable {d : Nat} {vs vs' : List (String × Fields α)}

/-- The fields of a variant lie one level deeper than the variant. -/
theorem tagged_succ (h : Variants.Agree d vs vs') :
    (Reader.tagged vs).Agrees (d + 1) (Reader.tagged vs') := by
  intro inVariant j hdepth
  rcases j with _ | _ | _ | _ | _ | (_ | ⟨tag, items⟩) | entries
  case array.cons =>
    have hitems : Json.depthOfItems items ≤ d :=
      Nat.le_trans (Json.depthOfItems_tail_le tag items)
        (Nat.le_of_succ_le_succ hdepth)
    have hchoose := h.choose inVariant tag
    simp only [Reader.tagged]
    generalize choose vs inVariant tag = o,
      choose vs' inVariant tag = o' at hchoose ⊢
    cases hchoose with
    | none => rfl
    | some hfields => exact fieldsFrom hfields (.items items) hitems
  case object =>
    have hchoose : Option.Rel (Fields.Agrees d)
        ((entries.lookup "type").bind (choose vs inVariant))
        ((entries.lookup "type").bind (choose vs' inVariant)) := by
      cases entries.lookup "type" with
      | none => exact .none
      | some tag => exact h.choose inVariant tag
    simp only [Reader.tagged]
    generalize (entries.lookup "type").bind (choose vs inVariant) = o,
      (entries.lookup "type").bind (choose vs' inVariant) = o' at hchoose ⊢
    cases hchoose with
    | none => rfl
    | some hfields =>
        exact fieldsFrom hfields (.entries entries) (Nat.le_of_succ_le_succ hdepth)
  all_goals rfl

/-- Tagged values are read alike when the fields of each variant are. -/
theorem tagged (h : Variants.Agree d vs vs') :
    (Reader.tagged vs).Agrees d (Reader.tagged vs') :=
  (tagged_succ h).of_succ

end Reader.Agrees

/-- Readers for nodes that read values alike that are no deeper than `d`. -/
structure Readers.Agree (d : Nat) (r r' : Readers) : Prop where
  expr : r.expr.Agrees d r'.expr
  table : r.table.Agrees d r'.table
  body : r.body.Agrees d r'.body
  query : r.query.Agrees d r'.query

end Form

namespace Node

open Form

variable {d : Nat} {r r' : Readers} (h : r.Agree d r')

include h

/-! ## Windows and calls -/

theorem agrees_sortKey : (OrderItem.read r).Agrees d (OrderItem.read r') :=
  .record <| .seq (.seq (.map (.required h.expr)) .refl) .refl

theorem agrees_bound :
    (Reader.tagged (FrameBound.variants r)).Agrees d
      (.tagged (FrameBound.variants r')) :=
  .tagged <|
    .cons .refl <| .cons (.map (.required h.expr)) <| .cons .refl <|
    .cons (.map (.required h.expr)) .refl

theorem agrees_frame :
    (Reader.record (WindowFrame.fields r)).Agrees d
      (.record (WindowFrame.fields r')) :=
  .record <| .seq (.seq .refl (.required (agrees_bound h))) (.optional
    (agrees_bound h))

theorem agrees_window : (WindowSpec.fields r).Agrees d (WindowSpec.fields r') :=
  Fields.Agrees.refl
    |>.seq (.withDefault (.list h.expr))
    |>.seq (.withDefault (.list (agrees_sortKey h)))
    |>.seq (.optional (agrees_frame h))

theorem agrees_over : (Over.read r).Agrees d (Over.read r') :=
  .tagged <| .cons .refl <| .cons (.map (agrees_window h)) .nil

theorem agrees_call : (FunctionCall.fields r).Agrees d (FunctionCall.fields r') :=
  Fields.Agrees.refl
    |>.seq (.optional (.list h.expr))
    |>.seq .refl
    |>.seq .refl
    |>.seq .refl
    |>.seq (.optional (agrees_over h))
    |>.seq .refl
    |>.seq (.optional h.expr)

theorem agrees_aggregate : (Aggregate.fields r).Agrees d (Aggregate.fields r') :=
  Fields.Agrees.refl
    |>.seq (.withDefault (.list h.expr))
    |>.seq (.withDefault (.list (agrees_sortKey h)))
    |>.seq (.optional h.expr)
    |>.seq (.optional h.expr)
    |>.seq (.optional (agrees_over h))

theorem agrees_dataType : (DataType.read r).Agrees d (DataType.read r') :=
  .record <| .seq .refl (.withDefault (.list h.expr))

theorem agrees_cast : (Cast.fields r).Agrees d (Cast.fields r') := by
  have htail : (CastTail.fields r).Agrees d (CastTail.fields r') :=
    .seq .refl (.required h.expr)
  exact (Fields.Agrees.map (.required h.expr))
    |>.seq (.required (agrees_dataType h))
    |>.seq .refl
    |>.seq .refl
    |>.seq (.optional (.record htail))
    |>.seq .refl
    |>.seq .refl

theorem agrees_extract : (Extract.fields r).Agrees d (Extract.fields r') :=
  .seq .refl (.required h.expr)

theorem agrees_anyValue : (AnyValue.fields r).Agrees d (AnyValue.fields r') := by
  have hhaving : (AnyValueHaving.fields r).Agrees d (AnyValueHaving.fields r') :=
    .seq .refl (.required h.expr)
  exact Fields.Agrees.refl
    |>.seq (.required h.expr)
    |>.seq (.optional (.record hhaving))
    |>.seq (.optional (agrees_over h))

/-! ## Expressions and queries -/

/-- Expressions gain a level: the readers agree on what stands inside, so they agree
one deeper on the whole. -/
theorem agrees_expr :
    (Reader.tagged (Expr.variants r)).Agrees (d + 1)
      (.tagged (Expr.variants r')) := by
  have hexpr {key : String} :
      (Fields.required key r.expr).Agrees d (Fields.required key r'.expr) :=
    .required h.expr
  exact .tagged_succ <|
    .cons .refl <| .cons .refl <| .cons .refl <| .cons .refl <| .cons .refl <|
    .cons .refl <|
    .cons (.seq (.seq (.map hexpr) .refl) hexpr) <|
    .cons (.seq .refl hexpr) <|
    .cons (.seq (.seq (.seq (.map hexpr) .refl) hexpr) hexpr) <|
    .cons (.map hexpr) <|
    .cons (.map (.required (.list h.expr))) <|
    .cons (.map (agrees_call h)) <|
    .cons (.map (agrees_aggregate h)) <|
    .cons (.map (agrees_cast h)) <|
    .cons (.map (agrees_extract h)) <|
    .cons (.map (agrees_anyValue h)) <|
    .cons
      (.seq (.seq (.map (.optional h.expr))
        (.required (.list (.pair h.expr h.expr))))
      (.optional h.expr)) <|
    .cons (.map (.required h.query)) <|
    .cons (.seq (.map hexpr) .refl) <|
    .cons (.seq (.seq .refl hexpr) .refl) <|
    .cons (.seq (.map hexpr) .refl) .nil

theorem agrees_item : (SelectItem.read r).Agrees d (SelectItem.read r') :=
  .tagged <| .cons .refl <| .cons .refl <|
    .cons (.seq (.map (.required h.expr)) .refl) .nil

theorem agrees_modifier :
    (Reader.tagged (GroupModifier.variants r)).Agrees d
      (.tagged (GroupModifier.variants r')) :=
  .tagged <| .cons .refl <| .cons .refl <|
    .cons (.map (.required (.list (.list h.expr)))) .nil

theorem agrees_into :
    (Reader.record (SelectInto.fields r)).Agrees d
      (.record (SelectInto.fields r')) := by
  have htarget :
      (Reader.tagged (IntoTarget.variants r)).Agrees d
        (.tagged (IntoTarget.variants r')) :=
    .tagged <| .cons (.map (.required (.list h.expr))) .refl
  exact .record <| .seq .refl (.required htarget)

/-- Tables gain a level, as expressions do: a joined or a derived table stands
inside another. -/
theorem agrees_table :
    (Reader.tagged (TableRef.variants r)).Agrees (d + 1)
      (.tagged (TableRef.variants r')) :=
  .tagged_succ <|
    .cons .refl <|
    .cons (.seq (.map (.required h.query)) .refl) <|
    .cons (.seq (.map (.required (.record (agrees_call h)))) .refl) <|
    .cons (.seq (.seq (.map (.required (.list (.list h.expr)))) .refl) .refl) <|
    .cons (.map (.required h.table)) .nil

theorem agrees_join : (Join.read r).Agrees d (Join.read r') :=
  .record <| .seq (.seq (.seq .refl (.required h.table)) (.optional h.expr)) .refl

theorem agrees_namedWindow :
    (Reader.record (NamedWindow.fields r)).Agrees d
      (.record (NamedWindow.fields r')) :=
  .record <| .seq .refl (.required (.record (agrees_window h)))

/-- A SELECT is a record, so its readers agree as far as those of its parts do. -/
theorem agrees_select : (Select.fields r).Agrees d (Select.fields r') :=
  Fields.Agrees.refl
    |>.seq (.withDefault (.list h.expr))
    |>.seq .refl
    |>.seq (.withDefault (.list (agrees_item h)))
    |>.seq (.optional (agrees_into h))
    |>.seq (.withDefault (.list h.table))
    |>.seq (.withDefault (.list (agrees_join h)))
    |>.seq (.optional h.expr)
    |>.seq (.withDefault (.list h.expr))
    |>.seq (.withDefault (.list (agrees_modifier h)))
    |>.seq (.optional h.expr)
    |>.seq (.withDefault (.list (agrees_namedWindow h)))
    |>.seq (.withDefault (.list (agrees_sortKey h)))
    |>.seq (.optional h.expr)
    |>.seq (.optional h.expr)
    |>.seq .refl

/-- The body of a query gains a level: the operands of a set operation stand inside
it. -/
theorem agrees_body :
    (Reader.tagged (QueryBody.variants r)).Agrees (d + 1)
      (.tagged (QueryBody.variants r')) :=
  .tagged_succ <|
    .cons (.map (agrees_select h)) <|
    .cons (.seq (.seq (.map (.required h.body)) .refl) (.required h.body)) .nil

theorem agrees_with : (With.read r).Agrees d (With.read r') := by
  have hcte : (Cte.fields r).Agrees d (Cte.fields r') :=
    .seq .refl (.required h.query)
  exact .record <| .seq .refl (.required (.list (.record hcte)))

theorem agrees_query : (Query.fields r).Agrees d (Query.fields r') :=
  (Fields.Agrees.map (.optional (agrees_with h)))
    |>.seq (.required h.body)
    |>.seq (.withDefault (.list (agrees_sortKey h)))
    |>.seq (.optional h.expr)
    |>.seq (.optional h.expr)

/-! ## Changes of rows -/

theorem agrees_assignment : (Assignment.read r).Agrees d (Assignment.read r') :=
  .record <| .seq (.seq .refl (.required h.expr)) .refl

theorem agrees_source :
    (Reader.tagged (RowSource.variants r)).Agrees d
      (.tagged (RowSource.variants r')) :=
  .tagged <|
    .cons (.map (.required (.list (.list h.expr)))) <|
    .cons (.map (.required h.query)) <|
    .cons (.map (.required (.list (agrees_assignment h)))) .nil

theorem agrees_conflict :
    (Reader.record (ConflictClause.fields r)).Agrees d
      (.record (ConflictClause.fields r')) := by
  have haction :
      (Reader.tagged (ConflictAction.variants r)).Agrees d
        (.tagged (ConflictAction.variants r')) :=
    .tagged <|
      .cons .refl <|
      .cons (.seq (.map (.required (.list (agrees_assignment h))))
        (.optional h.expr)) .nil
  exact .record <| .seq .refl (.optional haction)

theorem agrees_insert : (Insert.fields r).Agrees d (Insert.fields r') :=
  Fields.Agrees.refl
    |>.seq (.required h.table)
    |>.seq .refl
    |>.seq (.required (agrees_source h))
    |>.seq (.optional (agrees_conflict h))
    |>.seq (.withDefault (.list (agrees_item h)))

theorem agrees_update : (Update.fields r).Agrees d (Update.fields r') :=
  (Fields.Agrees.map (.optional (agrees_with h)))
    |>.seq .refl
    |>.seq (.required h.table)
    |>.seq (.withDefault (.list (agrees_join h)))
    |>.seq (.required (.list (agrees_assignment h)))
    |>.seq (.withDefault (.list h.table))
    |>.seq (.optional h.expr)
    |>.seq (.withDefault (.list (agrees_sortKey h)))
    |>.seq (.optional h.expr)
    |>.seq (.withDefault (.list (agrees_item h)))

theorem agrees_delete : (Delete.fields r).Agrees d (Delete.fields r') :=
  (Fields.Agrees.map (.optional (agrees_with h)))
    |>.seq .refl
    |>.seq (.required (.list h.table))
    |>.seq (.withDefault (.list (agrees_join h)))
    |>.seq (.withDefault (.list h.table))
    |>.seq (.optional h.expr)
    |>.seq (.withDefault (.list (agrees_sortKey h)))
    |>.seq (.optional h.expr)
    |>.seq (.withDefault (.list (agrees_item h)))

/-! ## Statements about tables -/

theorem agrees_columnDef : (ColumnDef.fields r).Agrees d (ColumnDef.fields r') := by
  have hoptions : (ColumnOptions.fields r).Agrees d (ColumnOptions.fields r') :=
    Fields.Agrees.refl
      |>.seq (.optional h.expr)
      |>.seq (.optional h.expr)
      |>.seq .refl
      |>.seq .refl
      |>.seq .refl
      |>.seq .refl
      |>.seq .refl
      |>.seq .refl
      |>.seq (.optional h.expr)
      |>.seq .refl
  exact Fields.Agrees.refl
    |>.seq (.optional (agrees_dataType h))
    |>.seq (.withDefault (.record hoptions))

theorem agrees_constraint :
    (TableConstraint.read r).Agrees d (TableConstraint.read r') :=
  .tagged <|
    .cons .refl <| .cons .refl <| .cons .refl <|
    .cons (.seq .refl (.required h.expr)) .nil

theorem agrees_element : (TableElement.read r).Agrees d (TableElement.read r') :=
  .tagged <|
    .cons (.map (agrees_columnDef h)) <|
    .cons (.map (.required (agrees_constraint h))) .refl

theorem agrees_action :
    (Reader.tagged (AlterAction.variants r)).Agrees d
      (.tagged (AlterAction.variants r')) := by
  have hcolumn {key : String} :
      (Fields.required key (ColumnDef.read r)).Agrees d
        (Fields.required key (ColumnDef.read r')) :=
    .required (.record (agrees_columnDef h))
  exact .tagged <|
    .cons (.seq .refl hcolumn) <| .cons .refl <| .cons (.seq .refl hcolumn) <|
    .cons (.seq .refl hcolumn) <| .cons .refl <|
    .cons (.map (.required (agrees_constraint h))) .refl

theorem agrees_createTable :
    (CreateTable.fields r).Agrees d (CreateTable.fields r') :=
  Fields.Agrees.refl
    |>.seq (.withDefault (.list (agrees_element h)))
    |>.seq .refl
    |>.seq (.optional h.query)
    |>.seq .refl

theorem agrees_createView : (CreateView.fields r).Agrees d (CreateView.fields r') :=
  .seq .refl (.required h.query)

theorem agrees_alterTable : (AlterTable.fields r).Agrees d (AlterTable.fields r') :=
  .seq .refl (.required (.list (agrees_action h)))

theorem agrees_attach : (Attach.fields r).Agrees d (Attach.fields r') :=
  .seq (.map (.required h.expr)) .refl

/-- Statements are read alike when the queries and the expressions in them are. -/
theorem agrees_statement : (Statement.read r).Agrees d (Statement.read r') :=
  .tagged <|
    .cons (.map (agrees_query h)) <|
    .cons (.map (agrees_insert h)) <|
    .cons (.map (agrees_update h)) <|
    .cons (.map (agrees_delete h)) <|
    .cons (.map (agrees_createTable h)) <|
    .cons .refl <|
    .cons (.map (agrees_createView h)) <|
    .cons .refl <|
    .cons (.map (agrees_alterTable h)) <|
    .cons .refl <| .cons .refl <| .cons .refl <|
    .cons (.map (agrees_attach h)) .nil

end Node

/-! ## All depths -/

namespace Form.Readers

variable {d e : Nat}

/-- A value that is neither an array nor an object is no node. -/
theorem none_agrees (r : Readers) : none.Agree 0 r.above where
  expr inVariant j hdepth := by cases j <;> first | rfl | contradiction
  table inVariant j hdepth := by cases j <;> first | rfl | contradiction
  body inVariant j hdepth := by cases j <;> first | rfl | contradiction
  query inVariant j hdepth := by cases j <;> first | rfl | contradiction

/-- Readers that agree to a depth agree one deeper, once each has gone a level
up. -/
theorem Agree.above {r r' : Readers} (h : r.Agree d r') :
    r.above.Agree (d + 1) r'.above where
  expr := Node.agrees_expr h
  table := Node.agrees_table h
  body := Node.agrees_body h
  query := .record_succ (Node.agrees_query h)

/-- Readers that reach deeper read nothing in another way. -/
theorem upTo_agree (h : d ≤ e) : (upTo d).Agree d (upTo e) := by
  induction d generalizing e with
  | zero =>
      cases e with
      | zero => exact ⟨.refl, .refl, .refl, .refl⟩
      | succ e => exact none_agrees (upTo e)
  | succ d ih =>
      obtain ⟨e, rfl⟩ :=
        Nat.exists_eq_add_of_le' (Nat.le_trans (Nat.le_add_left 1 d) h)
      exact (ih (Nat.le_of_succ_le_succ h)).above

end Form.Readers

/-- A statement is read alike by all readers that reach to the bottom of it. -/
theorem Statement.read_upTo {d : Nat} {j : Json} (h : j.depth ≤ d) :
    read (Form.Readers.upTo d) false j = ofJson j :=
  (Node.agrees_statement (Form.Readers.upTo_agree h) false j (Nat.le_refl _)).symm

/-- The items of an array are read one by one, each as it would be read alone. -/
theorem Statement.decode_array (items : List Json) :
    Form.Readers.decode (fun r => .list (read r)) (.array items) =
      items.mapM ofJson := by
  exact Form.mapM_congr fun j hj =>
    read_upTo (Nat.le_of_lt (Json.depth_lt_of_mem hj))

end SqlPrinter
