/-
Edits of a JSON value that make no difference to a reader.  A record may get keys
that none of its fields has, lose a key whose value is what its field has without
it, and get null for an optional field that it does not have; and all of this may
happen inside the value of a field, an item of an array or a half of a pair.
-/
import Mathlib.Logic.Relation
import SqlPrinter.Proofs.Form.Depth
import SqlPrinter.Proofs.Form.Yielding

namespace SqlPrinter.Form

/-- The reader of an optional field, which takes null for no value. -/
def Reader.orNull (reader : Reader α) : Reader (Option α) := fun inVariant j =>
  match j with
  | .null => .ok none
  | j => (reader inVariant j).map some

/-- The value that a source has for a field. -/
def Source.value? (source : Source) (key : String) (i : Nat) : Option Json :=
  (Fields.find key source i).1

mutual

/-- One edit of a value that the reader gets. -/
inductive Reader.Edit : {α : Type} → Reader α → Bool → Json → Json → Prop
  | record {fields : Fields α} {entries entries' : List (String × Json)} :
      Fields.Edit fields inVariant (.entries entries) (.entries entries') 0 →
      Reader.Edit (.record fields) inVariant (.object entries) (.object entries')
  | row {fields : Fields α} {items items' : List Json} :
      items'.length = items.length →
      Fields.Edit fields inVariant (.items items) (.items items') 0 →
      Reader.Edit (.record fields) inVariant (.array items) (.array items')
  | variant {variants : List (String × Fields α)}
      {entries entries' : List (String × Json)} :
      entries'.lookup "type" = entries.lookup "type" →
      (entries.lookup "type").bind (Reader.choose variants inVariant) =
        some fields →
      Fields.Edit fields true (.entries entries) (.entries entries') 0 →
      Reader.Edit (.tagged variants) inVariant (.object entries) (.object entries')
  | variantRow {variants : List (String × Fields α)} {items items' : List Json} :
      Reader.choose variants inVariant tag = some fields →
        items'.length = items.length →
      Fields.Edit fields true (.items items) (.items items') 0 →
      Reader.Edit (.tagged variants) inVariant (.array (tag :: items))
        (.array (tag :: items'))
  | item {reader : Reader α} (front back : List Json) :
      Reader.Edit reader inVariant j j' →
      Reader.Edit reader.list inVariant (.array (front ++ j :: back))
        (.array (front ++ j' :: back))
  | first {reader : Reader α} {other : Reader β} (rest : List Json) :
      Reader.Edit reader inVariant j j' →
      Reader.Edit (.pair reader other) inVariant (.array (j :: rest))
        (.array (j' :: rest))
  | second {reader : Reader α} {other : Reader β} (k : Json) (rest : List Json) :
      Reader.Edit reader inVariant j j' →
      Reader.Edit (.pair other reader) inVariant (.array (k :: j :: rest))
        (.array (k :: j' :: rest))
  | orNull {reader : Reader α} : Reader.Edit reader inVariant j j' →
      Reader.Edit reader.orNull inVariant j j'

/-- Edits of a source, one for each of the fields at most.  What stands under a key
that no field has is not looked at, before or after. -/
inductive Fields.Edit : {α : Type} → Fields α → Bool → Source → Source → Nat → Prop
  | none : Fields.Edit (.none a) inVariant source source' i
  | both {f : Fields (α → β)} {x : Fields α} :
      Fields.Edit f inVariant source source' i →
      Fields.Edit x inVariant source source' (i + f.count) →
      Fields.Edit (.both f x) inVariant source source' i
  /-- The field is left alone. -/
  | kept {reader : Reader α} : source'.value? key i = source.value? key i →
      Fields.Edit (.field key reader missing) inVariant source source' i
  /-- The edit is inside the value of the field. -/
  | inside {reader : Reader α} : source.value? key i = some j →
      source'.value? key i = some j' → Reader.Edit reader inVariant j j' →
      Fields.Edit (.field key reader missing) inVariant source source' i
  /-- The value of the field was its default and is removed. -/
  | removed {reader : Reader α} : source.value? key i = some j →
      reader inVariant j = .ok a → source'.value? key i = .none →
      Fields.Edit (.withDefault key a reader) inVariant source source' i
  /-- The field was optional and had no value, and it is null now. -/
  | null {reader : Reader α} : source.value? key i = .none →
      source'.value? key i = some .null →
      Fields.Edit (.optional key reader) inVariant source source' i

end

/-- Any number of edits. -/
def Reader.Edits (reader : Reader α) (inVariant : Bool) : Json → Json → Prop :=
  Relation.ReflTransGen (reader.Edit inVariant)

/-! ## Reading after an edit -/

variable {α β : Type} {inVariant : Bool}

/-- Only arrays and objects are edited. -/
theorem Reader.Edit.ne_null {α : Type} {reader : Reader α} {inVariant : Bool}
    {j j' : Json} : reader.Edit inVariant j j' → j ≠ .null ∧ j' ≠ .null
  | .orNull h => h.ne_null
  | .record _ | .row _ _ | .variant _ _ _ | .variantRow _ _ _ | .item _ _ _
  | .first _ _
  | .second _ _ _ => ⟨nofun, nofun⟩

theorem Reader.orNull_eq_ok {reader : Reader α} {j : Json} (hj : j ≠ .null)
    {a? : Option α} :
    reader.orNull inVariant j = .ok a? ↔ ∃ a, reader inVariant j = .ok a ∧
      some a = a? := by
  cases j with
  | null => contradiction
  | _ => exact map_eq_ok

theorem Reader.fieldsFrom_entries {fields : Fields α}
    {entries : List (String × Json)} {a : α} :
    fieldsFrom fields inVariant (.entries entries) = .ok a ↔
      fields.read inVariant (.entries entries) 0 = .ok a := by
  unfold fieldsFrom
  cases fields.read inVariant (.entries entries) 0 <;> simp

theorem Reader.fieldsFrom_items {fields : Fields α} {items : List Json} {a : α} :
    fieldsFrom fields inVariant (.items items) = .ok a ↔
      fields.read inVariant (.items items) 0 = .ok a ∧ items.length ≤
        fields.count := by
  unfold fieldsFrom
  cases fields.read inVariant (.items items) 0 with
  | error e => simp
  | ok b => by_cases hlength : items.length ≤ fields.count <;> simp [hlength]

/-- Two groups of fields are read one after the other, the second behind the first
in an array. -/
theorem Fields.read_both {f : Fields (α → β)} {x : Fields α} {source : Source}
    {i : Nat} {b : β} : (both f x).read inVariant source i = .ok b ↔
      ∃ g a, f.read inVariant source i = .ok g ∧
        x.read inVariant source (i + f.count) = .ok a ∧ g a = b := by
  simp only [both]
  cases f.read inVariant source i <;>
    cases x.read inVariant source (i + f.count) <;> simp

theorem Fields.read_field {key : String} {reader : Reader α}
    {missing : Except FieldFault α} {source : Source} {i : Nat} {a : α} :
    (field key reader missing).read inVariant source i = .ok a ↔
      match source.value? key i with
      | some j => reader inVariant j = .ok a
      | .none => missing = .ok a := by
  simp only [field, Source.value?]
  rcases find key source i with ⟨_ | j, name⟩ <;> simp [mapError_eq_ok]

theorem Reader.pair_eq_ok {first : Reader α} {second : Reader β} {j k : Json}
    {rest : List Json} {p : α × β} :
    Reader.pair first second inVariant (.array (j :: k :: rest)) = .ok p ↔
      first inVariant j = .ok p.1 ∧ second inVariant k = .ok p.2 ∧ rest = [] := by
  simp only [pair, bind_eq_ok]
  constructor
  · rintro ⟨a, ha, b, hb, hp⟩
    split at hp
    · next hrest =>
        obtain rfl := Except.ok.inj hp
        exact ⟨ha, hb, List.isEmpty_iff.1 hrest⟩
    · contradiction
  · rintro ⟨ha, hb, rfl⟩
    exact ⟨p.1, ha, p.2, hb, rfl⟩

mutual

/-- A value that could be read before an edit is read as the same after it. -/
theorem Reader.Edit.read {α : Type} {reader : Reader α} {inVariant : Bool}
    {j j' : Json} {a : α} :
    reader.Edit inVariant j j' → reader inVariant j = .ok a →
      reader inVariant j' = .ok a
  | .record h, ha => by
      rw [Reader.record, Reader.fieldsFrom_entries] at ha ⊢
      exact h.read ha
  | .row hlength h, ha => by
      rw [Reader.record, Reader.fieldsFrom_items] at ha ⊢
      exact ⟨h.read ha.1, hlength ▸ ha.2⟩
  | .variant htag hfields h, ha => by
      simp only [Reader.tagged, htag, hfields, Reader.fieldsFrom_entries] at ha ⊢
      exact h.read ha
  | .variantRow hfields hlength h, ha => by
      simp only [Reader.tagged, hfields, Reader.fieldsFrom_items] at ha ⊢
      exact ⟨h.read ha.1, hlength ▸ ha.2⟩
  | .item front back h, ha => by
      simp only [Reader.list, List.mapM_append, List.mapM_cons, bind_eq_ok] at ha ⊢
      obtain ⟨as, has, bs, ⟨b, hb, hbs⟩, hall⟩ := ha
      exact ⟨as, has, bs, ⟨b, h.read hb, hbs⟩, hall⟩
  | .first [] h, ha => by
      obtain ⟨_, _, hpair⟩ := bind_eq_ok.1 ha
      contradiction
  | .first (k :: rest) h, ha => by
      rw [Reader.pair_eq_ok] at ha ⊢
      exact ⟨h.read ha.1, ha.2⟩
  | .second k rest h, ha => by
      rw [Reader.pair_eq_ok] at ha ⊢
      exact ⟨ha.1, h.read ha.2.1, ha.2.2⟩
  | .orNull h, ha => by
      obtain ⟨hj, hj'⟩ := h.ne_null
      obtain ⟨b, hb, rfl⟩ := (Reader.orNull_eq_ok hj).1 ha
      exact (Reader.orNull_eq_ok hj').2 ⟨b, h.read hb, rfl⟩

/-- Fields that could be read before an edit are read as the same after it. -/
theorem Fields.Edit.read {α : Type} {fields : Fields α} {inVariant : Bool}
    {source source' : Source} {i : Nat} {a : α} :
    fields.Edit inVariant source source' i →
      fields.read inVariant source i = .ok a →
      fields.read inVariant source' i = .ok a
  | .none, ha => ha
  | .both hf hx, ha => by
      obtain ⟨g, b, hg, hb, rfl⟩ := Fields.read_both.1 ha
      exact Fields.read_both.2 ⟨g, b, hf.read hg, hx.read hb, rfl⟩
  | .kept hsame, ha => by
      rw [Fields.read_field] at ha ⊢
      rwa [hsame]
  | .inside hj hj' h, ha => by
      simp only [Fields.read_field, hj, hj'] at ha ⊢
      exact h.read ha
  | .removed hj hdefault hnone, ha => by
      simp only [Fields.withDefault, Fields.read_field, hj, hnone] at ha ⊢
      obtain rfl := Except.ok.inj (hdefault.symm.trans ha)
      rfl
  | .null hnone hnull, ha => by
      simp only [Fields.optional, Fields.withDefault, Fields.read_field, hnone,
        hnull] at ha ⊢
      obtain rfl := Except.ok.inj ha
      rfl

end

/-- What is read is read after an edit too, by induction on the edit. -/
theorem Reader.Edits.read {reader : Reader α} {j j' : Json} {a : α}
    (h : reader.Edits inVariant j j') (ha : reader inVariant j = .ok a) :
    reader inVariant j' = .ok a := by
  induction h with
  | refl => exact ha
  | tail _ hedit ih => exact hedit.read ih

end SqlPrinter.Form
