/-
Reading one written form.  A reader that is made of other readers gives a value
for its form if those give the parts of the value for their forms.  The forms of
the parts are not as deep, so a bound on the depth is kept along with this.
-/
import Mathlib.Data.List.Basic
import SqlPrinter.Form.Leaf

namespace SqlPrinter

namespace Json

/-- An item is nested no deeper than the items are together. -/
theorem depth_le_depthOfItems {items : List Json} {j : Json} (h : j ∈ items) :
    j.depth ≤ depthOfItems items := by
  induction items with
  | nil => contradiction
  | cons k items ih =>
      rcases List.mem_cons.1 h with rfl | h
      · exact Nat.le_max_left _ _
      · exact Nat.le_trans (ih h) (Nat.le_max_right _ _)

/-- A value that a key finds is nested no deeper than the entries are together. -/
theorem depth_le_depthOfEntries {entries : List (String × Json)} {key : String}
    {j : Json} (h : entries.lookup key = some j) :
    j.depth ≤ depthOfEntries entries := by
  induction entries with
  | nil => contradiction
  | cons entry entries ih =>
      rw [List.lookup_cons] at h
      split at h
      · obtain rfl := Option.some.inj h
        exact Nat.le_max_left _ _
      · exact Nat.le_trans (ih h) (Nat.le_max_right _ _)

/-- The value of a field.  The tag of a variant is no field. -/
def field? (key : String) (entries : List (String × Json)) : Option Json :=
  if key = "type" then none else entries.lookup key

end Json

namespace Form

variable {α β : Type}

/-- The reader gives `a` for `j` wherever that stands, unless it is deeper than
`d`.  Then it is not null, which would be taken for a missing value. -/
structure Reader.Reads (reader : Reader α) (d : Nat) (j : Json) (a : α) : Prop where
  ne_null : j ≠ .null
  eq_ok : j.depth ≤ d → ∀ inVariant, reader inVariant j = .ok a

/-- The fields give `a` for the entries, with or without a tag among them. -/
def Fields.Reads (fields : Fields α) (d : Nat) (entries : List (String × Json))
    (a : α) : Prop :=
  Json.depthOfEntries entries ≤ d → ∀ found : List (String × Json),
    (∀ key, key ≠ "type" → found.lookup key = entries.lookup key) →
      ∀ inVariant i, fields.read inVariant (.entries found) i = .ok a

namespace Fields.Reads

variable {d : Nat} {entries : List (String × Json)} {key : String}
  {j : Json} {a : α} {reader : Reader α}

theorem pure : (Pure.pure a : Fields α).Reads d entries a :=
  fun _ _ _ _ _ => rfl

/-- The last field is read, and those before it. -/
theorem seq {f : Fields (α → β)} {g : α → β} {x : Fields α}
    (hx : x.Reads d entries a) (hf : f.Reads d entries g) :
    (f <*> x).Reads d entries (g a) := by
  intro hd found hfound inVariant i
  have hg := hf hd found hfound inVariant i
  have ha := hx hd found hfound inVariant (i + f.count)
  change (Fields.both f x).read inVariant (.entries found) i = .ok (g a)
  simp only [Fields.both, hg, ha]

/-- The only field is read. -/
theorem map {g : α → β} {x : Fields α} (hx : x.Reads d entries a) :
    (g <$> x).Reads d entries (g a) :=
  seq hx (f := Pure.pure g) pure

/-- A field is read from the entries that hold its key. -/
theorem field {missing : Except FieldFault α}
    (hj : Json.field? key entries = some j)
    (ha : j.depth ≤ d → ∀ inVariant, reader inVariant j = .ok a) :
    (Fields.field key reader missing).Reads d entries a := by
  intro hd found hfound inVariant i
  unfold Json.field? at hj
  split at hj
  · contradiction
  · next hkey =>
      have hread := ha (Nat.le_trans (Json.depth_le_depthOfEntries hj) hd) inVariant
      simp only [Fields.field, Fields.find, hfound key hkey, hj, hread]
      rfl

theorem required (hj : Json.field? key entries = some j) (ha : reader.Reads d j a) :
    (Fields.required key reader).Reads d entries a :=
  field hj ha.eq_ok

theorem withDefault {default : α} (hj : Json.field? key entries = some j)
    (ha : reader.Reads d j a) :
    (Fields.withDefault key default reader).Reads d entries a :=
  field hj ha.eq_ok

/-- An optional field is read back, be it there or not. -/
theorem optional {write : α → Json} {a? : Option α}
    (hj : Json.field? key entries = some (.optional write a?))
    (ha : ∀ a ∈ a?, reader.Reads d (write a) a) :
    (Fields.optional key reader).Reads d entries a? := by
  refine field hj fun hd inVariant => ?_
  cases a? with
  | none => rfl
  | some a =>
      obtain ⟨hnull, hread⟩ := ha a rfl
      simp only [Json.optional, hread hd inVariant]
      rfl

end Fields.Reads

/-- What is written item by item is read item by item. -/
theorem mapM_map_of_left_inverse {read : Json → Except Fault α} {write : α → Json}
    {as : List α} (h : ∀ a ∈ as, read (write a) = .ok a) :
    (as.map write).mapM read = .ok as := by
  induction as with
  | nil => rfl
  | cons a as ih =>
      have htail := ih fun b hb => h b (List.mem_cons_of_mem a hb)
      rw [List.map_cons, List.mapM_cons, h a List.mem_cons_self, htail]
      rfl

namespace Reader.Reads

variable {d : Nat} {j : Json} {a : α} {reader : Reader α}

/-- Nothing is asked of a form that is too deep. -/
theorem of_lt_depth (h : d < j.depth) : reader.Reads d j a where
  ne_null := by
    rintro rfl
    exact Nat.not_lt_zero d h
  eq_ok hd := absurd hd (Nat.not_le.2 h)

theorem of_succ (h : reader.Reads (d + 1) j a) : reader.Reads d j a :=
  ⟨h.ne_null, fun hd => h.eq_ok (Nat.le_succ_of_le hd)⟩

theorem text {s : String} : Reader.text.Reads d (.string s) s :=
  ⟨nofun, fun _ _ => rfl⟩

theorem flag {b : Bool} : Reader.flag.Reads d (.bool b) b :=
  ⟨nofun, fun _ _ => rfl⟩

/-- A number of a machine word is read back exactly. -/
theorem count {n : UInt64} : Reader.count.Reads d (.count n) n where
  ne_null := nofun
  eq_ok _ _ := by
    simp only [Json.count, Reader.count, n.toNat_lt, if_true, UInt64.ofNat_toNat]

/-- A word is read if no word before it is spelled like it. -/
theorem word {all : List α} {spelling : α → String}
    (h : all.find? (spelling · = spelling a) = some a) :
    (Reader.word all spelling).Reads d (.string (spelling a)) a where
  ne_null := nofun
  eq_ok _ _ := by simp only [Reader.word, h]

/-- A list is read back if its items are. -/
theorem list {write : α → Json} {as : List α}
    (h : ∀ a ∈ as, reader.Reads d (write a) a) :
    reader.list.Reads d (.array (as.map write)) as where
  ne_null := nofun
  eq_ok hd inVariant := by
    apply mapM_map_of_left_inverse
    intro a ha
    have hdepth := Json.depth_le_depthOfItems (List.mem_map_of_mem (f := write) ha)
    exact (h a ha).eq_ok (Nat.le_trans hdepth (Nat.le_of_succ_le hd)) inVariant

theorem texts {ss : List String} : Reader.text.list.Reads d (.strings ss) ss :=
  list fun _ _ => text

theorem pair {first : Reader α} {second : Reader β} {k : Json} {b : β}
    (ha : first.Reads d j a) (hb : second.Reads d k b) :
    (Reader.pair first second).Reads d (.array [j, k]) (a, b) where
  ne_null := nofun
  eq_ok hd inVariant := by
    have hitems : Json.depthOfItems [j, k] ≤ d := Nat.le_of_succ_le hd
    have hj : j.depth ≤ d :=
      Nat.le_trans (Json.depth_le_depthOfItems (by simp)) hitems
    have hk : k.depth ≤ d :=
      Nat.le_trans (Json.depth_le_depthOfItems (by simp)) hitems
    simp only [Reader.pair, ha.eq_ok hj, hb.eq_ok hk]
    rfl

/-- The entries of a record lie one level deeper than the record. -/
theorem record_succ {fields : Fields α} {entries : List (String × Json)}
    (h : fields.Reads d entries a) :
    (Reader.record fields).Reads (d + 1) (.object entries) a where
  ne_null := nofun
  eq_ok hd inVariant := by
    have hread := h (Nat.le_of_succ_le_succ hd) entries (fun _ _ => rfl) inVariant 0
    simp only [Reader.record, Reader.fieldsFrom, hread]

/-- A record is read back if its fields are. -/
theorem record {fields : Fields α} {entries : List (String × Json)}
    (h : fields.Reads d entries a) :
    (Reader.record fields).Reads d (.object entries) a :=
  (record_succ h).of_succ

/-- The fields of a variant lie one level deeper than the variant. -/
theorem tagged_succ {variants : List (String × Fields α)} {tag : String}
    {fields : Fields α} {entries : List (String × Json)}
    (htag : variants.lookup tag = some fields) (h : fields.Reads d entries a) :
    (Reader.tagged variants).Reads (d + 1) (.tagged tag entries) a where
  ne_null := nofun
  eq_ok hd inVariant := by
    have hentries : Json.depthOfEntries entries ≤ d :=
      Nat.le_trans (Nat.le_max_right _ _) (Nat.le_of_succ_le_succ hd)
    have hfound : ∀ key, key ≠ "type" →
        List.lookup key (("type", Json.string tag) :: entries) =
          entries.lookup key := by
      intro key hkey
      rw [List.lookup_cons, beq_false_of_ne hkey]
    have hread := h hentries _ hfound true 0
    simp only [Json.tagged, Reader.tagged, List.lookup_cons_self, Option.bind_some,
      Reader.choose, htag, Reader.fieldsFrom, hread]

/-- A tagged value is read back by the fields of its variant. -/
theorem tagged {variants : List (String × Fields α)} {tag : String}
    {fields : Fields α} {entries : List (String × Json)}
    (htag : variants.lookup tag = some fields) (h : fields.Reads d entries a) :
    (Reader.tagged variants).Reads d (.tagged tag entries) a :=
  (tagged_succ htag h).of_succ

end Reader.Reads

end Form

end SqlPrinter
