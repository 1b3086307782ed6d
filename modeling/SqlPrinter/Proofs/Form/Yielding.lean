/-
The values that a reader can give at all, whatever it is given to read.  A reader
that is made of other readers gives values that are made of theirs.
-/
import SqlPrinter.Form.Reader

namespace SqlPrinter.Form

variable {α β : Type}

/-! ## Where a result comes from -/

section Except

variable {ε δ : Type} {x : Except ε α} {a : α} {b : β}

theorem bind_eq_ok {f : α → Except ε β} :
    (x >>= f) = .ok b ↔ ∃ a, x = .ok a ∧ f a = .ok b := by
  cases x <;> simp [bind, Except.bind]

theorem map_eq_ok {f : α → β} : x.map f = .ok b ↔ ∃ a, x = .ok a ∧ f a = b := by
  cases x <;> simp [Except.map]

theorem mapError_eq_ok {f : ε → δ} : x.mapError f = .ok a ↔ x = .ok a := by
  cases x with
  | error e => exact iff_of_false (fun h => by cases h) (fun h => by cases h)
  | ok b =>
      exact ⟨fun h => congrArg _ (Except.ok.inj h),
        fun h => congrArg _ (Except.ok.inj h)⟩

end Except

/-! ## Fields -/

/-- No value but those that satisfy `P` is ever read. -/
def Reader.Yields (reader : Reader α) (P : α → Prop) : Prop :=
  ∀ inVariant j a, reader inVariant j = .ok a → P a

/-- No values but those that satisfy `P` are ever read. -/
def Fields.Yields (fields : Fields α) (P : α → Prop) : Prop :=
  ∀ inVariant source i a, fields.read inVariant source i = .ok a → P a

namespace Fields.Yields

variable {key : String} {reader : Reader α} {P : α → Prop} {Q : β → Prop}

theorem any {fields : Fields α} : fields.Yields fun _ => True :=
  fun _ _ _ _ _ => trivial

theorem pure {a : α} (h : P a) : (Pure.pure a : Fields α).Yields P := by
  intro inVariant source i b hread
  obtain rfl : a = b := Except.ok.inj hread
  exact h

/-- The last field yields values with which those before it are enough. -/
theorem seq {f : Fields (α → β)} {x : Fields α} (hx : x.Yields P)
    (hf : f.Yields fun g => ∀ a, P a → Q (g a)) : (f <*> x).Yields Q := by
  intro inVariant source i b hread
  change (Fields.both f x).read inVariant source i = .ok b at hread
  simp only [Fields.both] at hread
  split at hread
  · next g a hg ha =>
      obtain rfl := Except.ok.inj hread
      exact hf _ _ _ g hg a (hx _ _ _ a ha)
  all_goals contradiction

theorem map {g : α → β} {x : Fields α} (hx : x.Yields P) (hg : ∀ a, P a → Q (g a)) :
    (g <$> x).Yields Q :=
  seq hx (pure hg)

theorem field {missing : Except FieldFault α} (h : reader.Yields P)
    (hmissing : ∀ a, missing = .ok a → P a) :
    (Fields.field key reader missing).Yields P := by
  intro inVariant source i a hread
  simp only [Fields.field] at hread
  split at hread
  · exact h _ _ a (mapError_eq_ok.1 hread)
  · exact hmissing a hread

theorem required (h : reader.Yields P) : (Fields.required key reader).Yields P :=
  field h nofun

theorem withDefault {default : α} (hdefault : P default) (h : reader.Yields P) :
    (Fields.withDefault key default reader).Yields P := by
  refine field h fun a ha => ?_
  obtain rfl := Except.ok.inj ha
  exact hdefault

theorem optional (h : reader.Yields P) :
    (Fields.optional key reader).Yields fun a? => ∀ a ∈ a?, P a := by
  refine withDefault nofun fun inVariant j a? hread => ?_
  split at hread
  · obtain rfl := Except.ok.inj hread
    exact nofun
  · obtain ⟨a, ha, rfl⟩ := map_eq_ok.1 hread
    intro b hb
    obtain rfl := Option.mem_some_iff.1 hb
    exact h _ _ a ha

end Fields.Yields

/-! ## Readers -/

namespace Reader.Yields

variable {reader : Reader α} {P : α → Prop} {Q : β → Prop}

theorem list (h : reader.Yields P) :
    reader.list.Yields fun as => ∀ a ∈ as, P a := by
  intro inVariant j as hread
  cases j with
  | array items =>
      rw [Reader.list] at hread
      induction items generalizing as with
      | nil =>
          obtain rfl : [] = as := Except.ok.inj hread
          exact nofun
      | cons item items ih =>
          rw [List.mapM_cons] at hread
          obtain ⟨a, ha, hread⟩ := bind_eq_ok.1 hread
          obtain ⟨tail, htail, hread⟩ := bind_eq_ok.1 hread
          obtain rfl : a :: tail = as := Except.ok.inj hread
          exact List.forall_mem_cons.2 ⟨h _ _ a ha, ih tail htail⟩
  | _ => contradiction

theorem pair {first : Reader α} {second : Reader β} (ha : first.Yields P)
    (hb : second.Yields Q) : (Reader.pair first second).Yields fun p =>
      P p.1 ∧ Q p.2 := by
  intro inVariant j p hread
  rcases j with _ | _ | _ | _ | _ | (_ | ⟨j, _ | ⟨k, rest⟩⟩) | _
  case array.cons.cons =>
    obtain ⟨a, hj, hread⟩ := bind_eq_ok.1 hread
    obtain ⟨b, hk, hread⟩ := bind_eq_ok.1 hread
    split at hread
    · obtain rfl : (a, b) = p := Except.ok.inj hread
      exact ⟨ha _ _ a hj, hb _ _ b hk⟩
    · contradiction
  case array.cons.nil =>
    obtain ⟨a, hj, hread⟩ := bind_eq_ok.1 hread
    contradiction
  all_goals contradiction

theorem fieldsFrom {fields : Fields α} (h : fields.Yields P) {inVariant : Bool}
    {source : Source} {a : α}
    (hread : Reader.fieldsFrom fields inVariant source = .ok a) : P a := by
  unfold Reader.fieldsFrom at hread
  split at hread
  · contradiction
  · next b hb =>
      have hP := h _ _ _ b hb
      split at hread
      · obtain rfl := Except.ok.inj hread
        exact hP
      · split at hread
        · obtain rfl := Except.ok.inj hread
          exact hP
        · contradiction

theorem record {fields : Fields α} (h : fields.Yields P) :
    (Reader.record fields).Yields P := by
  intro inVariant j a hread
  cases j with
  | object | array => exact fieldsFrom h hread
  | _ => contradiction

end Reader.Yields

/-- Whatever the tag is, the fields that it stands for are those of a variant. -/
theorem Reader.mem_of_choose {variants : List (String × Fields α)}
    {inVariant : Bool} {tag : Json} {fields : Fields α}
    (h : choose variants inVariant tag = some fields) :
    ∃ name, (name, fields) ∈ variants := by
  unfold choose at h
  split at h
  · next tag =>
      obtain ⟨before, after, rfl, -⟩ := List.lookup_eq_some_iff.1 h
      exact ⟨tag, List.mem_append_right before List.mem_cons_self⟩
  · split at h
    · obtain ⟨v, hv, rfl⟩ := Option.map_eq_some_iff.1 h
      exact ⟨v.1, List.mem_of_getElem? hv⟩
    · contradiction
  · contradiction

theorem Reader.Yields.tagged {variants : List (String × Fields α)} {P : α → Prop}
    (h : ∀ v ∈ variants, v.2.Yields P) : (Reader.tagged variants).Yields P := by
  intro inVariant j a hread
  unfold Reader.tagged at hread
  split at hread
  · split at hread
    · next hchoose =>
        obtain ⟨tag, -, hchoose⟩ := Option.bind_eq_some_iff.1 hchoose
        obtain ⟨name, hmem⟩ := mem_of_choose hchoose
        exact fieldsFrom (h _ hmem) hread
    · contradiction
  · split at hread
    · next hchoose =>
        obtain ⟨name, hmem⟩ := mem_of_choose hchoose
        exact fieldsFrom (h _ hmem) hread
    · contradiction
  · contradiction

/-- A list that may be missing. -/
theorem Fields.Yields.many {key : String} {reader : Reader α} {P : α → Prop}
    (h : reader.Yields P) :
    (Fields.withDefault key [] reader.list).Yields fun as => ∀ a ∈ as, P a :=
  withDefault (List.forall_mem_nil P) h.list

end SqlPrinter.Form
