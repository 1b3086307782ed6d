/-
Patterns for the parts of a statement that contain no expression.
-/
import SqlPrinter.Proofs.Pattern

namespace SqlPrinter

/-! ## Names -/

namespace Filling

variable (f : Filling)

/-- A filling keeps missing names missing, so that it keeps the checks for them. -/
@[simp] theorem requireText_name (s node field : String) :
    Doc.requireText (f.name s) node field = Doc.requireText s node field := by
  simp [Doc.requireText, f.name_eq_empty]

@[simp] theorem nonEmpty_map_name (o : Option String) :
    Text.nonEmpty (o.map f.name) = (Text.nonEmpty o).map f.name := by
  cases o with
  | none => rfl
  | some s =>
      by_cases hs : s = ""
      · subst hs
        have hname : f.name "" = "" := (f.name_eq_empty "").2 rfl
        simp [Text.nonEmpty, Option.filter, hname]
      · have hname : f.name s ≠ "" := fun h => hs ((f.name_eq_empty s).1 h)
        simp [Text.nonEmpty, Option.filter, hs, hname]

end Filling

theorem Text.mem_of_mem_nonEmpty {o : Option String} {s : String}
    (hs : s ∈ nonEmpty o) : s ∈ o := by
  rw [nonEmpty, Option.mem_def, Option.filter_eq_some_iff] at hs
  exact hs.1

variable {settings : Settings} {ok : Node.Leaf → Prop} {ss : List String}
  {o : Option String}

theorem Patterns.names (hss : ∀ s ∈ ss, ok (.name s)) :
    Patterns settings ok [] fun f => (ss.map f.name).map .name := by
  induction ss with
  | nil => exact .nil
  | cons s ss ih =>
      have hs := hss s List.mem_cons_self
      have htail := ih fun t ht => hss t (List.mem_cons_of_mem s ht)
      exact .cons (.name hs) htail

theorem PatternOpt.name (ho : ∀ s ∈ o, ok (.name s)) :
    PatternOpt settings ok [] fun f => (o.map f.name).map .name := by
  cases o with
  | none => exact .none
  | some s => exact .some (.name (ho s rfl))

theorem PatternOpt.string (ho : ∀ s ∈ o, ok (.string s)) :
    PatternOpt settings ok [] fun f => (o.map f.string).map .string := by
  cases o with
  | none => exact .none
  | some s => exact .some (.string (ho s rfl))

namespace Pattern

theorem path (hss : ∀ s ∈ ss, ok (.name s)) :
    Pattern settings ok [] fun f => .path (ss.map f.name) :=
  (Patterns.names hss).joined (.text rfl)

/-- The names after the first one, each with a comma before it. -/
theorem laterNames (node field : String) (hss : ∀ s ∈ ss, ok (.name s)) :
    Patterns settings ok [] fun f => (ss.map f.name).map fun n =>
      .requireText n node field ++ .text ", " ++ .name n := by
  induction ss with
  | nil => exact .nil
  | cons s ss ih =>
      have hs : Pattern settings ok [] fun f =>
          .requireText s node field ++ .text ", " ++ .name (f.name s) :=
        then_fixed (then_text (requireText _ _ _) rfl)
          (.name (hss s List.mem_cons_self))
      simp only [List.map_cons, Filling.requireText_name]
      exact .cons hs (ih fun t ht => hss t (List.mem_cons_of_mem s ht))

theorem names (node field : String) (hss : ∀ s ∈ ss, ok (.name s)) :
    Pattern settings ok [] fun f => .names node field (ss.map f.name) := by
  cases ss with
  | nil => exact .empty
  | cons s ss =>
      have hs : Pattern settings ok [] fun f =>
          .requireText s node field ++ .name (f.name s) :=
        then_fixed (requireText _ _ _) (.name (hss s List.mem_cons_self))
      have htail : ∀ t ∈ ss, ok (.name t) :=
        fun t ht => hss t (List.mem_cons_of_mem s ht)
      simp only [List.map_cons, Doc.names, Filling.requireText_name]
      exact hs.then_fixed (laterNames node field htail).concat

theorem rename (withAs : Bool) (ho : ∀ s ∈ o, ok (.name s)) :
    Pattern settings ok [] fun f => .rename withAs (o.map f.name) := by
  simp only [Doc.rename, Filling.nonEmpty_map_name]
  cases hne : Text.nonEmpty o with
  | none => exact .empty
  | some s =>
      have hs := ho s (Text.mem_of_mem_nonEmpty hne)
      have hlead : IsPlain (if withAs then " AS " else " ") := by
        cases withAs <;> rfl
      exact text_then (.name hs) hlead

/-- A list of names in parentheses that is left out if it is empty. -/
theorem namesInParens (node field : String) (hss : ∀ s ∈ ss, ok (.name s)) :
    Pattern settings ok [] fun f =>
      if (ss.map f.name).isEmpty then .empty
      else .text " " ++ .parens (.names node field (ss.map f.name)) := by
  cases ss with
  | nil => exact .empty
  | cons s ss => exact text_then (parens (names node field hss)) rfl

/-! ## References -/

theorem columnRef {ref : ColumnRef} (href : ∀ l ∈ Node.columnLeaves ref, ok l) :
    Pattern settings ok [] fun f => (f.column ref).doc := by
  have hnames :
      ∀ s ∈ (Text.nonEmpty ref.schema).toList ++ (Text.nonEmpty ref.table).toList ++
      [ref.column], ok (.name s) := by
    intro s hs
    apply href
    simp only [List.mem_append, Option.mem_toList, List.mem_singleton] at hs
    rcases hs with (hs | hs) | rfl
    · have hmem := Text.mem_of_mem_nonEmpty hs
      simp_all [Node.columnLeaves, Node.names]
    · have hmem := Text.mem_of_mem_nonEmpty hs
      simp_all [Node.columnLeaves, Node.names]
    · simp [Node.columnLeaves, Node.names]
  have hdoc (f : Filling) : (f.column ref).doc =
      .requireText ref.column "column" "column" ++
        .path
          (((Text.nonEmpty ref.schema).toList ++ (Text.nonEmpty ref.table).toList ++
          [ref.column]).map f.name) := by
    cases hschema : Text.nonEmpty ref.schema <;>
      cases htable : Text.nonEmpty ref.table <;>
      simp [ColumnRef.doc, Filling.column, hschema, htable]
  simp only [hdoc]
  exact then_fixed (requireText _ _ _) (path hnames)

theorem objectName {object : ObjectName}
    (hobject : ∀ l ∈ Node.objectLeaves object, ok l) :
    Pattern settings ok [] fun f => (f.object object).doc := by
  have hnames : ∀ s ∈ (Text.nonEmpty object.schema).toList ++ [object.name],
      ok (.name s) := by
    intro s hs
    apply hobject
    simp only [List.mem_append, Option.mem_toList, List.mem_singleton] at hs
    rcases hs with hs | rfl
    · have hmem := Text.mem_of_mem_nonEmpty hs
      simp_all [Node.objectLeaves, Node.names]
    · simp [Node.objectLeaves, Node.names]
  have hdoc (f : Filling) : (f.object object).doc =
      .requireText object.name "object name" "name" ++
        .path (((Text.nonEmpty object.schema).toList ++ [object.name]).map
          f.name) := by
    cases hschema : Text.nonEmpty object.schema <;>
      simp [ObjectName.doc, Filling.object, hschema]
  simp only [hdoc]
  exact then_fixed (requireText _ _ _) (path hnames)

/-! ## Constants and parameters -/

theorem charset (ho : ∀ s ∈ o, ok (.verbatim s)) :
    Pattern settings ok [] fun _ => charsetDoc o := by
  unfold charsetDoc
  cases hne : Text.nonEmpty o with
  | none => exact .empty
  | some s => exact then_text (.word (ho s (Text.mem_of_mem_nonEmpty hne))) rfl

theorem literal {v : Literal} (hv : ∀ l ∈ Node.literalLeaves v, ok l) :
    Pattern settings ok [] fun f => (f.literal v).doc settings := by
  cases v with
  | string value prefixed =>
      have hprefix : ∀ s ∈ prefixed, ok (.verbatim s) := by
        intro s hs
        apply hv
        simp_all [Node.literalLeaves, Node.verbatims]
      exact then_fixed (charset hprefix)
        (.string (hv _ (by simp [Node.literalLeaves])))
  | national value =>
      exact text_then (.string (hv _ (by simp [Node.literalLeaves]))) rfl
  | hex digits form prefixed =>
      have hprefix : ∀ s ∈ prefixed, ok (.verbatim s) := by
        intro s hs
        apply hv
        simp_all [Node.literalLeaves, Node.verbatims]
      have hdigits : ok (.verbatim digits) :=
        hv _ (by simp [Node.literalLeaves, Node.verbatims])
      refine then_fixed (charset hprefix) ?_
      split
      · exact text_then (.verbatim hdigits) rfl
      · exact .digits (Or.inl rfl) hdigits
  | bit digits form prefixed =>
      have hprefix : ∀ s ∈ prefixed, ok (.verbatim s) := by
        intro s hs
        apply hv
        simp_all [Node.literalLeaves, Node.verbatims]
      have hdigits : ok (.verbatim digits) :=
        hv _ (by simp [Node.literalLeaves, Node.verbatims])
      refine then_fixed (charset hprefix) ?_
      cases form with
      | quoted => exact .digits (Or.inr rfl) hdigits
      | zeroB => exact text_then (.verbatim hdigits) rfl
  | number digits =>
      exact then_fixed (requireText _ _ _)
        (.verbatim (hv _ (by simp [Node.literalLeaves])))
  | bool value => cases value <;> exact .text rfl
  | null => exact .text rfl
  | typed kind value =>
      exact then_fixed (then_text (.word (hv _ (by simp [Node.literalLeaves]))) rfl)
        (.string (hv _ (by simp [Node.literalLeaves])))

/-! ## Types -/

theorem dimensions (dims : Option ArrayDim) :
    Pattern settings ok [] fun _ => .optional (dims.map ArrayDim.doc) :=
  (PatternOpt.const dims fun d _ => .dims d).optional

theorem words (hss : ∀ s ∈ ss, ok (.verbatim s)) : Pattern settings ok [] fun _ =>
    .words ss :=
  (Patterns.const ss fun s hs => .word (hss s hs)).fragments

theorem typeName {t : DataType} (ht : ∀ l ∈ Node.typeLeaves t, ok l) :
    Pattern settings ok [] fun _ => Layout.typeName t := by
  have hname : ok (.verbatim t.name) :=
    ht _ (by simp [Node.typeLeaves, Node.verbatims])
  unfold Layout.typeName
  cases hquoted : t.quoted with
  | none => exact .word hname
  | some s =>
      have hmark : ok (.mark s) := ht _ (by simp [Node.typeLeaves, hquoted])
      exact then_fixed (then_fixed (.mark hmark) (.verbatim hname)) (.mark hmark)

/-- The length of a type and its scale. -/
theorem castDigits (length scale : Option UInt64) :
    Pattern settings ok [] fun _ =>
      match length, scale with
      | none, _ => .empty
      | some length, none => .number length
      | some length, some scale =>
          .number length ++ .text ", " ++ .number scale := by
  rcases length with _ | length
  · exact .empty
  · rcases scale with _ | scale
    · exact .number _
    · exact then_fixed (then_text (.number _) rfl) (.number _)

theorem castSize {t : DataType} (ht : ∀ l ∈ Node.typeLeaves t, ok l) :
    Pattern settings ok [] fun _ => Layout.castSize t := by
  have hsuffix : ∀ s ∈ t.suffix, ok (.verbatim s) := by
    intro s hs
    apply ht
    simp_all [Node.typeLeaves, Node.verbatims]
  unfold Layout.castSize
  refine then_fixed ?_ ?_
  · split
    · exact (castDigits t.length t.scale).parens
    · exact castDigits t.length t.scale
  · split
    · exact .empty
    · exact text_then (words hsuffix) rfl

theorem castType {t : DataType} (ht : ∀ l ∈ Node.typeLeaves t, ok l) :
    Pattern settings ok [] fun _ => Layout.castType t :=
  then_fixed (then_fixed (typeName ht) (dimensions t.array)) (castSize ht)

/-! ## Small clauses -/

theorem direction (d : Option Direction) :
    Pattern settings ok [] fun _ => Direction.doc? d := by
  rcases d with _ | _ | _
  · exact .empty
  · exact .text rfl
  · exact .text rfl

theorem nulls (n : Option NullsOrder) :
    Pattern settings ok [] fun _ => NullsOrder.doc? n := by
  rcases n with _ | _ | _
  · exact .empty
  · exact .text rfl
  · exact .text rfl

theorem materialization (m : Option Materialization) :
    Pattern settings ok [] fun _ => Materialization.doc? m := by
  rcases m with _ | _ | _
  · exact .empty
  · exact .text rfl
  · exact .text rfl

theorem operator {op : BinaryOp} (hop : ∀ s, op = .other s → ok (.verbatim s)) :
    Pattern settings ok [] fun _ => op.doc := by
  cases op with
  | standard op => cases op <;> exact .text rfl
  | other s => exact .verbatim (hop s rfl)

theorem locking {lock : Option Locking} (hlock : ∀ l ∈ Node.lockLeaves lock, ok l) :
    Pattern settings ok [] fun f =>
      .optional ((lock.map f.locking).map Locking.doc) := by
  rcases lock with _ | ⟨mode, tables, wait⟩
  · exact .empty
  · have htables : ∀ s ∈ tables, ok (.name s) := by
      intro s hs
      apply hlock
      simp_all [Node.lockLeaves, Node.names]
    have hdetails : Pattern settings ok [] fun f =>
        (f.locking ⟨mode, tables, wait⟩).details := by
      refine then_fixed ?_ ?_
      · cases tables with
        | nil => exact .empty
        | cons t ts => exact text_then (names _ _ htables) rfl
      · rcases wait with _ | _ | _
        · exact .empty
        · exact .text rfl
        · exact .text rfl
    cases mode with
    | lockInShareMode => exact .text rfl
    | update => exact text_then hdetails rfl
    | share => exact text_then hdetails rfl

end Pattern

theorem Patterns.columnRefs {refs : List ColumnRef}
    (hrefs : ∀ l ∈ refs.flatMap Node.columnLeaves, ok l) :
    Patterns settings ok [] fun f => (refs.map f.column).map ColumnRef.doc := by
  induction refs with
  | nil => exact .nil
  | cons ref refs ih =>
      have href : ∀ l ∈ Node.columnLeaves ref, ok l :=
        fun l hl => hrefs l (by simp [hl])
      have htail := ih fun l hl => hrefs l (by simp_all)
      exact .cons (.columnRef href) htail

/-- A bound parameter is laid out at its own site. -/
theorem Fits.parameter (p : Site) {param : Parameter}
    (hparam : ∀ l ∈ Node.parameterLeaves param, ok l) :
    Fits (Pattern settings ok) p fun f => (f.parameter p param).doc := by
  cases param with
  | bind => exact ⟨[p], .site p, by simp, by simp⟩
  | question => exact .const .question p
  | dollar index => exact .const (Pattern.text_then (.number index) (by rfl)) p
  | named s =>
      have hs : ok (.verbatim s) := hparam _ (by simp [Node.parameterLeaves])
      exact .const (Pattern.text_then (.verbatim hs) (by rfl)) p

end SqlPrinter
