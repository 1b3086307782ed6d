/-
The text of a type.  In a cast and in the definition of a column it has the same
parts: the name, the size between parentheses, the array dimensions and the words
after them.  A cast puts the dimensions right after the name and a definition puts
the size there, so the texts are the same unless a type has both.
-/
import SqlPrinter.Proofs.Pattern.Query
import SqlPrinter.Proofs.Writes

namespace SqlPrinter

/-! ## Fixed texts -/

namespace Effect

theorem filter_cons_of_ne_empty {s : String} (hs : s ≠ "") (ss : List String) :
    (s :: ss).filter (· ≠ "") = s :: ss.filter (· ≠ "") := by
  simp [hs]

/-- Texts that are not empty make a text that is not, if there are any. -/
theorem intercalate_filter_eq_empty_iff (separator : String) (ss : List String) :
    separator.intercalate (ss.filter (· ≠ "")) = "" ↔ ss.filter (· ≠ "") = [] := by
  cases hss : ss.filter (· ≠ "") with
  | nil => simp
  | cons s rest =>
      have hmem : s ∈ ss.filter (· ≠ "") := hss ▸ List.mem_cons_self
      have hs : s ≠ "" := by simpa using (List.mem_filter.1 hmem).2
      simp [Doc.intercalate_cons_eq, hs]

theorem beside_text (separator s t : String) :
    beside separator (text s) (text t) = text (joinBeside separator s t) :=
  rfl

/-- Of fixed texts the ones that are not empty are kept. -/
theorem fragments_text (separator : String) (ss : List String) :
    fragments separator (ss.map text) =
      text (separator.intercalate (ss.filter (· ≠ ""))) := by
  induction ss with
  | nil => rfl
  | cons s ss ih =>
      rw [List.map_cons, fragments, ih, beside_text]
      congr 1
      by_cases hs : s = ""
      · simp [joinBeside, hs]
      · rw [filter_cons_of_ne_empty hs, joinBeside, if_neg hs]
        by_cases hrest : ss.filter (· ≠ "") = []
        · rw [hrest, if_pos String.intercalate_nil, String.intercalate_singleton]
        · rw [if_neg ((intercalate_filter_eq_empty_iff separator ss).not.2 hrest),
            String.intercalate_cons_of_ne_nil hrest]

end Effect

/-! ## The parts of a type -/

namespace DataType

variable {t : DataType}

/-- The name of a type, in upper case unless it is quoted. -/
def nameText (t : DataType) : String :=
  match t.quoted with
  | none => t.name.toUpper
  | some mark => mark ++ t.name ++ mark

/-- The length and the scale of a type; there is no scale without a length. -/
def digitsText (t : DataType) : String :=
  match t.length, t.scale with
  | none, _ => ""
  | some length, none => toString length.toNat
  | some length, some scale => toString length.toNat ++ ", " ++ toString scale.toNat

/-- The size of a type with its parentheses. -/
def sizeText (t : DataType) : String :=
  if t.parentheses then "(" ++ t.digitsText ++ ")" else ""

/-- The array dimensions of a type. -/
def arrayText (t : DataType) : String :=
  match t.array with
  | none => ""
  | some .one => "[]"
  | some .two => "[][]"

/-- The words after a type that are not empty. -/
def upperWords (t : DataType) : List String :=
  (t.suffix.map String.toUpper).filter (· ≠ "")

/-- The words after a type, with a space before each of them. -/
def wordsText (t : DataType) : String :=
  String.join (t.upperWords.map (" " ++ ·))

/-- A type as it stands in the definition of a column. -/
def inColumn (t : DataType) : String :=
  t.nameText ++ t.sizeText ++ t.arrayText ++ t.wordsText

/-- A type as it stands in a cast. -/
def inCast (t : DataType) : String :=
  t.nameText ++ t.arrayText ++ t.sizeText ++ t.wordsText

/-- A type is the same in a cast and in a column unless an array has parentheses
behind it. -/
theorem inCast_eq_inColumn_iff :
    t.inCast = t.inColumn ↔ t.array = none ∨ t.parentheses = false := by
  constructor
  · intro h
    by_contra hboth
    rw [not_or] at hboth
    obtain ⟨dimensions, harray⟩ := Option.ne_none_iff_exists'.1 hboth.1
    have hsize : t.parentheses = true := by simpa using hboth.2
    -- After the name one text goes on with a bracket and the other one with a
    -- parenthesis.
    have hlist := congrArg String.toList h
    cases dimensions <;> simp [inCast, inColumn, arrayText, sizeText, harray, hsize]
      at hlist
  · rintro (harray | hsize)
    · simp [inCast, inColumn, arrayText, harray]
    · simp [inCast, inColumn, sizeText, hsize]

theorem nameText_ne_empty (hname : t.name ≠ "") : t.nameText ≠ "" := by
  unfold nameText
  split <;> simp [hname]

theorem wordsText_of_ne_nil (h : t.upperWords ≠ []) :
    t.wordsText = " " ++ " ".intercalate t.upperWords := by
  obtain ⟨w, ws, hws⟩ := List.exists_cons_of_ne_nil h
  simp [wordsText, hws, Doc.intercalate_cons_eq, String.append_assoc]

theorem upperWords_ne_nil (hwords : ∃ w ∈ t.suffix, w ≠ "") :
    t.upperWords ≠ [] := by
  obtain ⟨w, hw, hne⟩ := hwords
  exact List.ne_nil_of_mem (a := w.toUpper)
    (List.mem_filter.2 ⟨List.mem_map_of_mem hw, by simpa using hne⟩)

/-- A type without members.  It has no length without parentheses, and where there
are words after it, not all of them are empty. -/
structure IsPlain (t : DataType) : Prop where
  values_eq_nil : t.values = []
  parentheses_of_length : t.length ≠ none → t.parentheses = true
  words : t.suffix = [] ∨ ∃ w ∈ t.suffix, w ≠ ""

end DataType

/-! ## Layouts of a type -/

namespace Layout

open Effect (text_append_text)

variable (settings : Settings) {t : DataType}

theorem effect_typeName (t : DataType) :
    (typeName t).effect settings = .text t.nameText := by
  unfold typeName DataType.nameText
  cases t.quoted <;> simp [Doc.word, text_append_text]

theorem effect_typeArray (t : DataType) :
    (typeArray t).effect settings = .text t.arrayText := by
  unfold typeArray DataType.arrayText
  rcases t.array with _ | _ | _ <;> simp [Effect.optional, ArrayDim.doc]

theorem effect_words (t : DataType) :
    (Doc.words t.suffix).effect settings =
      .text (" ".intercalate t.upperWords) := by
  have hwords : Doc.effects settings (t.suffix.map Doc.word) =
      (t.suffix.map String.toUpper).map Effect.text := by
    simp [Doc.effects, Doc.word, Function.comp_def]
  rw [Doc.words, Doc.effect_fragments, hwords, Effect.fragments_text]
  rfl

theorem effect_castSize (ht : t.IsPlain) :
    (castSize t).effect settings = .text (t.sizeText ++ t.wordsText) := by
  have hwords : (if t.suffix.isEmpty then (.empty : Doc)
      else .text " " ++ .words t.suffix).effect settings = .text t.wordsText := by
    rcases ht.words with hnone | hsome
    · simp [hnone, DataType.wordsText, DataType.upperWords]
    · have hne : t.suffix ≠ [] := List.ne_nil_of_mem hsome.choose_spec.1
      simp [hne, effect_words, text_append_text,
        DataType.wordsText_of_ne_nil (DataType.upperWords_ne_nil hsome)]
  rw [castSize, Doc.effect_append, hwords, ← text_append_text]
  congr 1
  unfold DataType.sizeText DataType.digitsText
  cases hparentheses : t.parentheses with
  | false =>
      have hlength : t.length = none := by
        by_contra hsome
        simp [ht.parentheses_of_length hsome] at hparentheses
      simp [hlength]
  | true =>
      rcases t.length with _ | length <;> rcases t.scale with _ | scale <;>
        simp [Doc.number, text_append_text]

/-- A plain type in a cast has one text, whatever the settings. -/
theorem effect_castType (ht : t.IsPlain) :
    (castType t).effect settings = .text t.inCast := by
  simp [castType, effect_typeName, effect_typeArray, effect_castSize settings ht,
    text_append_text, DataType.inCast, String.append_assoc]

theorem effect_typeSize (ht : t.IsPlain) :
    (typeSize t []).effect settings = .text t.sizeText := by
  unfold typeSize DataType.sizeText DataType.digitsText
  rcases hlength : t.length with _ | length
  · cases t.parentheses <;> simp [text_append_text]
  · have hparentheses : t.parentheses = true :=
      ht.parentheses_of_length (by simp [hlength])
    rcases t.scale with _ | scale <;>
      simp [hparentheses, Doc.number, text_append_text]

/-- A plain type in a column has one text, whatever the settings. -/
theorem effect_dataType (ht : t.IsPlain) (hname : t.name ≠ "") :
    (Doc.fragments " " [typeName t ++ typeSize t [] ++ typeArray t,
      .words t.suffix]).effect
      settings = .text t.inColumn := by
  have hhead : t.nameText ++ t.sizeText ++ t.arrayText ≠ "" := by
    simp [DataType.nameText_ne_empty hname]
  have hwords : " ".intercalate ([t.nameText ++ t.sizeText ++ t.arrayText,
      " ".intercalate t.upperWords].filter (· ≠ "")) = t.inColumn := by
    rw [Effect.filter_cons_of_ne_empty hhead]
    by_cases hnil : t.upperWords = []
    · simp [hnil, DataType.inColumn, DataType.wordsText]
    · have hne : " ".intercalate t.upperWords ≠ "" :=
        (Effect.intercalate_filter_eq_empty_iff " " _).not.2 hnil
      rw [Effect.filter_cons_of_ne_empty hne, DataType.inColumn,
        DataType.wordsText_of_ne_nil hnil]
      simp [String.append_assoc]
  have hfragments := Effect.fragments_text " "
    [t.nameText ++ t.sizeText ++ t.arrayText, " ".intercalate t.upperWords]
  rw [hwords] at hfragments
  simpa [effect_typeName, effect_typeArray, effect_typeSize settings ht,
    effect_words, text_append_text] using hfragments

end Layout

/-! ## Types in casts and in columns -/

/-- A cast of a value to a type, and nothing else. -/
def Cast.only (subject : Expr) (target : DataType) (form : CastForm)
    (keyword : Option String) : Cast where
  subject
  target
  form
  keyword
  tail := none
  rename := none
  collate := none

namespace DataType

open Doc

variable {settings : Settings} {t : DataType} {e : Expr} {keyword : Option String}
  {c c' : Counters} {s : String}

/-- A plain type with a name is written in a column, and only so. -/
theorem writes_column_iff (ht : t.IsPlain) :
    (Layout.typeDoc settings t).Writes settings c s c' ↔
      t.name ≠ "" ∧ s = t.inColumn ∧ c' = c := by
  have hlayout :
      Layout.typeDoc settings t = .requireText t.name "data type" "data_type" ++
      .fragments " " [Layout.typeName t ++ Layout.typeSize t [] ++
        Layout.typeArray t, .words t.suffix] := by
    have hvalues := ht.values_eq_nil
    cases t
    subst hvalues
    rfl
  rw [hlayout, writes_requireText_append_iff]
  refine and_congr_right fun hname => ?_
  exact writes_iff_of_effect (Layout.effect_dataType settings ht hname)

/-- What comes before the type in a cast goes on with the type. -/
theorem effect_text_append_castType (ht : t.IsPlain) (lead : String) :
    (text lead ++ Layout.castType t).effect settings =
      .text (lead ++ t.inCast) := by
  rw [effect_append, effect_text, Layout.effect_castType settings ht,
    Effect.text_append_text]

theorem writes_keywordCast_iff (ht : t.IsPlain) :
    (Layout.expr settings (.cast (.only e t .keyword keyword))).Writes
      settings c s c' ↔
      t.name ≠ "" ∧ ∃ word u, keyword = some word ∧ word ≠ "" ∧
        (Layout.expr settings e).Writes settings c u c' ∧
          s = word.toUpper ++ "(" ++ u ++ " AS " ++ t.inCast ++ ")" := by
  have hlayout : (Layout.expr settings (.cast (.only e t .keyword keyword))).effect
      settings = (requireText t.name "cast" "data_type" ++
        (text (keyword.getD "").toUpper ++ parens (Layout.expr settings e ++
          (requireText (keyword.getD "") "cast" "keyword" ++
            (text " AS " ++ Layout.castType t))))).effect settings := by
    simp [Layout.expr, Layout.castExpr, Layout.cast, Cast.only,
      Layout.castTailDoc, rename, Text.nonEmpty, word, Effect.clause,
      Effect.append_assoc]
  rw [Writes, hlayout, ← Writes, writes_requireText_append_iff,
    writes_text_append_iff]
  simp only [writes_parens_iff, writes_append_requireText_append_iff,
    writes_append_iff_of_effect (effect_text_append_castType ht " AS ")]
  refine and_congr_right fun _ => ?_
  cases keyword with
  | none => simp
  | some word =>
      constructor
      · rintro ⟨_, ⟨_, ⟨hword, u, hu, rfl⟩, rfl⟩, rfl⟩
        exact ⟨word, u, rfl, hword, hu, by simp [String.append_assoc]⟩
      · rintro ⟨_, u, ⟨⟩, hword, hu, rfl⟩
        exact ⟨_, ⟨_, ⟨hword, u, hu, rfl⟩, rfl⟩, by simp [String.append_assoc]⟩

theorem writes_doubleColonCast_iff (ht : t.IsPlain) :
    (Layout.expr settings (.cast (.only e t .doubleColon keyword))).Writes
      settings c s c' ↔
      t.name ≠ "" ∧ ∃ u, (Layout.expr settings e).Writes settings c u c' ∧
        s = u ++ "::" ++ t.inCast := by
  have hlayout :
      (Layout.expr settings (.cast (.only e t .doubleColon keyword))).effect
      settings = (requireText t.name "cast" "data_type" ++
        (Layout.expr settings e ++ (text "::" ++ Layout.castType t))).effect
          settings := by
    simp [Layout.expr, Layout.castExpr, Layout.cast, Cast.only,
      Layout.castTailDoc, rename, Text.nonEmpty, Effect.clause, Effect.append_assoc]
  rw [Writes, hlayout, ← Writes, writes_requireText_append_iff,
    writes_append_iff_of_effect (effect_text_append_castType ht "::")]
  simp only [String.append_assoc]

/-- A type has the same parts in a cast as in the definition of a column, and the
same text unless it has both array dimensions and parentheses. -/
theorem writes_alike (ht : t.IsPlain) (settings : Settings) :
    (∀ c s c', (Layout.typeDoc settings t).Writes settings c s c' ↔
      t.name ≠ "" ∧ s = t.inColumn ∧ c' = c) ∧
    (∀ e keyword c s c',
      (Layout.expr settings (.cast (.only e t .keyword keyword))).Writes
        settings c s c' ↔
        t.name ≠ "" ∧ ∃ word u, keyword = some word ∧ word ≠ "" ∧
          (Layout.expr settings e).Writes settings c u c' ∧
            s = word.toUpper ++ "(" ++ u ++ " AS " ++ t.inCast ++ ")") ∧
    (∀ e keyword c s c',
      (Layout.expr settings (.cast (.only e t .doubleColon keyword))).Writes
        settings c s c' ↔
        t.name ≠ "" ∧ ∃ u, (Layout.expr settings e).Writes settings c u c' ∧
          s = u ++ "::" ++ t.inCast) ∧
    (t.inCast = t.inColumn ↔ t.array = none ∨ t.parentheses = false) :=
  ⟨fun _ _ _ => writes_column_iff ht, fun _ _ _ _ _ => writes_keywordCast_iff ht,
    fun _ _ _ _ _ => writes_doubleColonCast_iff ht, inCast_eq_inColumn_iff⟩

/-- `VARCHAR(10)` with one array dimension. -/
def varcharArray : DataType where
  name := "varchar"
  length := some 10
  scale := none
  parentheses := true
  quoted := none
  suffix := []
  array := some .one
  values := []

theorem isPlain_varcharArray : varcharArray.IsPlain where
  values_eq_nil := rfl
  parentheses_of_length _ := rfl
  words := .inl rfl

/-- The dimension stands before the length in a cast. -/
theorem writes_alike_varcharArray :
    let settings := Settings.ofDialect .postgres
    let e : Expr := .column ⟨none, none, "a"⟩
    varcharArray.IsPlain ∧
      (Layout.expr settings e).Writes settings .start "\"a\"" .start ∧
      (Layout.typeDoc settings varcharArray).Writes
        settings .start "VARCHAR(10)[]" .start ∧
      (Layout.expr settings (.cast (.only e varcharArray .doubleColon none))).Writes
        settings .start "\"a\"::VARCHAR[](10)" .start := by
  intro settings e
  obtain ⟨hcolumn, -, hcast, -⟩ := writes_alike isPlain_varcharArray settings
  have hprinted : e.render settings = .ok "\"a\"" := by decide +kernel
  obtain ⟨c', he⟩ := print_eq_ok_iff.1 hprinted
  obtain rfl : c' = .start := he.counters_eq fun _ => rfl
  exact ⟨isPlain_varcharArray, he,
    (hcolumn .start _ .start).2 ⟨by decide, by decide +kernel, rfl⟩,
    (hcast e none .start _ .start).2 ⟨by decide, "\"a\"", he, by decide +kernel⟩⟩

/-- So a type need not be printed alike in a cast and in the
definition of a column. -/
theorem not_render_cast_eq :
    ¬ ∀ (t : DataType) (e : Expr) (settings : Settings) (u s : String),
      t.values = [] →
      (t.length ≠ none → t.parentheses = true) → e.render settings = .ok u →
        (Layout.typeDoc settings t).print settings = .ok s →
          (Expr.cast (.only e t .doubleColon none)).render settings =
            .ok (u ++ "::" ++ s) := by
  intro h
  have halike :=
    h varcharArray (.column ⟨none, none, "a"⟩) (.ofDialect .postgres) "\"a\""
      "VARCHAR(10)[]" rfl (fun _ => rfl) (by decide +kernel) (by decide +kernel)
  have hcast :
      (Expr.cast (.only (.column ⟨none, none, "a"⟩) varcharArray .doubleColon
        none)).render (.ofDialect .postgres) = .ok "\"a\"::VARCHAR[](10)" := by
    decide +kernel
  rw [hcast] at halike
  exact absurd (Except.ok.inj halike) (by decide)

end DataType

end SqlPrinter
