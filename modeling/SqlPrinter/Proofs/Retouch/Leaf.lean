/-
A retouch is not seen in the layout of a part without expressions.
-/
import SqlPrinter.Layout.Schema
import SqlPrinter.Proofs.Retouch

namespace SqlPrinter

/-- An empty text and a missing one print the same. -/
theorem Text.nonEmpty_getD (o : Option String) :
    (nonEmpty o).getD "" = o.getD "" := by
  cases o with
  | none => rfl
  | some s => by_cases hs : s = "" <;> simp [nonEmpty, Option.filter, hs]

variable (ρ : Retouch)

namespace Retouch

/-! ## Texts -/

@[simp] theorem doc_word (s : String) : Doc.word (ρ.word s) = Doc.word s := by
  rw [Doc.word, ρ.toUpper_word, Doc.word]

@[simp] theorem map_word (o : Option String) :
    (o.map ρ.word).map Doc.word = o.map Doc.word := by
  cases o <;> simp

@[simp] theorem requireText_word (s node field : String) :
    Doc.requireText (ρ.word s) node field = Doc.requireText s node field := by
  simp [Doc.requireText, ρ.word_eq_empty_iff]

theorem words_map (ss : List String) :
    Doc.words (ss.map ρ.word) = Doc.words ss := by
  simp [Doc.words, Function.comp_def]

/-- The words after SELECT, of which empty ones are left out. -/
theorem options_map (ss : List String) :
    ((ss.map ρ.word).filter (· ≠ "")).map (fun s => Doc.word s ++ .text " ") =
      (ss.filter (· ≠ "")).map (fun s => Doc.word s ++ .text " ") := by
  simp [List.filter_map, Function.comp_def, ρ.word_eq_empty_iff]

theorem nonEmpty_word? (o : Option String) :
    Text.nonEmpty (ρ.word? o) = (Text.nonEmpty o).map ρ.word := by
  have hword (o : Option String) :
      Text.nonEmpty (o.map ρ.word) = (Text.nonEmpty o).map ρ.word := by
    cases o with
    | none => rfl
    | some s =>
        by_cases hs :
          s = "" <;> simp [Text.nonEmpty, Option.filter, ρ.word_eq_empty_iff, hs]
  rw [word?, hword, ρ.nonEmpty_text]

@[simp] theorem nonEmpty_word?_map_word (o : Option String) :
    (Text.nonEmpty (ρ.word? o)).map Doc.word = (Text.nonEmpty o).map Doc.word := by
  rw [nonEmpty_word?, map_word]

theorem getD_text (o : Option String) : (ρ.text o).getD "" = o.getD "" := by
  rw [← Text.nonEmpty_getD, ρ.nonEmpty_text, Text.nonEmpty_getD]

theorem toUpper_getD_word? (o : Option String) :
    ((ρ.word? o).getD "").toUpper = (o.getD "").toUpper := by
  rw [← Text.nonEmpty_getD, nonEmpty_word?, ← Text.nonEmpty_getD o]
  cases Text.nonEmpty o <;> simp [ρ.toUpper_word]

@[simp] theorem doc_getD_word? (o : Option String) :
    Doc.word ((ρ.word? o).getD "") = Doc.word (o.getD "") := by
  rw [Doc.word, toUpper_getD_word?, Doc.word]

@[simp] theorem requireText_getD_word? (o : Option String) (node field : String) :
    Doc.requireText ((ρ.word? o).getD "") node field =
      Doc.requireText (o.getD "") node field := by
  have hempty : (ρ.word? o).getD "" = "" ↔ o.getD "" = "" := by
    rw [← Text.toUpper_eq_empty_iff, toUpper_getD_word?, Text.toUpper_eq_empty_iff]
  simp [Doc.requireText, hempty]

@[simp] theorem doc_rename (withAs : Bool) (o : Option String) :
    Doc.rename withAs (ρ.text o) = Doc.rename withAs o := by
  rw [Doc.rename, ρ.nonEmpty_text, Doc.rename]

/-! ## Leaves -/

@[simp] theorem column_doc (ref : ColumnRef) : (ρ.column ref).doc = ref.doc := by
  simp [column, ColumnRef.doc, ρ.nonEmpty_text]

/-- An empty piece is not added. -/
theorem push?_nonEmpty (f : Fragments) (o : Option String) :
    f.push? (Text.nonEmpty o) = f.push? o := by
  cases o with
  | none => rfl
  | some s =>
      by_cases hs : s = "" <;>
        simp [Text.nonEmpty, Option.filter, Fragments.push?, Fragments.push, hs]

@[simp] theorem keywordValue_doc (kv : KeywordValue) :
    (ρ.keywordValue kv).doc = kv.doc := by
  have hsymbol (f : Fragments) :
      f.push? (ρ.text kv.symbol) = f.push? kv.symbol := by
    rw [← push?_nonEmpty, ρ.nonEmpty_text, push?_nonEmpty]
  simp only [KeywordValue.doc, KeywordValue.fragments, keywordValue, ρ.toUpper_word,
    hsymbol]

@[simp] theorem charsetDoc_word? (o : Option String) :
    charsetDoc (ρ.word? o) = charsetDoc o := by
  rw [charsetDoc, nonEmpty_word?, charsetDoc]
  cases Text.nonEmpty o <;> simp

@[simp] theorem literal_doc (settings : Settings) (v : Literal) :
    (ρ.literal v).doc settings = v.doc settings := by
  cases v <;> simp [literal, Literal.doc]

@[simp] theorem option_doc (o : TableOption) :
    Layout.tableOption (ρ.option o) = Layout.tableOption o := by
  have hword : o.takesWord = true ↔
      (o.keyword.toUpper = "ENGINE" || o.keyword.toUpper = "ROW_FORMAT") =
        true := Iff.rfl
  simp only [Layout.tableOption, option, ρ.toUpper_word, requireText_word, doc_word,
    ← hword]
  split <;> simp

@[simp] theorem tableOptions_map (os : List TableOption) :
    Layout.tableOptions (os.map ρ.option) = Layout.tableOptions os := by
  simp [Layout.tableOptions, Function.comp_def]

/-- The separator and the collation of a call. -/
@[simp] theorem call_text (name : String) (args : Option (List Doc))
    (argsParentheses : Bool) (separator : Option String) (parentheses : Bool)
    (window : Doc) (collate : Option KeywordValue) (suffix : Doc) :
    Layout.call name args argsParentheses (ρ.text separator) parentheses window
        (collate.map ρ.keywordValue) suffix =
      Layout.call name args argsParentheses separator parentheses window collate
        suffix := by
  simp [Layout.call, ρ.nonEmpty_text, Function.comp_def]

/-! ## Types -/

@[simp] theorem typeName_dataType (t : DataType) :
    Layout.typeName (ρ.dataType t) = Layout.typeName t := by
  rcases t with ⟨name, length, scale, parentheses, _ | mark, suffix, array,
    values⟩ <;>
    simp [Layout.typeName, dataType]

@[simp] theorem requireText_dataType (t : DataType) (node field : String) :
    Doc.requireText (ρ.dataType t).name node field =
      Doc.requireText t.name node field := by
  rcases t with ⟨name, length, scale, parentheses, _ | mark, suffix, array,
    values⟩ <;>
    simp [dataType]

@[simp] theorem castType_dataType (t : DataType) :
    Layout.castType (ρ.dataType t) = Layout.castType t := by
  rw [Layout.castType, typeName_dataType, Layout.castType]
  cases t
  simp [dataType, Layout.typeArray, Layout.castSize, words_map]

@[simp] theorem dataType_dataType (t : DataType) (values : List Doc) :
    Layout.dataType (ρ.dataType t) values = Layout.dataType t values := by
  simp only [Layout.dataType, typeName_dataType, requireText_dataType]
  cases t
  simp [dataType, Layout.typeArray, words_map]

@[simp] theorem cast_cast (subject tail : Doc) (target : DataType) (form : CastForm)
    (keyword rename : Option String) (collate : Option KeywordValue) :
    Layout.cast subject (ρ.dataType target) form (ρ.word? keyword) tail
      (ρ.text rename)
        (collate.map ρ.keywordValue) =
      Layout.cast subject target form keyword tail rename collate := by
  simp [Layout.cast, Function.comp_def]

end Retouch

end SqlPrinter
