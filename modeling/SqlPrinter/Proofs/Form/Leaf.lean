/-
Every part that contains no expression is read back from its written form.
-/
import SqlPrinter.Form.Schema
import SqlPrinter.Proofs.Form.Reading

namespace SqlPrinter

open Form

variable {d : Nat}

theorem Dialect.reads (dialect : Dialect) :
    Dialect.read.Reads d dialect.toJson dialect :=
  .word (by cases dialect <;> rfl)

theorem ColumnRef.reads (ref : ColumnRef) : fields.Reads d ref.entries ref := by
  obtain ⟨schema, table, column⟩ := ref
  exact
    .seq (.required rfl .text) <|
    .seq (.optional rfl fun _ _ => .text) <|
    .map (.optional rfl fun _ _ => .text)

theorem ObjectName.reads (object : ObjectName) :
    read.Reads d object.toJson object := by
  obtain ⟨schema, name⟩ := object
  exact .record <|
    .seq (.required rfl .text) <|
    .map (.optional rfl fun _ _ => .text)

theorem KeywordValue.reads (kv : KeywordValue) : read.Reads d kv.toJson kv := by
  obtain ⟨keyword, symbol, value⟩ := kv
  exact .record <|
    .seq (.required rfl .text) <|
    .seq (.optional rfl fun _ _ => .text) <|
    .map (.required rfl .text)

/-- A literal is read back, a number by its text. -/
theorem Literal.reads (value : Literal) : read.Reads d value.toJson value := by
  cases value with
  | string value charset =>
      exact .tagged rfl <| .seq (.optional rfl fun _ _ => .text) <|
        .map (.required rfl .text)
  | national value => exact .tagged rfl <| .map (.required rfl .text)
  | hex digits form charset =>
      exact .tagged rfl <|
        .seq (.optional rfl fun _ _ => .text) <|
        .seq (.withDefault rfl (.word (by cases form <;> rfl))) <|
        .map (.required rfl .text)
  | bit digits form charset =>
      exact .tagged rfl <|
        .seq (.optional rfl fun _ _ => .text) <|
        .seq (.withDefault rfl (.word (by cases form <;> rfl))) <|
        .map (.required rfl .text)
  | number digits => exact .tagged rfl <| .map (.required rfl .text)
  | bool value => exact .tagged rfl <| .map (.required rfl .flag)
  | null => exact .tagged rfl .pure
  | typed kind value =>
      exact .tagged rfl <| .seq (.required rfl .text) <| .map (.required rfl .text)

theorem Parameter.reads (param : Parameter) : read.Reads d param.toJson param := by
  cases param with
  | question => exact .tagged rfl .pure
  | dollar index => exact .tagged rfl <| .map (.required rfl .count)
  | named name => exact .tagged rfl <| .map (.required rfl .text)
  | bind => exact .tagged rfl .pure

theorem UnaryOp.ofText?_text (op : UnaryOp) : ofText? op.text = some op := by
  cases op <;> decide +kernel

theorem UnaryOp.reads (op : UnaryOp) : read.Reads d op.toJson op where
  ne_null := nofun
  eq_ok _ _ := by
    simp only [read, toJson, Reader.text, bind, Except.bind, ofText?_text]

theorem Locking.reads (lock : Locking) : read.Reads d lock.toJson lock := by
  obtain ⟨mode, tables, wait⟩ := lock
  exact .record <|
    .seq (.optional rfl fun wait _ => .word (by cases wait <;> rfl)) <|
    .seq (.withDefault rfl .texts) <|
    .map (.required rfl (.word (by cases mode <;> rfl)))

/-! ## Parts of the statements about tables -/

/-- A reference is read back with its actions. -/
theorem Reference.reads (reference : Reference) :
    read.Reads d reference.toJson reference := by
  obtain ⟨table, columns, onDelete, onUpdate⟩ := reference
  exact .record <|
    .seq (.optional rfl fun action _ => .word (by cases action <;> rfl)) <|
    .seq (.optional rfl fun action _ => .word (by cases action <;> rfl)) <|
    .seq (.withDefault rfl .texts) <|
    .map (.required rfl table.reads)

theorem IndexColumn.reads (column : IndexColumn) :
    read.Reads d column.toJson column := by
  obtain ⟨column, length, order⟩ := column
  exact .record <|
    .seq (.optional rfl fun order _ => .word (by cases order <;> rfl)) <|
    .seq (.optional rfl fun _ _ => .count) <|
    .map (.required rfl .text)

/-- The definition of an index is read back. -/
theorem IndexDef.reads (index : IndexDef) : fields.Reads d index.entries index := by
  obtain ⟨kind, name, columns, method⟩ := index
  exact
    .seq (.optional rfl fun method _ => .word (by cases method <;> rfl)) <|
    .seq (.required rfl (.list fun column _ => column.reads)) <|
    .seq (.optional rfl fun _ _ => .text) <|
    .map (.required rfl (.word (by cases kind <;> rfl)))

theorem TableOption.reads (option : TableOption) :
    read.Reads d option.toJson option := by
  obtain ⟨keyword, value⟩ := option
  exact .record <| .seq (.required rfl .text) <| .map (.required rfl .text)

theorem CreateDatabase.reads (database : CreateDatabase) :
    fields.Reads d database.entries database := by
  obtain ⟨keyword, ifNotExists, name, options⟩ := database
  exact
    .seq (.withDefault rfl (.list fun option _ => option.reads)) <|
    .seq (.required rfl .text) <|
    .seq (.withDefault rfl .flag) <|
    .map (.withDefault rfl (.word (by cases keyword <;> rfl)))

theorem CreateIndex.reads (index : CreateIndex) :
    fields.Reads d index.entries index := by
  obtain ⟨unique, ifNotExists, name, table, columns, method⟩ := index
  exact
    .seq (.optional rfl fun method _ => .word (by cases method <;> rfl)) <|
    .seq (.required rfl (.list fun column _ => column.reads)) <|
    .seq (.required rfl table.reads) <|
    .seq (.required rfl .text) <|
    .seq (.withDefault rfl .flag) <|
    .map (.withDefault rfl .flag)

theorem Drop.reads (drop : Drop) : fields.Reads d drop.entries drop := by
  obtain ⟨kind, ifExists, names, table⟩ := drop
  exact
    .seq (.optional rfl fun table _ => table.reads) <|
    .seq (.required rfl (.list fun name _ => name.reads)) <|
    .seq (.withDefault rfl .flag) <|
    .map (.required rfl (.word (by cases kind <;> rfl)))

theorem Show.reads (target : Show) : fields.Reads d target.entries target := by
  refine .required (j := target.targetJson) rfl ?_
  cases target with
  | tables database => exact .tagged rfl <| .map (.optional rfl fun _ _ => .text)
  | databases => exact .tagged rfl .pure
  | columns table => exact .tagged rfl <| .map (.required rfl table.reads)
  | index table => exact .tagged rfl <| .map (.required rfl table.reads)
  | create kind name =>
      exact .tagged rfl <|
        .seq (.required rfl name.reads) <|
        .map (.required rfl (.word (by cases kind <;> rfl)))

theorem Analyze.reads (analyze : Analyze) :
    fields.Reads d analyze.entries analyze := by
  obtain ⟨tableKeyword, names⟩ := analyze
  exact
    .seq (.required rfl (.list fun name _ => name.reads)) <|
    .map (.withDefault rfl .flag)

end SqlPrinter
