/-
The parts of a statement as one type of nodes, with the parts directly below a
node and the texts that stand in it.  A property of a whole statement can then
be said of every node within it, and proved by one induction over nodes.
-/
import SqlPrinter.Ast.Statement

namespace SqlPrinter

/-- A part of a statement that may have parts of its own. -/
inductive Node where
  | expr (e : Expr)
  | call (c : FunctionCall)
  | aggregate (a : Aggregate)
  | dataType (t : DataType)
  | cast (c : Cast)
  | extract (x : Extract)
  | anyValue (a : AnyValue)
  | window (w : WindowSpec)
  | bound (b : FrameBound)
  | sortKey (k : OrderItem)
  | query (q : Query)
  | body (b : QueryBody)
  | select (s : Select)
  | item (i : SelectItem)
  | modifier (m : GroupModifier)
  | table (t : TableRef)
  | join (j : Join)
  | cte (c : Cte)
  | assignment (a : Assignment)
  | columnDef (c : ColumnDef)
  | constraint (c : TableConstraint)
  | index (i : IndexDef)
  | statement (s : Statement)

namespace Node

/-! ## The parts of a node -/

/-- The nodes of expressions. -/
def exprs (es : List Expr) : List Node :=
  es.map expr

/-- The node of an expression that may be missing. -/
def expr? (e : Option Expr) : List Node :=
  exprs e.toList

/-- The nodes of the branches of a CASE. -/
def branches (bs : List (Expr × Expr)) : List Node :=
  bs.flatMap fun b => [expr b.1, expr b.2]

/-- The node of a window that is spelled out. -/
def over? : Option Over → List Node
  | some (.spec w) => [window w]
  | some (.named _) | none => []

/-- The nodes of the ends of a window frame. -/
def frame? : Option WindowFrame → List Node
  | none => []
  | some { first, last, .. } => bound first :: last.toList.map bound

/-- The nodes of common table expressions. -/
def with? : Option With → List Node
  | none => []
  | some { tables, .. } => tables.map cte

/-- The nodes of the variables that the rows of a query go to. -/
def into? : Option SelectInto → List Node
  | some { target := .vars vars, .. } => exprs vars
  | some _ | none => []

/-- The parts of an expression. -/
def ofExpr : Expr → List Node
  | .column _ | .star _ | .keyword _ | .literal _ | .parameter _ | .var _ _ => []
  | .binary left _ right => [expr left, expr right]
  | .unary _ operand => [expr operand]
  | .between subject _ low high => [expr subject, expr low, expr high]
  | .paren inner => [expr inner]
  | .list items => exprs items
  | .function c => [call c]
  | .aggregate a => [aggregate a]
  | .cast c => [cast c]
  | .extract x => [extract x]
  | .anyValue a => [anyValue a]
  | .case operand bs otherwise => expr? operand ++ branches bs ++ expr? otherwise
  | .subquery q => [query q]
  | .collate subject _ => [expr subject]
  | .fullText _ against _ => [expr against]
  | .interval amount _ => [expr amount]

/-- The parts of a SELECT. -/
def ofSelect (s : Select) : List Node :=
  exprs s.distinctOn ++ s.items.map item ++ into? s.into ++ s.tables.map table ++
    s.joins.map join ++ expr? s.condition ++ exprs s.groupBy ++
    s.groupModifiers.map modifier ++ expr? s.having ++
    s.windows.map (window ·.window) ++ s.orderBy.map sortKey ++ expr? s.limit ++
    expr? s.offset

/-- The parts of the source of the rows of an INSERT. -/
def ofSource : RowSource → List Node
  | .values rows => exprs rows.flatten
  | .query q => [query q]
  | .assignments as => as.map assignment

/-- The parts of a conflict clause. -/
def conflict? : Option ConflictClause → List Node
  | some { action := some (.doUpdate as condition), .. } =>
      as.map assignment ++ expr? condition
  | some _ | none => []

/-- The part that an entry of a table definition is. -/
def ofElement : TableElement → Node
  | .column c => columnDef c
  | .constraint c => constraint c
  | .index i => index i

/-- The parts of an action of `ALTER TABLE`. -/
def ofAction : AlterAction → List Node
  | .addColumn _ c | .modifyColumn _ c | .changeColumn _ _ c => [columnDef c]
  | .addConstraint c => [constraint c]
  | .addIndex i => [index i]
  | .dropColumn _ _ | .renameColumn _ _ | .dropIndex _ | .dropPrimaryKey
  | .renameTable _
  | .setOption _ => []

/-- The parts of a statement. -/
def ofStatement : Statement → List Node
  | .query q => [query q]
  | .insert i =>
      table i.table :: (ofSource i.source ++ conflict? i.conflict ++
        i.returning.map item)
  | .update u =>
      with? u.ctes ++ table u.table ::
        (u.joins.map join ++ u.assignments.map assignment ++
        u.tables.map table ++ expr? u.condition ++ u.orderBy.map sortKey ++
        expr? u.limit ++ u.returning.map item)
  | .delete d =>
      with? d.ctes ++ d.tables.map table ++ d.joins.map join ++
        d.usingTables.map table ++ expr? d.condition ++ d.orderBy.map sortKey ++
        expr? d.limit ++ d.returning.map item
  | .createTable t => t.elements.map ofElement ++ t.query.toList.map query
  | .createView v => [query v.query]
  | .alterTable t => t.actions.flatMap ofAction
  | .attach a => [expr a.file]
  | .createDatabase _ | .createIndex _ | .drop _ | .list _ | .analyze _ => []

/-- The parts directly below a node.  The members of the type in a cast are no
part of it: they are never printed. -/
@[simp] def children : Node → List Node
  | expr e => ofExpr e
  | call c => exprs (c.args.getD []) ++ expr? c.suffix ++ over? c.window
  | aggregate a =>
      exprs a.args ++ a.orderBy.map sortKey ++ expr? a.separator ++
        expr? a.filter ++ over? a.window
  | dataType t => exprs t.values
  | cast c => expr c.subject :: exprs (c.tail.toList.map (·.operand))
  | extract x => [expr x.source]
  | anyValue a =>
      expr a.subject :: (exprs (a.having.toList.map (·.subject)) ++ over? a.window)
  | window w => exprs w.partitionBy ++ w.orderBy.map sortKey ++ frame? w.frame
  | bound (.preceding e) | bound (.following e) => [expr e]
  | bound .unboundedPreceding | bound .currentRow | bound .unboundedFollowing => []
  | sortKey k => [expr k.key]
  | query q =>
      with? q.ctes ++ body q.body :: (q.orderBy.map sortKey ++ expr? q.limit ++
        expr? q.offset)
  | body (.select s) => [select s]
  | body (.combine left _ right) => [body left, body right]
  | select s => ofSelect s
  | item (.expr e _) => [expr e]
  | item .star | item (.qualifiedStar _) => []
  | modifier (.groupingSets sets) => exprs sets.flatten
  | modifier .rollup | modifier .cube => []
  | table (.named _ _ _) => []
  | table (.subquery q _) => [query q]
  | table (.function c _) => [call c]
  | table (.values rows _ _) => exprs rows.flatten
  | table (.paren t) => [table t]
  | join j => table j.table :: expr? j.condition
  | cte c => [query c.query]
  | assignment a => [expr a.value]
  | columnDef c =>
      c.dataType.toList.map dataType ++ expr? c.options.default ++
        expr? c.options.onUpdate ++ expr? c.options.check
  | constraint (.check _ e) => [expr e]
  | constraint (.primaryKey _ _ _) | constraint (.unique _ _ _ _ _)
  | constraint (.foreignKey _ _ _) | index _ => []
  | statement s => ofStatement s

/-- The node `m` stands somewhere in the node `n`, which may be `n` itself. -/
inductive Within (m : Node) : Node → Prop where
  | here : Within m m
  | step {n k : Node} (hk : k ∈ n.children) (hm : Within m k) : Within m n

/-- What stands within a node stands within whatever the node stands in. -/
theorem Within.trans {k m n : Node} (hkm : Within k m) (hmn : Within m n) :
    Within k n := by
  induction hmn with
  | here => exact hkm
  | step hk hm ih => exact .step hk ih

theorem exists_mem_flatMap {α β : Type} {g : α → List β} {P : β → Prop}
    {as : List α} : (∃ b ∈ as.flatMap g, P b) ↔ ∃ a ∈ as, ∃ b ∈ g a, P b := by
  constructor
  · rintro ⟨b, hb, hP⟩
    obtain ⟨a, ha, hb⟩ := List.mem_flatMap.1 hb
    exact ⟨a, ha, b, hb, hP⟩
  · rintro ⟨a, ha, b, hb, hP⟩
    exact ⟨b, List.mem_flatMap.2 ⟨a, ha, hb⟩, hP⟩

/-- The node `m` stands somewhere in one of some nodes. -/
def WithinSome (m : Node) (ns : List Node) : Prop :=
  ∃ n ∈ ns, Within m n

@[simp] theorem withinSome_nil (m : Node) : ¬ m.WithinSome [] := by
  simp [WithinSome]

@[simp] theorem withinSome_cons (m n : Node) (ns : List Node) :
    m.WithinSome (n :: ns) ↔ Within m n ∨ m.WithinSome ns := by
  simp [WithinSome]

/-- A closed node can be searched by this, from the root to the leaves. -/
theorem within_iff {m n : Node} : Within m n ↔ m = n ∨ m.WithinSome n.children := by
  constructor
  · rintro (_ | ⟨hk, hm⟩)
    · exact Or.inl rfl
    · exact Or.inr ⟨_, hk, hm⟩
  · rintro (rfl | ⟨k, hk, hm⟩)
    · exact .here
    · exact .step hk hm

/-! ## The texts in a node -/

/-- A text of a statement, with the use that is made of it. -/
inductive Leaf where
  /-- It is printed as it stands, or in upper case. -/
  | verbatim (s : String)
  /-- It is quoted as an identifier. -/
  | name (s : String)
  /-- It is quoted as a string. -/
  | string (s : String)
  /-- It is the mark around the name of a type. -/
  | mark (s : String)

/-- The texts of a list are names. -/
def names (ss : List String) : List Leaf :=
  ss.map .name

/-- The texts of a list are printed as they stand. -/
def verbatims (ss : List String) : List Leaf :=
  ss.map .verbatim

/-- The names of a path to a column. -/
def columnLeaves (ref : ColumnRef) : List Leaf :=
  names (ref.schema.toList ++ ref.table.toList ++ [ref.column])

/-- The names of a path to an object. -/
def objectLeaves (object : ObjectName) : List Leaf :=
  names (object.schema.toList ++ [object.name])

/-- The texts of a keyword and its value. -/
def keywordLeaves (kv : KeywordValue) : List Leaf :=
  verbatims (kv.keyword :: (kv.symbol.toList ++ [kv.value]))

/-- The texts of a keyword and its value that may be missing. -/
def keywordLeaves? (kv : Option KeywordValue) : List Leaf :=
  kv.toList.flatMap keywordLeaves

/-- The texts of a constant. -/
def literalLeaves : Literal → List Leaf
  | .string value charset => verbatims charset.toList ++ [.string value]
  | .national value => [.string value]
  | .hex digits _ charset | .bit digits _ charset =>
      verbatims (charset.toList ++ [digits])
  | .number digits => [.verbatim digits]
  | .bool _ | .null => []
  | .typed kind value => [.verbatim kind, .string value]

/-- The text of a parameter. -/
def parameterLeaves : Parameter → List Leaf
  | .named s => [.verbatim s]
  | .question | .dollar _ | .bind => []

/-- The text of a window that is named. -/
def overLeaves : Option Over → List Leaf
  | some (.named s) => [.verbatim s]
  | some (.spec _) | none => []

/-- The texts of a type. -/
def typeLeaves (t : DataType) : List Leaf :=
  verbatims (t.name :: t.suffix) ++ t.quoted.toList.map .mark

/-- The texts of an INTO clause. -/
def intoLeaves : Option SelectInto → List Leaf
  | some { target := .outfile file charset, .. } =>
      .string file :: verbatims charset.toList
  | some { target := .dumpfile file, .. } => [.string file]
  | some { target := .table s, .. } => [.name s]
  | some { target := .vars _, .. } | none => []

/-- The names of a row lock. -/
def lockLeaves (lock : Option Locking) : List Leaf :=
  names (lock.toList.flatMap (·.tables))

/-- The names of a conflict clause. -/
def conflictLeaves (clause : Option ConflictClause) : List Leaf :=
  names (clause.toList.flatMap fun c => c.columns ++ c.constraint.toList)

/-- The names of a reference to another table. -/
def referenceLeaves (r : Reference) : List Leaf :=
  objectLeaves r.table ++ names r.columns

/-- The names of the columns of an index. -/
def indexLeaves (columns : List IndexColumn) : List Leaf :=
  names (columns.map (·.column))

/-- The texts of options of a table or a database. -/
def optionLeaves (options : List TableOption) : List Leaf :=
  options.flatMap fun o => verbatims [o.keyword, o.value]

/-- The texts of the attributes of a column. -/
def attributeLeaves (o : ColumnOptions) : List Leaf :=
  o.comment.toList.map .string ++
    verbatims (o.characterSet.toList ++ o.collate.toList) ++
    o.references.toList.flatMap referenceLeaves

/-- The texts that stand in an expression itself. -/
def exprLeaves : Expr → List Leaf
  | .column ref => columnLeaves ref
  | .star s => names s.toList
  | .keyword word => [.verbatim word]
  | .literal value => literalLeaves value
  | .parameter param => parameterLeaves param
  | .var sigil name => verbatims [sigil, name]
  | .binary _ (.other spelling) _ => [.verbatim spelling]
  | .collate _ kv => keywordLeaves kv
  | .fullText columns _ mode =>
      columns.flatMap columnLeaves ++ verbatims mode.toList
  | .interval _ unit => [.verbatim unit]
  | .binary _ (.standard _) _ | .unary _ _ | .between _ _ _ _ | .paren _ | .list _
  | .function _ | .aggregate _ | .cast _ | .extract _ | .anyValue _ | .case _ _ _
  | .subquery _ => []

/-- The texts that stand in a constraint itself. -/
def constraintLeaves : TableConstraint → List Leaf
  | .primaryKey s columns _ => names s.toList ++ indexLeaves columns
  | .unique s _ name columns _ =>
      names (s.toList ++ name.toList) ++ indexLeaves columns
  | .foreignKey s columns references =>
      names (s.toList ++ columns) ++ referenceLeaves references
  | .check s _ => names s.toList

/-- The texts that stand in an action of `ALTER TABLE` itself. -/
def actionLeaves : AlterAction → List Leaf
  | .dropColumn _ s | .changeColumn _ s _ | .dropIndex s => [.name s]
  | .renameColumn old new => names [old, new]
  | .renameTable object => objectLeaves object
  | .setOption o => optionLeaves [o]
  | .addColumn _ _ | .modifyColumn _ _ | .addConstraint _ | .addIndex _
  | .dropPrimaryKey => []

/-- The names in what a SHOW lists. -/
def showLeaves : Show → List Leaf
  | .tables s => names s.toList
  | .databases => []
  | .columns o | .index o | .create _ o => objectLeaves o

/-- The texts that stand in a statement itself. -/
def statementLeaves : Statement → List Leaf
  | .query _ | .update _ => []
  | .insert i => names i.columns ++ conflictLeaves i.conflict
  | .delete d => names d.targets
  | .createTable t =>
      objectLeaves t.name ++ optionLeaves t.options ++
        t.like.toList.flatMap objectLeaves
  | .createDatabase d => .name d.name :: optionLeaves d.options
  | .createView v => objectLeaves v.name ++ names v.columns
  | .createIndex i =>
      .name i.name :: (objectLeaves i.table ++ indexLeaves i.columns)
  | .alterTable t => objectLeaves t.name ++ t.actions.flatMap actionLeaves
  | .drop d => d.names.flatMap objectLeaves ++ d.table.toList.flatMap objectLeaves
  | .list target => showLeaves target
  | .analyze a => a.names.flatMap objectLeaves
  | .attach a => [.name a.schema]

/-- The texts that stand in a node itself and not in a part of it. -/
@[simp] def leaves : Node → List Leaf
  | expr e => exprLeaves e
  | call c =>
      verbatims (c.name :: c.separator.toList) ++ overLeaves c.window ++
        keywordLeaves? c.collate
  | aggregate a => .verbatim a.name :: overLeaves a.window
  | dataType t => typeLeaves t
  | cast c =>
      typeLeaves c.target ++
        verbatims (c.keyword.getD "" :: c.tail.toList.map (·.operator)) ++
        names c.rename.toList ++ keywordLeaves? c.collate
  | extract x => verbatims (x.name :: x.field :: x.castType.toList)
  | anyValue a =>
      verbatims (a.name :: a.having.toList.map (·.bound)) ++ overLeaves a.window
  | window w => verbatims w.base.toList
  | select s =>
      verbatims (s.options ++ s.windows.map (·.name)) ++ intoLeaves s.into ++
        lockLeaves s.locking
  | item (.qualifiedStar s) => [.name s]
  | item (.expr _ rename) => names rename.toList
  | table (.named schema s rename) => names (schema.toList ++ s :: rename.toList)
  | table (.subquery _ rename) | table (.function _ rename)
  | table (.values _ _ rename) =>
      names rename.toList
  | join j => names (j.columns.getD [])
  | cte c => names (c.name :: c.columns)
  | assignment a => names (a.table.toList ++ [a.column])
  | columnDef c => .name c.name :: attributeLeaves c.options
  | constraint c => constraintLeaves c
  | index i => names i.name.toList ++ indexLeaves i.columns
  | statement s => statementLeaves s
  | bound _ | sortKey _ | query _ | body _ | item .star | modifier _
  | table (.paren _) => []

/-- Every text in a node, at any depth, is as a condition asks. -/
def Every (ok : Leaf → Prop) (n : Node) : Prop :=
  ∀ m, Within m n → ∀ l ∈ m.leaves, ok l

/-- What holds of all leaves of a node holds of its own. -/
theorem Every.leaf {ok : Leaf → Prop} {n : Node} (h : n.Every ok) {l : Leaf}
    (hl : l ∈ n.leaves) : ok l :=
  h n .here l hl

/-- What holds of all leaves of a node holds of those of its children. -/
theorem Every.child {ok : Leaf → Prop} {m n : Node} (h : n.Every ok)
    (hm : m ∈ n.children) : m.Every ok :=
  fun k hk => h k (hk.trans (.step hm .here))

/-- A condition on the texts of a node is one on its own texts and one on its
parts. -/
theorem every_iff {ok : Leaf → Prop} {n : Node} :
    n.Every ok ↔ (∀ l ∈ n.leaves, ok l) ∧ ∀ m ∈ n.children, m.Every ok := by
  constructor
  · intro h
    exact ⟨fun l hl => h.leaf hl, fun m hm => h.child hm⟩
  · rintro ⟨hleaves, hchildren⟩ m hm l hl
    cases hm with
    | here => exact hleaves l hl
    | step hk hm => exact hchildren _ hk m hm l hl

end Node

end SqlPrinter
