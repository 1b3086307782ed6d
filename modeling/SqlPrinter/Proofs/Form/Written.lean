/-
The written forms of single parts.  The functions that write a statement follow
its recursion, with one function for each kind of list and for each part that may
be missing; here every one of them is an instance of writing item by item, or of
writing what is there.
-/
import SqlPrinter.Form.QueryWriter

namespace SqlPrinter

open Form

/-! ## The parts of expressions -/

def OrderItem.toJson (k : OrderItem) : Json :=
  .object
    [("expr", Write.expr k.key), ("dir", .optional Direction.toJson k.direction),
      ("nulls", .optional NullsOrder.toJson k.nulls)]

def CastTail.toJson (tail : CastTail) : Json :=
  .object [("operator", .string tail.operator), ("expr", Write.expr tail.operand)]

def AnyValueHaving.toJson (having : AnyValueHaving) : Json :=
  .object [("prefix", .string having.bound), ("expr", Write.expr having.subject)]

def WindowFrame.toJson (frame : WindowFrame) : Json :=
  .object
    [("units", .string frame.units.word), ("start", Write.frameBound frame.first),
      ("end", .optional Write.frameBound frame.last)]

def Over.toJson : Over → Json
  | named name => .tagged "named" [("name", .string name)]
  | spec window => .tagged "spec" (Write.windowSpec window)

/-! ## The parts of queries -/

def SelectItem.toJson : SelectItem → Json
  | star => .tagged "star" []
  | qualifiedStar table => .tagged "qualified_star" [("table", .string table)]
  | expr value rename =>
      .tagged "expr" [("expr", Write.expr value),
        ("alias", .optional .string rename)]

def rowsJson (rows : List (List Expr)) : Json :=
  .array (rows.map fun row => .array (row.map Write.expr))

def GroupModifier.toJson : GroupModifier → Json
  | rollup => .tagged "rollup" []
  | cube => .tagged "cube" []
  | groupingSets sets => .tagged "grouping_sets" [("sets", rowsJson sets)]

def SelectInto.toJson (into : SelectInto) : Json :=
  .object [("position", .string into.position.word),
    ("target", Write.intoTarget into.target)]

def Join.toJson (join : Join) : Json :=
  .object
    [("kind", .string join.kind.word), ("table", Write.tableRef join.table),
      ("on", .optional Write.expr join.condition),
      ("using", .optional .strings join.columns)]

def NamedWindow.toJson (window : NamedWindow) : Json :=
  .object
    [("name", .string window.name),
      ("spec", .object (Write.windowSpec window.window))]

def Cte.toJson (cte : Cte) : Json :=
  .object
    [("name", .string cte.name), ("columns", .strings cte.columns),
      ("materialized", .optional Materialization.toJson cte.materialized),
      ("query", cte.query.toJson)]

def With.toJson (ctes : With) : Json :=
  .object
    [("recursive", .bool ctes.recursive),
      ("ctes", .array (ctes.tables.map Cte.toJson))]

/-! ## Writing what is there, item by item -/

namespace Form.Write

theorem eq_map {α : Type} {write : α → Json} {writeAll : List α → List Json}
    (nil : writeAll [] = [])
    (cons : ∀ a as, writeAll (a :: as) = write a :: writeAll as) (as : List α) :
    writeAll as = as.map write := by
  induction as with
  | nil => exact nil
  | cons a as ih => rw [cons, ih, List.map_cons]

theorem eq_optional {α : Type} {write : α → Json} {write? : Option α → Json}
    (none : write? .none = .null) (some : ∀ a, write? (.some a) = write a)
    (a? : Option α) : write? a? = .optional write a? := by
  cases a? with
  | none => exact none
  | some a => exact some a

theorem exprs_eq (es : List Expr) : exprs es = es.map expr :=
  eq_map rfl (fun _ _ => rfl) es

theorem expr?_eq (e : Option Expr) : expr? e = .optional expr e :=
  eq_optional rfl (fun _ => rfl) e

theorem exprs?_eq (es : Option (List Expr)) :
    exprs? es = .optional (fun es => .array (es.map expr)) es :=
  eq_optional rfl (fun es => congrArg Json.array (exprs_eq es)) es

theorem rows_eq (rs : List (List Expr)) : .array (rows rs) = rowsJson rs := by
  refine congrArg Json.array (eq_map rfl (fun row rest => ?_) rs)
  rw [rows, exprs_eq]

theorem caseBranches_eq (bs : List (Expr × Expr)) :
    caseBranches bs = bs.map fun b => .array [expr b.1, expr b.2] :=
  eq_map rfl (fun _ _ => rfl) bs

theorem castTail?_eq (tail : Option CastTail) :
    castTail? tail = .optional CastTail.toJson tail :=
  eq_optional rfl (fun tail => by cases tail; rfl) tail

theorem anyValueHaving?_eq (having : Option AnyValueHaving) :
    anyValueHaving? having = .optional AnyValueHaving.toJson having :=
  eq_optional rfl (fun having => by cases having; rfl) having

theorem over?_eq (window : Option Over) :
    over? window = .optional Over.toJson window :=
  eq_optional rfl (fun window => by cases window <;> rfl) window

theorem windowFrame?_eq (frame : Option WindowFrame) :
    windowFrame? frame = .optional WindowFrame.toJson frame :=
  eq_optional rfl (fun frame => by rcases frame with ⟨_, _, _ | _⟩ <;> rfl) frame

theorem orderItems_eq (ks : List OrderItem) :
    orderItems ks = ks.map OrderItem.toJson :=
  eq_map rfl (fun k _ => by cases k; rfl) ks

theorem selectItems_eq (is : List SelectItem) :
    selectItems is = is.map SelectItem.toJson :=
  eq_map rfl (fun i _ => by cases i <;> rfl) is

theorem groupModifierList_eq (ms : List GroupModifier) :
    groupModifierList ms = ms.map GroupModifier.toJson := by
  refine eq_map rfl (fun m rest => ?_) ms
  cases m with
  | groupingSets sets => rw [groupModifierList, rows_eq, GroupModifier.toJson]
  | rollup | cube => rfl

theorem into?_eq (into : Option SelectInto) :
    into? into = .optional SelectInto.toJson into :=
  eq_optional rfl (fun into => by cases into; rfl) into

theorem tableRefs_eq (ts : List TableRef) : tableRefs ts = ts.map tableRef :=
  eq_map rfl (fun _ _ => rfl) ts

theorem joinList_eq (js : List Join) : joinList js = js.map Join.toJson := by
  refine eq_map rfl (fun j rest => ?_) js
  obtain ⟨kind, table, condition, columns⟩ := j
  rw [joinList, expr?_eq, Join.toJson]

theorem namedWindows_eq (ws : List NamedWindow) :
    namedWindows ws = ws.map NamedWindow.toJson :=
  eq_map rfl (fun w _ => by cases w; rfl) ws

theorem cteList_eq (cs : List Cte) : cteList cs = cs.map Cte.toJson :=
  eq_map rfl (fun c _ => by cases c; rfl) cs

theorem with?_eq (ctes : Option With) :
    with? ctes = .optional With.toJson ctes := by
  refine eq_optional rfl (fun ctes => ?_) ctes
  obtain ⟨recursive, tables⟩ := ctes
  rw [with?, cteList_eq, With.toJson]

end Form.Write

end SqlPrinter
