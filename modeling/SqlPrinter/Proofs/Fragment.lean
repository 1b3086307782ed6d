/-
Expressions that are printed without ambiguity.  A fragment is an operation on
atoms, and what is not an atom stands in parentheses inside a larger one, so its
text can be read in one way only.
-/
import SqlPrinter.Proofs.Spelling
import SqlPrinter.Render

namespace SqlPrinter

/-- A name that is put in quotes: neither empty nor the star nor DUAL. -/
def Ident.IsProper (name : String) : Prop :=
  name ≠ "" ∧ isSpecial name = false

/-- A column all of whose names are proper; a schema comes with a table. -/
structure ColumnRef.IsProper (ref : ColumnRef) : Prop where
  schema : ∀ name ∈ ref.schema, Ident.IsProper name
  table : ∀ name ∈ ref.table, Ident.IsProper name
  column : Ident.IsProper ref.column
  table_of_schema : ref.schema.isSome → ref.table.isSome

/-- Every name is quoted, and none is brought to another letter case. -/
structure Settings.QuotesAll (settings : Settings) : Prop where
  quote : settings.quote = .always
  fold : settings.fold = none

theorem Ident.quote_of_isProper {settings : Settings}
    (hsettings : settings.QuotesAll) {name : String} (h : IsProper name) :
    quote settings name = Quoted.identifier settings.dialect name := by
  simp [quote, h.2, folded, hsettings.fold, hsettings.quote, staysBare]

namespace UnaryOp

/-- The characters before the operand. -/
def lead (op : UnaryOp) : List Char :=
  op.text.toList ++ if op.isWord then [' '] else []

/-- The first of them. -/
def first : UnaryOp → Char
  | not => 'N'
  | neg => '-'
  | plus => '+'
  | bitNot => '~'
  | bang => '!'
  | binary => 'B'
  | existential => 'E'

theorem head?_lead (op : UnaryOp) : op.lead.head? = some op.first := by
  cases op <;> rfl

theorem first_injective : Function.Injective first := by
  intro op op' h
  cases op <;> cases op' <;> first | rfl | exact absurd h (by decide)

end UnaryOp

namespace ColumnRef

/-- The names of the path from left to right. -/
def names (ref : ColumnRef) : List String :=
  ref.schema.toList ++ ref.table.toList ++ [ref.column]

theorem IsProper.isProper_of_mem_names {ref : ColumnRef} (h : ref.IsProper) :
    ∀ name ∈ ref.names, Ident.IsProper name := by
  intro name hname
  simp only [names, List.mem_append, Option.mem_toList, List.mem_singleton] at hname
  obtain (hname | hname) | rfl := hname
  · exact h.schema name hname
  · exact h.table name hname
  · exact h.column

/-- As a schema comes with a table, the number of names tells what
each of them is. -/
theorem IsProper.names_inj {ref ref' : ColumnRef} (h : ref.IsProper)
    (h' : ref'.IsProper) (heq : ref.names = ref'.names) : ref = ref' := by
  obtain ⟨schema, table, column⟩ := ref
  obtain ⟨schema', table', column'⟩ := ref'
  have hschema := h.table_of_schema
  have hschema' := h'.table_of_schema
  cases schema <;> cases table <;> cases schema' <;> cases table' <;>
    simp_all [names]

/-- A proper column is printed as the path of its names. -/
theorem IsProper.doc_eq {ref : ColumnRef} (h : ref.IsProper) :
    ref.doc = .empty ++ .path ref.names := by
  have hgiven {o : Option String} (ho : ∀ name ∈ o, Ident.IsProper name) :
      Text.nonEmpty o = o := by
    cases o with
    | none => rfl
    | some name => exact Option.filter_some_pos (decide_eq_true (ho name rfl).1)
  rw [doc, Doc.requireText, decide_eq_true h.column.1, Doc.require_true,
    hgiven h.schema, hgiven h.table, names]

end ColumnRef

namespace Expr

mutual

/-- An expression that shows where it ends. -/
inductive IsAtom : Expr → Prop
  | column {ref : ColumnRef} (h : ref.IsProper) : IsAtom (.column ref)
  | string (value : String) : IsAtom (.literal (.string value none))
  | bool (value : Bool) : IsAtom (.literal (.bool value))
  | null : IsAtom (.literal .null)
  | question : IsAtom (.parameter .question)
  | dollar (index : UInt64) : IsAtom (.parameter (.dollar index))
  | paren {inner : Expr} (h : IsFragment inner) : IsAtom (.paren inner)
  | list {items : List Expr} (h : ∀ e ∈ items, IsFragment e)
      (hlength : items.length ≠ 1) :
      IsAtom (.list items)

/-- An atom, or one operation whose operands are atoms. -/
inductive IsFragment : Expr → Prop
  | atom {e : Expr} (h : IsAtom e) : IsFragment e
  | unary (op : UnaryOp) {operand : Expr} (h : IsAtom operand) :
      IsFragment (.unary op operand)
  | binary {left right : Expr} (op : StandardOp) (hleft : IsAtom left)
      (hright : IsAtom right) :
      IsFragment (.binary left (.standard op) right)
  | between {subject low high : Expr} (negated : Bool) (hsubject : IsAtom subject)
      (hlow : IsAtom low) (hhigh : IsAtom high) :
      IsFragment (.between subject negated low high)

end

/-- The characters of an expression without calls and bound parameters. -/
def chars (settings : Settings) (e : Expr) : List Char :=
  (Layout.expr settings e).chars settings

/-- What stands in the parentheses of an atom. -/
def members : Expr → List Expr
  | paren inner => [inner]
  | list items => items
  | _ => []

variable {settings : Settings} {e : Expr}

theorem exprs_eq_map (es : List Expr) :
    Layout.exprs settings es = es.map (Layout.expr settings) := by
  induction es with
  | nil => rfl
  | cons e es ih => rw [Layout.exprs, ih, List.map_cons]

theorem chars_string (value : String) :
    chars settings (.literal (.string value none)) = (Quoted.string value).toList :=
  rfl

theorem chars_null : chars settings (.literal .null) = "NULL".toList :=
  rfl

theorem chars_dollar (index : UInt64) :
    chars settings (.parameter (.dollar index)) =
      '$' :: (toString index.toNat).toList := by
  simp [chars, Layout.expr, Parameter.doc]

theorem chars_unary (op : UnaryOp) (operand : Expr) :
    chars settings (.unary op operand) = op.lead ++ chars settings operand := by
  cases op <;> rfl

theorem chars_column (hsettings : settings.QuotesAll) {ref : ColumnRef}
    (h : ref.IsProper) : chars settings (.column ref) =
      Text.joined ['.'] (fun name =>
        (Quoted.identifier settings.dialect name).toList) ref.names := by
  rw [chars, Layout.expr, h.doc_eq, Doc.chars_append, Doc.path, Doc.chars_sepBy]
  exact Text.joined_congr fun name hname => by
    rw [Doc.chars_name,
      Ident.quote_of_isProper hsettings (h.isProper_of_mem_names name hname)]

/-! ## Operations by their operands -/

/-- What stands first in a fragment that has no operator in front. -/
def operand : Expr → Expr
  | binary left _ _ => left
  | between subject _ _ _ => subject
  | e => e

/-- The operators that follow, each with the operand after it. -/
def links : Expr → List (String × Expr)
  | binary _ op right => [(op.text, right)]
  | between _ negated low high =>
      [(if negated then "NOT BETWEEN" else "BETWEEN", low), ("AND", high)]
  | _ => []

/-- The characters of an operator and the operand after it. -/
def linkChars (settings : Settings) (link : String × Expr) : List Char :=
  ' ' :: (link.1.toList ++ ' ' :: chars settings link.2)

theorem IsAtom.operand_eq (h : e.IsAtom) : e.operand = e := by
  cases h <;> rfl

theorem IsAtom.links_eq (h : e.IsAtom) : e.links = [] := by
  cases h <;> rfl

theorem chars_eq_links (h : e.IsFragment) :
    chars settings e = chars settings e.operand ++
      e.links.flatMap (linkChars settings) := by
  cases h with
  | atom h => rw [h.operand_eq, h.links_eq, List.flatMap_nil, List.append_nil]
  | unary op h => simp [operand, links]
  | binary op hleft hright =>
      simp [chars, Layout.expr, operand, links, linkChars, BinaryOp.isPrintable,
        BinaryOp.doc, BinaryOp.text]
  | between negated hsubject hlow hhigh =>
      cases negated <;> simp [chars, Layout.expr, operand, links, linkChars]

theorem IsFragment.unary_or_operand (h : e.IsFragment) :
    (∃ op, ∃ a : Expr, a.IsAtom ∧ e = .unary op a) ∨ e.operand.IsAtom := by
  cases h with
  | atom h => exact .inr (h.operand_eq.symm ▸ h)
  | unary op h => exact .inl ⟨op, _, h, rfl⟩
  | binary op hleft hright => exact .inr hleft
  | between negated hsubject hlow hhigh => exact .inr hsubject

/-- The atoms that a fragment is made of. -/
def atoms : Expr → List Expr
  | unary _ operand => [operand]
  | binary left _ right => [left, right]
  | between subject _ low high => [subject, low, high]
  | e => [e]

theorem IsAtom.atoms_eq (h : e.IsAtom) : e.atoms = [e] := by
  cases h <;> rfl

mutual

/-- What holds of a group if it holds of its members, and of a fragment if it holds
of its atoms, holds of every atom. -/
theorem IsAtom.induct {A F : Expr → Prop}
    (hatom : ∀ e, e.IsAtom → (∀ m ∈ e.members, F m) → A e)
    (hfragment : ∀ e, e.IsFragment → (∀ a ∈ e.atoms, A a) → F e) :
    ∀ {e : Expr}, e.IsAtom → A e
  | _, .column h => hatom _ (.column h) nofun
  | _, .string value => hatom _ (.string value) nofun
  | _, .bool value => hatom _ (.bool value) nofun
  | _, .null => hatom _ .null nofun
  | _, .question => hatom _ .question nofun
  | _, .dollar index => hatom _ (.dollar index) nofun
  | _, .paren h =>
      hatom _ (.paren h) (List.forall_mem_singleton.2 (h.induct hatom hfragment))
  | _, .list h hlength =>
      hatom _ (.list h hlength) fun m hm => (h m hm).induct hatom hfragment

/-- The same of every fragment. -/
theorem IsFragment.induct {A F : Expr → Prop}
    (hatom : ∀ e, e.IsAtom → (∀ m ∈ e.members, F m) → A e)
    (hfragment : ∀ e, e.IsFragment → (∀ a ∈ e.atoms, A a) → F e) :
    ∀ {e : Expr}, e.IsFragment → F e
  | _, .atom h =>
      hfragment _ (.atom h)
        (h.atoms_eq ▸ List.forall_mem_singleton.2 (h.induct hatom hfragment))
  | _, .unary op h =>
      hfragment _ (.unary op h)
        (List.forall_mem_singleton.2 (h.induct hatom hfragment))
  | _, .binary op hleft hright =>
      hfragment _ (.binary op hleft hright)
        (List.forall_mem_cons.2 ⟨hleft.induct hatom hfragment,
          List.forall_mem_singleton.2 (hright.induct hatom hfragment)⟩)
  | _, .between negated hsubject hlow hhigh =>
      hfragment _ (.between negated hsubject hlow hhigh)
        (List.forall_mem_cons.2 ⟨hsubject.induct hatom hfragment,
          List.forall_mem_cons.2 ⟨hlow.induct hatom hfragment,
            List.forall_mem_singleton.2 (hhigh.induct hatom hfragment)⟩⟩)

end

/-- A fragment is printed after anything and in every placeholder style. -/
theorem IsFragment.isFixed (h : e.IsFragment) :
    (Layout.expr settings e).IsFixed := by
  refine h.induct (A := fun e => (Layout.expr settings e).IsFixed)
    (F := fun e => (Layout.expr settings e).IsFixed) ?_ ?_
  · intro e he hmembers
    cases he with
    | column h =>
        rw [Layout.expr, h.doc_eq, Doc.isFixed_append]
        refine ⟨trivial, Doc.isFixed_sepBy fun d hd => ?_⟩
        obtain ⟨name, -, rfl⟩ := List.mem_map.1 hd
        trivial
    | string _ => exact ⟨trivial, trivial⟩
    | bool _ => trivial
    | null => trivial
    | question => trivial
    | dollar _ => exact ⟨trivial, trivial⟩
    | paren h =>
        rw [Layout.expr, Doc.isFixed_parens]
        exact hmembers _ List.mem_cons_self
    | list h _ =>
        rw [Layout.expr, Doc.isFixed_parens, exprs_eq_map]
        exact Doc.isFixed_sepBy (List.forall_mem_map.2 hmembers)
  · intro e he hatoms
    cases he with
    | atom h => exact hatoms e (h.atoms_eq ▸ List.mem_cons_self)
    | unary op h =>
        have hoperand := hatoms _ List.mem_cons_self
        cases op <;> exact ⟨⟨trivial, trivial⟩, hoperand⟩
    | binary op hleft hright =>
        simp only [atoms, List.forall_mem_cons] at hatoms
        obtain ⟨hleft, hright, -⟩ := hatoms
        exact ⟨⟨⟨⟨⟨trivial, hleft⟩, trivial⟩, trivial⟩, trivial⟩, hright⟩
    | between negated hsubject hlow hhigh =>
        simp only [atoms, List.forall_mem_cons] at hatoms
        obtain ⟨hsubject, hlow, hhigh, -⟩ := hatoms
        exact ⟨⟨⟨⟨hsubject, trivial⟩, hlow⟩, trivial⟩, hhigh⟩

theorem IsFragment.render {settings : Settings} (h : e.IsFragment) :
    e.render settings = .ok (String.ofList (chars settings e)) :=
  h.isFixed.print

end Expr

end SqlPrinter
