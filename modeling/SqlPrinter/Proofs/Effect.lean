/-
What is seen of a layout when it is printed: the text or the fault, and the
counters.  It is put together from what is seen of the parts, so that a layout may
stand in the place of another one with the same effect, whatever stands around it.
-/
import SqlPrinter.Proofs.Count.Statement
import SqlPrinter.Proofs.Skeleton

namespace SqlPrinter

/-- What is seen of an evaluation.  What has been printed before a fault is not. -/
structure Outcome where
  answer : Except Error String
  counters : Counters

/-- What is seen of an evaluation under some settings. -/
def Run.outcome (settings : Settings) (r : Run) : Outcome where
  answer := r.answer settings
  counters := r.counters

/-- The outcome for each state of the counters. -/
def Effect : Type :=
  Counters → Outcome

/-- What is seen of a layout. -/
def Doc.effect (settings : Settings) (d : Doc) : Effect :=
  fun c => (d.run settings.placeholders c).outcome settings

/-! ## Effects of the constructors -/

namespace Effect

/-- A text. -/
def text (s : String) : Effect :=
  fun c => ⟨.ok s, c⟩

/-- One after the other with the texts of both combined. -/
def combine (first : Effect) (second : Counters → Effect)
    (join : String → String → String) : Effect := fun c =>
  match (first c).answer with
  | .error _ => first c
  | .ok s =>
      let next := second c (first c).counters
      { next with answer := next.answer.map (join s) }

/-- One after the other. -/
def append (first second : Effect) : Effect :=
  combine first (fun _ => second) (· ++ ·)

instance : Append Effect := ⟨append⟩

/-- Two texts with a separator between them, or one of them if the
other is empty. -/
def joinBeside (separator first second : String) : String :=
  if first = "" then second
  else if second = "" then first
  else first ++ separator ++ second

/-- Two parts with a separator between them. -/
def beside (separator : String) (first second : Effect) : Effect :=
  combine first (fun _ => second) (joinBeside separator)

/-- The same part twice.  It is an error if a question mark has been counted. -/
def twice (lead between : String) (part : Effect) (onQuestion : Error) : Effect :=
  combine part
    (fun before after =>
      ⟨if after.positional =
        before.positional then .ok "" else .error onQuestion, after⟩)
    (fun s _ => lead ++ s ++ between ++ s)

/-- Nothing is added. -/
@[simp] theorem append_empty (a : Effect) : a ++ text "" = a := by
  funext c
  change append a (text "") c = a c
  rcases h : a c with ⟨e | s, c'⟩ <;> simp [append, combine, text, h, Except.map]

@[simp] theorem empty_append (a : Effect) : text "" ++ a = a := by
  funext c
  change append (text "") a c = a c
  rcases h : a c with ⟨e | s, c'⟩ <;> simp [append, combine, text, h, Except.map]

theorem text_append_text (s t : String) : text s ++ text t = text (s ++ t) :=
  rfl

/-- Effects are put together in any order, as texts are. -/
theorem append_assoc (a b c : Effect) : a ++ b ++ c = a ++ (b ++ c) := by
  funext before
  change append (append a b) c before = append a (append b c) before
  unfold append combine
  rcases a before with ⟨e | s, between⟩
  · rfl
  · rcases hb : b between with ⟨e | t, after⟩
    · simp [hb, Except.map]
    · rcases hc : c after with ⟨e | u, last⟩ <;>
        simp [hb, hc, Except.map, String.append_assoc]

end Effect

/-- The text of two parts is joined as the text of two pieces is. -/
theorem Piece.textOf_joinBeside_eq (settings : Settings) (separator : String)
    (ps qs : List Piece) :
    textOf settings (joinBeside separator ps qs) =
      Effect.joinBeside separator (textOf settings ps) (textOf settings qs) := by
  rw [textOf_joinBeside, Fragments.join_pair, Effect.joinBeside]

/-! ## Effects of layouts -/

namespace Doc

variable (settings : Settings)

/-- An effect is known once the outcome in every state of the counters is. -/
theorem effect_of_run {d : Doc} {a : Effect}
    (h : ∀ c, (d.run settings.placeholders c).outcome settings = a c) :
    d.effect settings = a :=
  funext h

@[simp] theorem effect_empty : empty.effect settings = .text "" :=
  effect_of_run settings fun _ => rfl

@[simp] theorem effect_text (s : String) : (text s).effect settings = .text s :=
  effect_of_run settings fun _ => by
    simp [run, Run.outcome, Run.answer, Piece.textOf, Piece.toText, Effect.text]

@[simp] theorem effect_verbatim (s : String) :
    (verbatim s).effect settings = .text s :=
  effect_of_run settings fun _ => by
    simp [run, Run.outcome, Run.answer, Piece.textOf, Piece.toText, Effect.text]

@[simp] theorem effect_append (d e : Doc) :
    (d ++ e).effect settings = d.effect settings ++ e.effect settings := by
  refine effect_of_run settings fun c => ?_
  change ((d.run settings.placeholders c).andThen
    (e.run settings.placeholders)).outcome
    settings = Effect.append (d.effect settings) (e.effect settings) c
  unfold Run.andThen Effect.append Effect.combine effect Run.outcome Run.answer
  cases h : (d.run settings.placeholders c).failure with
  | some error => simp [h]
  | none =>
      cases h' :
        (e.run settings.placeholders
          (d.run settings.placeholders c).counters).failure <;>
        simp [h', Except.map, Piece.textOf_append]

/-- What an isolated part leaves out is not seen. -/
@[simp] theorem effect_isolated (d : Doc) :
    (isolated d).effect settings = d.effect settings := by
  refine effect_of_run settings fun c => ?_
  change (d.run settings.placeholders c).isolated.outcome settings =
    d.effect settings c
  unfold effect Run.isolated Run.outcome Run.answer
  cases h : (d.run settings.placeholders c).failure <;> simp [h]

/-- Two evaluations of which both texts or none are used. -/
theorem outcome_combine {r : Run} {next : Counters → Run}
    {join : List Piece → List Piece → List Piece} {join' : String → String → String}
    {first : Effect} {second : Counters → Effect} {c : Counters}
    (hfirst : r.outcome settings = first c)
    (hsecond : ∀ c', (next c').outcome settings = second c c')
    (hjoin : ∀ ps qs, Piece.textOf settings (join ps qs) =
      join' (Piece.textOf settings ps) (Piece.textOf settings qs)) :
    (r.combine next join).outcome settings =
      Effect.combine first second join' c := by
  unfold Run.combine Effect.combine
  rw [← hfirst]
  cases h : r.failure with
  | some e => simp [Run.outcome, Run.answer, h]
  | none =>
      simp only [Run.outcome, Run.answer, h]
      rw [← hsecond]
      cases h' : (next r.counters).failure <;>
        simp [Run.outcome, Run.answer, h', hjoin, Except.map]

@[simp] theorem effect_beside (separator : String) (d e : Doc) :
    (beside separator d e).effect settings =
      (d.effect settings).beside separator (e.effect settings) :=
  effect_of_run settings fun _ =>
    outcome_combine settings rfl (fun _ => rfl)
      (Piece.textOf_joinBeside_eq _ separator)

/-- A part that is printed twice is evaluated twice, from the state it started
in. -/
@[simp] theorem effect_twice (lead between : String) (part : Doc) (e : Error) :
    (twice lead between part e).effect settings =
      (part.effect settings).twice lead between e := by
  refine effect_of_run settings fun c =>
    outcome_combine settings rfl (fun c' => ?_) ?_
  · by_cases h : c'.positional = c.positional <;>
      simp [Run.outcome, Run.answer, h, Piece.textOf]
  · intro ps _
    rw [List.cons_append, Piece.textOf_cons, Piece.textOf_append, Piece.textOf_cons,
      Piece.toText, Piece.toText, String.append_assoc, String.append_assoc]

/-- What is printed or what is wrong with a layout can be seen from its effect. -/
theorem print_eq (d : Doc) : d.print settings = (d.effect settings .start).answer :=
  d.print_eq_run settings

end Doc

/-! ## Effects of the combinators -/

namespace Effect

/-- One after the other. -/
def concat : List Effect → Effect
  | [] => text ""
  | a :: as => a ++ concat as

/-- One after the other, with a separator before each but the first. -/
def joined (separator : Effect) : List Effect → Effect
  | [] => text ""
  | a :: as => a ++ concat (as.map (separator ++ ·))

/-- Optional pieces in order. -/
def fragments (separator : String) : List Effect → Effect
  | [] => text ""
  | a :: as => beside separator a (fragments separator as)

/-- A part that may be missing. -/
def optional : Option Effect → Effect
  | none => text ""
  | some a => a

/-- A part that may be missing, with the words that introduce it. -/
def clause (lead : String) : Option Effect → Effect
  | none => text ""
  | some a => text lead ++ a

@[simp] theorem joined_singleton (separator a : Effect) :
    joined separator [a] = a := by
  simp [joined, concat]

/-- What is seen of a list is what is seen of its halves. -/
theorem concat_append (as bs : List Effect) :
    concat (as ++ bs) = concat as ++ concat bs := by
  induction as with
  | nil => simp [concat]
  | cons a as ih => simp [concat, ih, append_assoc]

/-- Two lists in one. -/
theorem joined_append {separator : Effect} {as bs : List Effect} (has : as ≠ [])
    (hbs : bs ≠ []) :
    joined separator (as ++ bs) = joined separator as ++
      (separator ++ joined separator bs) := by
  obtain ⟨a, as, rfl⟩ := List.exists_cons_of_ne_nil has
  obtain ⟨b, bs, rfl⟩ := List.exists_cons_of_ne_nil hbs
  simp [joined, concat, concat_append, append_assoc]

end Effect

namespace Doc

variable (settings : Settings)

/-- What is seen of several layouts. -/
def effects (ds : List Doc) : List Effect :=
  ds.map (effect settings)

/-- What is seen of a layout that may be missing. -/
def effect? (o : Option Doc) : Option Effect :=
  o.map (effect settings)

@[simp] theorem effects_nil : effects settings [] = [] := rfl

@[simp] theorem effects_cons (d : Doc) (ds : List Doc) :
    effects settings (d :: ds) = d.effect settings :: effects settings ds := rfl

@[simp] theorem effects_append (ds es : List Doc) :
    effects settings (ds ++ es) = effects settings ds ++ effects settings es :=
  List.map_append

@[simp] theorem effect?_none : effect? settings none = none := rfl

@[simp] theorem effect?_some (d : Doc) :
    effect? settings (some d) = some (d.effect settings) := rfl

@[simp] theorem effect_concat (ds : List Doc) :
    (concat ds).effect settings = .concat (effects settings ds) := by
  induction ds with
  | nil => simp [concat, Effect.concat]
  | cons d ds ih => simp [concat, Effect.concat, ih]

@[simp] theorem effect_joined (separator : Doc) (ds : List Doc) :
    (joined separator ds).effect settings =
      .joined (separator.effect settings) (effects settings ds) := by
  cases ds with
  | nil => simp [joined, Effect.joined]
  | cons d ds => simp [joined, Effect.joined, effects, Function.comp_def]

@[simp] theorem effect_sepBy (separator : String) (ds : List Doc) :
    (sepBy separator ds).effect settings =
      .joined (.text separator) (effects settings ds) := by
  simp [sepBy]

@[simp] theorem effect_commas (ds : List Doc) :
    (commas ds).effect settings = .joined (.text ", ") (effects settings ds) := by
  simp [commas]

@[simp] theorem effect_parens (d : Doc) :
    (parens d).effect settings = .text "(" ++ d.effect settings ++ .text ")" := by
  simp [parens]

@[simp] theorem effect_fragments (separator : String) (ds : List Doc) :
    (fragments separator ds).effect settings =
      .fragments separator (effects settings ds) := by
  induction ds with
  | nil => simp [fragments, Effect.fragments]
  | cons d ds ih => simp [fragments, Effect.fragments, ih]

@[simp] theorem effect_optional (o : Option Doc) :
    (optional o).effect settings = .optional (effect? settings o) := by
  cases o <;> simp [optional, Effect.optional]

@[simp] theorem effect_clause (lead : String) (o : Option Doc) :
    (clause lead o).effect settings = .clause lead (effect? settings o) := by
  cases o <;> simp [clause, Effect.clause]

end Doc

/-! ## Two settings -/

/-- A layout without bound parameters. -/
def Doc.BindsNothing (d : Doc) : Prop :=
  d.count ⟨1, 0, 1⟩ = 0

/-- Nothing is bound in a layout where no number is taken and no question mark
stands. -/
@[simp] theorem Doc.bindsNothing_iff (d : Doc) :
    d.BindsNothing ↔ d.count ⟨1, 0, 1⟩ = 0 :=
  Iff.rfl

/-- Two settings that quote alike and give the same layout to everything but sort
keys.  They may differ in the placeholder style, in the policy and, where this makes
no difference, in the way to write a row limit. -/
structure Settings.Agree (σ τ : Settings) : Prop where
  dialect : σ.dialect = τ.dialect
  quote : σ.quote = τ.quote
  fold : σ.fold = τ.fold
  asBeforeTableName : σ.asBeforeTableName = τ.asBeforeTableName
  asBeforeColumnName : σ.asBeforeColumnName = τ.asBeforeColumnName
  limit : ∀ count offset,
    Layout.limit σ count offset = Layout.limit τ count offset

namespace Settings.Agree

variable {σ τ : Settings}

theorem refl (σ : Settings) : σ.Agree σ :=
  ⟨rfl, rfl, rfl, rfl, rfl, fun _ _ => rfl⟩

variable (h : σ.Agree τ)

include h

/-- Settings that agree quote every name alike. -/
theorem ident_quote (s : String) : Ident.quote σ s = Ident.quote τ s := by
  have hfolded : Ident.folded σ s = Ident.folded τ s := by
    unfold Ident.folded
    rw [h.fold]
  unfold Ident.quote
  rw [hfolded, h.quote, h.dialect]

/-- Settings that agree give a piece the same text. -/
theorem toText (p : Piece) : p.toText σ = p.toText τ := by
  cases p with
  | name s => exact h.ident_quote s
  | _ => rfl

theorem textOf (ps : List Piece) : Piece.textOf σ ps = Piece.textOf τ ps := by
  simp [Piece.textOf, funext h.toText]

/-- A bound parameter is printed alike where the placeholder styles are the same. -/
theorem placeholder (hplaceholders : σ.placeholders = τ.placeholders) :
    Doc.placeholder.effect σ = Doc.placeholder.effect τ := by
  refine Doc.effect_of_run σ fun c => ?_
  unfold Run.outcome Run.answer
  rw [h.textOf, hplaceholders]
  rfl

/-- A layout without bound parameters looks alike under both settings. -/
theorem effect {d : Doc} (hd : d.BindsNothing) : d.effect σ = d.effect τ := by
  induction d with
  | placeholder => contradiction
  | append first second ihFirst ihSecond =>
      obtain ⟨hfirst, hsecond⟩ := Nat.add_eq_zero_iff.1 hd
      change (first ++ second).effect σ = (first ++ second).effect τ
      simp [ihFirst hfirst, ihSecond hsecond]
  | isolated d ih => simp [ih hd]
  | beside separator first second ihFirst ihSecond =>
      obtain ⟨hfirst, hsecond⟩ := Nat.add_eq_zero_iff.1 hd
      simp [ihFirst hfirst, ihSecond hsecond]
  | twice lead between part e ih =>
      rw [Doc.bindsNothing_iff, Doc.count_twice, Nat.one_mul] at hd
      simp [ih hd]
  | _ =>
      refine Doc.effect_of_run σ fun c => ?_
      unfold Run.outcome Run.answer
      rw [h.textOf]
      rfl

/-- Lists of layouts that bind nothing are printed alike by settings that agree. -/
theorem effects {ds : List Doc} (hds : Doc.total ⟨1, 0, 1⟩ ds = 0) :
    Doc.effects σ ds = Doc.effects τ ds := by
  induction ds with
  | nil => rfl
  | cons d ds ih =>
      obtain ⟨hd, hds⟩ :=
        Nat.add_eq_zero_iff.1 ((Doc.total_cons _ d ds).symm.trans hds)
      rw [Doc.effects_cons, Doc.effects_cons, h.effect hd, ih hds]

end Settings.Agree

end SqlPrinter
