/-
The JSON form loses nothing.  A statement is read back from its written form if it
is canonical, and whatever is decoded is; so a value that has been decoded once
stays as it is, however often it is written and decoded again.
-/
import SqlPrinter.Proofs.Form.Decoded
import SqlPrinter.Proofs.Form.Statement

namespace SqlPrinter.Form

variable {α : Type} {decode : Json → Except Fault α} {encode : α → Json}
  {canonical : α → Prop}

/-- Values of one kind, and no others, come back from their written form, and all
values that are ever decoded are of this kind. -/
structure RoundTrips (decode : Json → Except Fault α) (encode : α → Json)
    (canonical : α → Prop) : Prop where
  decode_encode_iff : ∀ a, decode (encode a) = .ok a ↔ canonical a
  canonical_of_decode : ∀ j a, decode j = .ok a → canonical a
  stable : ∀ j a, decode j = .ok a →
    decode (encode a) = .ok a ∧ (decode (encode a)).map encode = .ok (encode a)

theorem RoundTrips.of_canonical
    (hencode : ∀ a, canonical a → decode (encode a) = .ok a)
    (hdecode : ∀ j a, decode j = .ok a → canonical a) :
    RoundTrips decode encode canonical where
  decode_encode_iff a := ⟨hdecode (encode a) a, hencode a⟩
  canonical_of_decode := hdecode
  stable j a h := by
    have hback := hencode a (hdecode j a h)
    exact ⟨hback, by rw [hback, Except.map]⟩

/-- Statements, expressions and queries come back from their written form exactly
if no operator is spelled out that has a name of its own; dialects always do. -/
theorem roundTrips_json :
    RoundTrips Statement.ofJson Statement.toJson
      (fun s => (Node.statement s).IsCanonical) ∧
      RoundTrips Expr.ofJson Expr.toJson (fun e => (Node.expr e).IsCanonical) ∧
      RoundTrips Query.ofJson Query.toJson (fun q => (Node.query q).IsCanonical) ∧
      ∀ inVariant, RoundTrips (Dialect.read inVariant) Dialect.toJson fun _ =>
        True := by
  refine ⟨.of_canonical ?_ ?_, .of_canonical ?_ ?_, .of_canonical ?_ ?_,
    fun inVariant => .of_canonical ?_ ?_⟩
  · exact fun _ => Statement.ofJson_toJson
  · exact fun _ _ => Statement.isCanonical_of_ofJson
  · exact fun _ => Expr.ofJson_toJson
  · exact fun _ _ => Expr.isCanonical_of_ofJson
  · exact fun _ => Query.ofJson_toJson
  · exact fun _ _ => Query.isCanonical_of_ofJson
  · exact fun dialect _ => dialect.ofJson_toJson inVariant
  · exact fun _ _ _ => trivial

/-- An operator that has no name of its own keeps its spelling. -/
theorem roundTrips_json_otherOperator :
    let e : Expr := .binary (.star none) (.other "->>") (.keyword "NULL")
    (Node.expr e).IsCanonical ∧ Expr.ofJson e.toJson = .ok e := by
  intro e
  have hop : (BinaryOp.ofText "->>").isStandard = false := by decide +kernel
  have hcanonical : (Node.expr e).IsCanonical := by
    refine Node.isCanonical_iff.2
      ⟨hop, List.forall_mem_cons.2 ⟨?_, List.forall_mem_singleton.2 ?_⟩⟩
    · exact Node.isCanonical_of_no_part trivial rfl
    · exact Node.isCanonical_of_no_part trivial rfl
  exact ⟨hcanonical, (roundTrips_json.2.1.decode_encode_iff e).2 hcanonical⟩

/-- An operator that is only spelled `and` comes back with its name. -/
example :
    Expr.ofJson (Expr.toJson (.binary (.star none) (.other "and") (.star none))) =
      .ok (.binary (.star none) (.standard .and) (.star none)) := by
  cbv

end SqlPrinter.Form
