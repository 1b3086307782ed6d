/-
Reading the parts of a statement from JSON values.

A record is an object with a value for each field, or an array with the values
in order.  A variant is a record with a tag in front: the key `type` of an
object, or the first item of an array.  Keys that no field has are ignored.
Where several fields are at fault the one with the least key is reported; a
field that is missing altogether only counts if no other is at fault.
-/
import SqlPrinter.Error
import SqlPrinter.Json.Value

namespace SqlPrinter.Form

/-- A way to read a value.  The flag says that the value lies inside a variant;
there a tag may be given by its number, and `{}` counts as no value. -/
abbrev Reader (α : Type) := (inVariant : Bool) → Json → Except Fault α

/-- Where the fields of a record are found. -/
inductive Source where
  | entries (entries : List (String × Json))
  | items (items : List Json)

/-- A fault, with the key of the field if there is one. -/
structure FieldFault where
  key : Option String
  fault : Fault

/-- Of two faults in one record, the one that is reported. -/
def FieldFault.first (a b : FieldFault) : FieldFault :=
  match a.key, b.key with
  | some k, some l => if l < k then b else a
  | none, some _ => b
  | _, none => a

/-- A way to read some fields of a record, given the position of the first of
them. -/
structure Fields (α : Type) where
  count : Nat
  read : Bool → Source → Nat → Except FieldFault α

namespace Fields

/-- No field. -/
def none (a : α) : Fields α :=
  ⟨0, fun _ _ _ => .ok a⟩

/-- First these fields, then those. -/
def both (f : Fields (α → β)) (x : Fields α) : Fields β where
  count := f.count + x.count
  read inVariant source i :=
    match f.read inVariant source i, x.read inVariant source (i + f.count) with
    | .ok f, .ok a => .ok (f a)
    | .error e, .ok _ => .error e
    | .ok _, .error e => .error e
    | .error e, .error e' => .error (e.first e')

instance : Applicative Fields where
  pure := none
  seq f x := both f (x ())

/-- The value of a field and the key that a fault in it is reported with. -/
def find (key : String) (source : Source) (i : Nat) : Option Json × Option String :=
  match source with
  | .entries entries => (entries.lookup key, some key)
  | .items items => (items[i]?, Option.none)

/-- A field that is read by one rule if it is there and has a value otherwise. -/
def field (key : String) (reader : Reader α) (missing : Except FieldFault α) :
    Fields α where
  count := 1
  read inVariant source i :=
    match find key source i with
    | (some j, key) => (reader inVariant j).mapError fun fault => ⟨key, fault⟩
    | (Option.none, _) => missing

/-- A field that has to be there. -/
def required (key : String) (reader : Reader α) : Fields α :=
  field key reader (.error ⟨Option.none, .shape⟩)

/-- A field with a default. -/
def withDefault (key : String) (default : α) (reader : Reader α) : Fields α :=
  field key reader (.ok default)

/-- A field that may be missing or null. -/
def optional (key : String) (reader : Reader α) : Fields (Option α) :=
  withDefault key Option.none fun inVariant j =>
    match j with
    | .null => .ok Option.none
    | j => (reader inVariant j).map some

end Fields

namespace Reader

/-- A text. -/
def text : Reader String
  | _, .string s => .ok s
  | _, _ => .error .shape

/-- True or false. -/
def flag : Reader Bool
  | _, .bool b => .ok b
  | _, _ => .error .shape

/-- A natural number that fits a machine word. -/
def count : Reader UInt64
  | _, .natural n => if n < UInt64.size then .ok (UInt64.ofNat n) else .error .shape
  | _, _ => .error .shape

/-- The items of an array. -/
def list (reader : Reader α) : Reader (List α)
  | inVariant, .array items => items.mapM (reader inVariant)
  | _, _ => .error .shape

/-- An array of two items. -/
def pair (first : Reader α) (second : Reader β) : Reader (α × β)
  | inVariant, .array (a :: rest) => do
      let a ← first inVariant a
      match rest with
      | b :: rest =>
          let b ← second inVariant b
          if rest.isEmpty then .ok (a, b) else .error .shape
      | [] => .error .shape
  | _, _ => .error .shape

/-- One of several words, which may also be the only key of an object without
a value. -/
def word (all : List α) (spelling : α → String) : Reader α := fun inVariant j =>
  let find (s : String) : Except Fault α :=
    match all.find? (spelling · = s) with
    | some a => .ok a
    | none => .error .shape
  match j with
  | .string s => find s
  | .object [(s, .null)] => find s
  | .object [(s, .object [])] => if inVariant then find s else .error .shape
  | _ => .error .shape

/-- The fields of a record.  An array may not be longer than the record. -/
def fieldsFrom (fields : Fields α) (inVariant : Bool) (source : Source) :
    Except Fault α :=
  match fields.read inVariant source 0 with
  | .error e => .error e.fault
  | .ok a =>
      match source with
      | .entries _ => .ok a
      | .items items => if items.length ≤ fields.count then .ok a else .error .shape

/-- A record. -/
def record (fields : Fields α) : Reader α
  | inVariant, .object entries => fieldsFrom fields inVariant (.entries entries)
  | inVariant, .array items => fieldsFrom fields inVariant (.items items)
  | _, _ => .error .shape

/-- The variant that a tag stands for. -/
def choose (variants : List (String × Fields α)) (inVariant : Bool) :
    Json → Option (Fields α)
  | .string tag => variants.lookup tag
  | .natural n => if inVariant then variants[n]?.map (·.2) else none
  | _ => none

/-- One of several variants. -/
def tagged (variants : List (String × Fields α)) : Reader α := fun inVariant j =>
  match j with
  | .object entries =>
      match (entries.lookup "type").bind (choose variants inVariant) with
      | some fields => fieldsFrom fields true (.entries entries)
      | none => .error .shape
  | .array (tag :: items) =>
      match choose variants inVariant tag with
      | some fields => fieldsFrom fields true (.items items)
      | none => .error .shape
  | _ => .error .shape

end Reader

end SqlPrinter.Form
