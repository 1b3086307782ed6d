/-
Reading JSON text.  The arrays and objects that are open are held in a stack,
so their number, which is the depth of nesting, can be limited.
-/
import SqlPrinter.Json.Token

namespace SqlPrinter.Json

/-- An array or object that is still open; what it holds so far is back to
front. -/
inductive Frame where
  | items (done : List Json)
  | entries (done : List (String × Json))
  /-- An object whose last key still waits for its value. -/
  | member (done : List (String × Json)) (key : String)

/-- What may come next. -/
inductive Goal where
  | value
  | itemOrEnd
  | commaOrItemsEnd
  | key
  | keyOrEnd
  | colon (key : String)
  | commaOrEntriesEnd
  | nothing (value : Json)

/-- A text that has been read up to some token. -/
structure Reading where
  stack : List Frame
  goal : Goal

/-- The entries of an object, given back to front: a later value for a key takes
the place of an earlier one. -/
def latest : List (String × Json) → List (String × Json)
  | [] => []
  | (key, j) :: earlier => (key, j) :: (latest earlier).filter (·.1 ≠ key)

namespace Reading

/-- Before the first token. -/
def start : Reading :=
  ⟨[], .value⟩

/-- A value is complete. -/
def deliver (j : Json) : List Frame → Option Reading
  | [] => some ⟨[], .nothing j⟩
  | .items done :: stack => some ⟨.items (j :: done) :: stack, .commaOrItemsEnd⟩
  | .member done key :: stack =>
      some ⟨.entries ((key, j) :: done) :: stack, .commaOrEntriesEnd⟩
  | .entries _ :: _ => none

/-- An array or object begins, if the limit allows another one. -/
def enter (limit : Nat) (frame : Frame) (goal : Goal) (stack : List Frame) :
    Option Reading :=
  if stack.length < limit then some ⟨frame :: stack, goal⟩ else none

/-- One more token. -/
def step (limit : Nat) (r : Reading) (t : Token) : Option Reading :=
  match r.goal, t, r.stack with
  | .value, .scalar j, stack | .itemOrEnd, .scalar j, stack => deliver j stack
  | .value, .arrayStart, stack | .itemOrEnd, .arrayStart, stack =>
      enter limit (.items []) .itemOrEnd stack
  | .value, .objectStart, stack | .itemOrEnd, .objectStart, stack =>
      enter limit (.entries []) .keyOrEnd stack
  | .itemOrEnd, .arrayEnd, .items done :: stack
  | .commaOrItemsEnd, .arrayEnd, .items done :: stack =>
      deliver (.array done.reverse) stack
  | .commaOrItemsEnd, .comma, stack => some ⟨stack, .value⟩
  | .key, .scalar (.string key), stack | .keyOrEnd, .scalar (.string key), stack =>
      some ⟨stack, .colon key⟩
  | .colon key, .colon, .entries done :: stack =>
      some ⟨.member done key :: stack, .value⟩
  | .keyOrEnd, .objectEnd, .entries done :: stack
  | .commaOrEntriesEnd, .objectEnd, .entries done :: stack =>
      deliver (.object (latest done).reverse) stack
  | .commaOrEntriesEnd, .comma, stack => some ⟨stack, .key⟩
  | _, _, _ => none

/-- The value of a text that has been read to its end. -/
def value? (r : Reading) : Option Json :=
  match r.goal with
  | .nothing j => some j
  | _ => none

end Reading

/-- Read a text whose arrays and objects are nested no deeper than a limit. -/
def parseWithin (limit : Nat) (text : String) : Option Json := do
  let r ← (← tokens? text).foldlM (Reading.step limit) Reading.start
  r.value?

/-- Read a text.  Arrays and objects may be nested 127 deep. -/
def parse (text : String) : Option Json :=
  parseWithin 127 text

end SqlPrinter.Json
