/-
JSON values.  A number is either a natural number or kept as it was written,
because nothing but natural numbers is ever taken from one.
-/
namespace SqlPrinter

/-- A JSON value. -/
inductive Json where
  | null
  | bool (b : Bool)
  /-- A number written as digits alone. -/
  | natural (n : Nat)
  /-- Any other number, as it was written. -/
  | decimal (literal : String)
  | string (s : String)
  | array (items : List Json)
  | object (entries : List (String × Json))

namespace Json

mutual

/-- How deep arrays and objects are nested. -/
def depth : Json → Nat
  | null | bool _ | natural _ | decimal _ | string _ => 0
  | array items => depthOfItems items + 1
  | object entries => depthOfEntries entries + 1

/-- The depth of the deepest item. -/
def depthOfItems : List Json → Nat
  | [] => 0
  | j :: rest => max j.depth (depthOfItems rest)

/-- The depth of the deepest value. -/
def depthOfEntries : List (String × Json) → Nat
  | [] => 0
  | (_, j) :: rest => max j.depth (depthOfEntries rest)

end

mutual

/-- Two values that are written alike. -/
def same : Json → Json → Bool
  | null, null => true
  | bool a, bool b => a = b
  | natural m, natural n => m = n
  | decimal a, decimal b => a = b
  | string a, string b => a = b
  | array a, array b => sameItems a b
  | object a, object b => sameEntries a b
  | _, _ => false

/-- Two lists of values that are written alike. -/
def sameItems : List Json → List Json → Bool
  | [], [] => true
  | a :: as, b :: bs => same a b && sameItems as bs
  | _, _ => false

/-- Two lists of entries that are written alike. -/
def sameEntries : List (String × Json) → List (String × Json) → Bool
  | [], [] => true
  | (k, a) :: as, (l, b) :: bs => k = l && same a b && sameEntries as bs
  | _, _ => false

end

end Json

end SqlPrinter
