/-
How large a number may be.  A JSON number stands for a double, and one that is
too large for a double is not JSON.  The value is found from the first digits,
as many as fit a machine word, times a power of ten, both rounded to a double.
-/
namespace SqlPrinter.Json

/-- The nearest number with at most 53 significant bits; a number half way
between two goes to the even one. -/
def roundToDouble (n : Nat) : Nat :=
  let unit := Nat.pow 2 (n.log2 - 52)
  let low := n / unit
  let rest := n % unit
  let up := 2 * rest > unit || (2 * rest = unit && low % 2 = 1)
  (if up then low + 1 else low) * unit

/-- Beyond the largest double. -/
def isInfinite (n : Nat) : Bool :=
  Nat.pow 2 1024 ≤ roundToDouble n

/-- The value of a digit. -/
def digit (c : Char) : Nat :=
  c.toNat - '0'.toNat

/-- The value of digits read from left to right. -/
def digits (cs : List Char) : Nat :=
  cs.foldl (fun n c => 10 * n + digit c) 0

/-- The leading digits of a number and the power of ten that goes with them. -/
structure Significand where
  value : Nat
  exponent : Int

namespace Significand

/-- Another digit still fits a machine word. -/
def takes (n : Nat) (c : Char) : Bool :=
  10 * n + digit c < UInt64.size

/-- Digits before the point.  From the first that does not fit on, each counts
as a power of ten. -/
def ofWhole : Nat → List Char → Significand
  | n, [] => ⟨n, 0⟩
  | n, c :: rest =>
      if takes n c then ofWhole (10 * n + digit c) rest else ⟨n, rest.length + 1⟩

/-- Digits after the point.  From the first that does not fit on, none counts. -/
def fraction (s : Significand) : List Char → Significand
  | [] => s
  | c :: rest =>
      if takes s.value c then
        fraction ⟨10 * s.value + digit c, s.exponent - 1⟩ rest
      else s

/-- Too large for a double, with a further power of ten. -/
def overflows (s : Significand) (exponent : Int) : Bool :=
  let power := s.exponent + exponent
  s.value ≠ 0 && 0 ≤ power &&
    (308 < power ||
      isInfinite (roundToDouble s.value * roundToDouble (Nat.pow 10 power.toNat)))

end Significand

end SqlPrinter.Json
