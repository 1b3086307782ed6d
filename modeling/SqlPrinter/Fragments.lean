/-
Optional pieces of text.  A missing or empty piece is dropped when it is added,
so joining never leaves two separators in a row or one at an end.
-/
namespace SqlPrinter

/-- Pieces of text, none of them empty. -/
structure Fragments where
  parts : List String
  parts_ne_empty : ∀ s ∈ parts, s ≠ ""

namespace Fragments

/-- No pieces. -/
def empty : Fragments :=
  ⟨[], by simp⟩

/-- Add a piece at the end, unless it is empty. -/
def push (f : Fragments) (s : String) : Fragments :=
  if h : s = "" then f
  else
    ⟨f.parts ++ [s], by
      intro t ht
      rcases List.mem_append.1 ht with ht | ht
      · exact f.parts_ne_empty t ht
      · simp only [List.mem_singleton] at ht
        exact ht ▸ h⟩

/-- Add a piece that may be missing. -/
def push? (f : Fragments) : Option String → Fragments
  | none => f
  | some s => f.push s

/-- The pieces of a list that are not empty. -/
def ofList (pieces : List String) : Fragments :=
  pieces.foldl push empty

/-- There is no piece. -/
def isEmpty (f : Fragments) : Bool :=
  f.parts.isEmpty

/-- The pieces with a separator between neighbours. -/
def join (f : Fragments) (separator : String) : String :=
  separator.intercalate f.parts

/-- The pieces one after the other. -/
def concat (f : Fragments) : String :=
  String.join f.parts

end Fragments

end SqlPrinter
