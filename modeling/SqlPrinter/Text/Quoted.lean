/-
Quoted tokens.  Inside a token the closing mark is written twice, so the token
ends at the first closing mark that stands alone.
-/
import SqlPrinter.Dialect

namespace SqlPrinter.Quoted

/-- Write every closing mark twice. -/
def encode (closing : Char) : List Char → List Char
  | [] => []
  | c :: rest =>
      if c = closing then c :: c :: encode closing rest
        else c :: encode closing rest

/-- A text between two marks. -/
def wrap (opening closing : Char) (s : String) : String :=
  String.ofList (opening :: (encode closing s.toList ++ [closing]))

/-- A string literal: single quotes on both sides. -/
def string (s : String) : String :=
  wrap '\x27' '\x27' s

/-- An identifier between the marks of a dialect. -/
def identifier (d : Dialect) (name : String) : String :=
  wrap d.quoteMarks.opening d.quoteMarks.closing name

end SqlPrinter.Quoted
