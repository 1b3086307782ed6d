/-
The operators of expressions.  A binary operator is read without regard to
letter case and spacing; one that is not known keeps the spelling it came with.
-/
import SqlPrinter.Text.Blank

namespace SqlPrinter

/-- The binary operators that have a name of their own. -/
inductive StandardOp where
  | eq
  | notEq
  | ltGt
  | lt
  | ltEq
  | gt
  | gtEq
  | nullSafeEq
  | and
  | or
  | xor
  | plus
  | minus
  | multiply
  | divide
  | modulo
  | intDiv
  | like
  | notLike
  | ilike
  | notIlike
  | glob
  | regexp
  | notRegexp
  | rlike
  | isIn
  | notIn
  | is
  | isNot
  | assign
deriving DecidableEq

namespace StandardOp

/-- How the operator is printed. -/
def text : StandardOp → String
  | eq => "="
  | notEq => "!="
  | ltGt => "<>"
  | lt => "<"
  | ltEq => "<="
  | gt => ">"
  | gtEq => ">="
  | nullSafeEq => "<=>"
  | and => "AND"
  | or => "OR"
  | xor => "XOR"
  | plus => "+"
  | minus => "-"
  | multiply => "*"
  | divide => "/"
  | modulo => "%"
  | intDiv => "DIV"
  | like => "LIKE"
  | notLike => "NOT LIKE"
  | ilike => "ILIKE"
  | notIlike => "NOT ILIKE"
  | glob => "GLOB"
  | regexp => "REGEXP"
  | notRegexp => "NOT REGEXP"
  | rlike => "RLIKE"
  | isIn => "IN"
  | notIn => "NOT IN"
  | is => "IS"
  | isNot => "IS NOT"
  | assign => ":="

/-- The texts that are read as operators, in upper case and with single spaces.
The remainder has two of them. -/
def spellings : List (String × StandardOp) :=
  [("=", eq), ("!=", notEq), ("<>", ltGt), ("<", lt), ("<=", ltEq), (">", gt),
    (">=", gtEq), ("<=>", nullSafeEq), ("AND", and), ("OR", or), ("XOR", xor),
    ("+", plus), ("-", minus), ("*", multiply), ("/", divide), ("%", modulo),
    ("MOD", modulo), ("DIV", intDiv), ("LIKE", like), ("NOT LIKE", notLike),
    ("ILIKE", ilike), ("NOT ILIKE", notIlike), ("GLOB", glob),
    ("REGEXP", regexp), ("NOT REGEXP", notRegexp), ("RLIKE", rlike),
    ("IN", isIn), ("NOT IN", notIn), ("IS", is), ("IS NOT", isNot),
    (":=", assign)]

/-- Read an operator, whatever its letter case and spacing. -/
def ofText? (s : String) : Option StandardOp :=
  spellings.lookup (Text.collapse s).toUpper

end StandardOp

/-- A binary operator. -/
inductive BinaryOp where
  | standard (op : StandardOp)
  /-- Any other operator, printed as it was written. -/
  | other (spelling : String)
deriving DecidableEq

namespace BinaryOp

/-- Read an operator; every text is one. -/
def ofText (s : String) : BinaryOp :=
  match StandardOp.ofText? s with
  | some op => .standard op
  | none => .other s

/-- How the operator is printed. -/
def text : BinaryOp → String
  | standard op => op.text
  | other spelling => spelling

/-- One of the operators that have a name of their own. -/
def isStandard : BinaryOp → Bool
  | standard _ => true
  | other _ => false

end BinaryOp

/-- An operator before its operand. -/
inductive UnaryOp where
  | not
  | neg
  | plus
  | bitNot
  | bang
  | binary
  | existential
deriving DecidableEq

namespace UnaryOp

/-- How the operator is printed. -/
def text : UnaryOp → String
  | .not => "NOT"
  | .neg => "-"
  | .plus => "+"
  | .bitNot => "~"
  | .bang => "!"
  | .binary => "BINARY"
  | .existential => "EXISTS"

/-- An operator made of letters needs a space before its operand. -/
def isWord (op : UnaryOp) : Bool :=
  op = .not || op = .binary || op = .existential

/-- The texts that are read as operators, in upper case. -/
def spellings : List (String × UnaryOp) :=
  [("NOT", .not), ("-", .neg), ("+", .plus), ("~", .bitNot), ("!", .bang),
    ("BINARY", .binary), ("EXISTS", .existential)]

/-- Read an operator, whatever its letter case and the blanks around it. -/
def ofText? (s : String) : Option UnaryOp :=
  spellings.lookup (Text.trim s).toUpper

end UnaryOp

end SqlPrinter
