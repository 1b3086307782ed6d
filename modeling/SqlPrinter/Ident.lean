/-
Identifiers as they are written: folded to one letter case if the settings say
so, then quoted always, or only where the bare name would be misread.
-/
import SqlPrinter.Settings
import SqlPrinter.Text.Quoted

namespace SqlPrinter.Ident

/-- The words that are never left bare, in lower case. -/
def keywords : List String :=
  ["select", "from", "where", "group", "order", "by", "having", "limit",
    "offset", "join", "left", "right", "inner", "outer", "cross", "natural", "on",
    "using", "as", "and", "or", "not", "in", "is", "null", "like", "between",
    "case", "when", "then", "else", "end", "union", "all", "distinct", "user",
    "table", "index", "key", "primary", "unique", "constraint", "default", "check",
    "references", "create", "drop", "alter", "insert", "update", "delete", "into",
    "values", "set", "with", "window", "over", "partition"]

/-- A word of the keyword list in any letter case. -/
def isKeyword (name : String) : Bool :=
  name.toLower ∈ keywords

/-- An ASCII letter or underscore first, then ASCII letters, digits and
underscores. -/
def isSimple (name : String) : Bool :=
  match name.toList with
  | [] => false
  | c :: rest => (c = '_' || c.isAlpha) && rest.all fun c => c = '_' || c.isAlphanum

/-- The star and the pseudo table DUAL are not names of anything. -/
def isSpecial (name : String) : Bool :=
  name = "*" || name.toLower = "dual"

/-- Bring a name to the letter case of the settings. -/
def folded (settings : Settings) (name : String) : String :=
  match settings.fold with
  | some .lower => name.toLower
  | some .upper => name.toUpper
  | none => name

/-- A name may stand without quotes. -/
def staysBare (mode : QuoteMode) (name : String) : Bool :=
  match mode with
  | .always => false
  | .smart preserveCase => !preserveCase && isSimple name && !isKeyword name

/-- The text of an identifier. -/
def quote (settings : Settings) (name : String) : String :=
  if isSpecial name then name.toUpper
  else
    let name := folded settings name
    if staysBare settings.quote name then name
      else Quoted.identifier settings.dialect name

/-- The text of a dotted path of identifiers. -/
def quotePath (settings : Settings) (parts : List String) : String :=
  ".".intercalate (parts.map (quote settings))

end SqlPrinter.Ident
