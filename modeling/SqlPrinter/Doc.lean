/-
What a statement is laid out to before anything is printed: fixed words, words
taken over from the statement, names and strings that are still to be quoted,
places for parameters, and the points at which printing has to stop.

A document says nothing about the marks around names or the spelling of
parameters.  It is evaluated from left to right, so the order of its parts is
also the order in which parameters are numbered and faults are found.
-/
import SqlPrinter.Error
import SqlPrinter.Text.Blank

namespace SqlPrinter

/-- A layout. -/
inductive Doc where
  | empty
  /-- A fixed text of the language. -/
  | text (s : String)
  /-- A text that stands in the statement and is printed as it is. -/
  | verbatim (s : String)
  /-- An identifier, quoted when it is printed. -/
  | name (s : String)
  /-- A string literal, quoted when it is printed. -/
  | string (s : String)
  /-- A parameter in the placeholder style. -/
  | placeholder
  /-- A parameter that is a question mark in every style. -/
  | question
  /-- Stop here. -/
  | fail (e : Error)
  | append (first second : Doc)
  /-- Print all of it or, if it fails, nothing of it. -/
  | isolated (d : Doc)
  /-- Two parts with a separator between them; a part that prints nothing takes
  its separator away.  If one part fails, nothing is printed. -/
  | beside (separator : String) (first second : Doc)
  /-- A text, a part, a text and the same part again.  The part is evaluated
  once, so a numbered parameter in it is printed twice with one number; a
  question mark in it would ask for two values, and is the given error. -/
  | twice (lead between : String) (part : Doc) (onQuestion : Error)

namespace Doc

instance : Append Doc := ⟨append⟩

/-- One after the other. -/
def concat : List Doc → Doc
  | [] => empty
  | d :: ds => d ++ concat ds

/-- One after the other, with a separator before each but the first. -/
def joined (separator : Doc) : List Doc → Doc
  | [] => empty
  | d :: ds => d ++ concat (ds.map (separator ++ ·))

/-- One after the other, with a fixed text between neighbours. -/
def sepBy (separator : String) (ds : List Doc) : Doc :=
  joined (text separator) ds

/-- A list in the usual way, with commas. -/
def commas (ds : List Doc) : Doc :=
  sepBy ", " ds

/-- In parentheses. -/
def parens (d : Doc) : Doc :=
  text "(" ++ d ++ text ")"

/-- Optional pieces in order: one that prints nothing is dropped together with
its separator. -/
def fragments (separator : String) : List Doc → Doc
  | [] => empty
  | d :: ds => beside separator d (fragments separator ds)

/-- A part that may be missing. -/
def optional : Option Doc → Doc
  | none => empty
  | some d => d

/-- A part that may be missing, with the words that introduce it. -/
def clause (lead : String) : Option Doc → Doc
  | none => empty
  | some d => text lead ++ d

/-- A fixed text that is printed under a condition. -/
def textIf (condition : Bool) (s : String) : Doc :=
  if condition then text s else empty

/-- Go on only if the field of a node is filled in. -/
def require (filled : Bool) (node field : String) : Doc :=
  if filled then empty else fail (.missingField node field)

/-- Go on only if a text has a character. -/
def requireText (s : String) (node field : String) : Doc :=
  require (s ≠ "") node field

/-- A number in decimal digits. -/
def number (n : UInt64) : Doc :=
  text (toString n.toNat)

/-- A word that is printed in upper case, whatever its case in the statement. -/
def word (s : String) : Doc :=
  verbatim s.toUpper

/-- Words in upper case with spaces between them; an empty one leaves no trace. -/
def words (ws : List String) : Doc :=
  fragments " " (ws.map word)

/-- Identifiers joined by dots. -/
def path (parts : List String) : Doc :=
  sepBy "." (parts.map name)

/-- Identifiers joined by commas, none of which may be empty. -/
def names (node field : String) : List String → Doc
  | [] => empty
  | n :: ns =>
      requireText n node field ++ name n ++
        concat (ns.map fun n => requireText n node field ++ text ", " ++ name n)

/-- A second name, which an empty text does not give. -/
def rename (withAs : Bool) (second : Option String) : Doc :=
  match Text.nonEmpty second with
  | none => empty
  | some n => text (if withAs then " AS " else " ") ++ name n

end Doc

end SqlPrinter
