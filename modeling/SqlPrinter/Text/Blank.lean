/-
Blank space as Unicode defines it, and the three things done with it here:
cutting a text into words, joining the words by single spaces, and trimming
both ends.  Letter case needs no module: `String.toUpper` and `String.toLower`
change ASCII letters only, which is the rule for every keyword of SQL.
-/
namespace SqlPrinter.Text

/-- The characters that have the Unicode property White_Space. -/
def isBlank (c : Char) : Bool :=
  let n := c.toNat
  (0x09 ≤ n && n ≤ 0x0D) || n == 0x20 || n == 0x85 || n == 0xA0 || n == 0x1680 ||
    (0x2000 ≤ n && n ≤ 0x200A) || n == 0x2028 || n == 0x2029 || n == 0x202F ||
    n == 0x205F || n == 0x3000

/-- Cut a text at every blank; neighbouring blanks leave empty pieces between
them. -/
def cutAtBlanks : List Char → List (List Char)
  | [] => [[]]
  | c :: rest =>
      if isBlank c then [] :: cutAtBlanks rest
      else
        match cutAtBlanks rest with
        | [] => [[c]]
        | piece :: pieces => (c :: piece) :: pieces

/-- The maximal runs of characters that are not blank. -/
def words (s : String) : List String :=
  ((cutAtBlanks s.toList).filter (· ≠ [])).map String.ofList

/-- The words of a text with one space between neighbours. -/
def collapse (s : String) : String :=
  " ".intercalate (words s)

/-- A text without the blanks at its two ends. -/
def trim (s : String) : String :=
  String.ofList ((s.toList.dropWhile isBlank).reverse.dropWhile isBlank).reverse

/-- Nothing but blanks, the empty text included. -/
def isAllBlank (s : String) : Bool :=
  s.toList.all isBlank

/-- An optional text that is there and has at least one character: an empty
text counts as absent. -/
def nonEmpty (s : Option String) : Option String :=
  s.filter (· ≠ "")

end SqlPrinter.Text
