/-
The tokens of JSON text.  A scan goes over the characters once; between two
characters it is in one of four modes.
-/
import SqlPrinter.Json.Double
import SqlPrinter.Json.Value

namespace SqlPrinter.Json

/-- A token: a bracket, a sign, or a value that is neither array nor object. -/
inductive Token where
  | arrayStart
  | arrayEnd
  | objectStart
  | objectEnd
  | comma
  | colon
  | scalar (value : Json)

namespace Token

/-- The three words. -/
def ofWord? : List Char → Option Token
  | ['n', 'u', 'l', 'l'] => some (scalar .null)
  | ['t', 'r', 'u', 'e'] => some (scalar (.bool true))
  | ['f', 'a', 'l', 's', 'e'] => some (scalar (.bool false))
  | _ => none

/-- The exponent of a number: its sign and its digits. -/
def exponent? : List Char → Option Int
  | [] => some 0
  | e :: rest =>
      if e = 'e' || e = 'E' then
        let (negative, ds) :=
          match rest with
          | '-' :: ds => (true, ds)
          | '+' :: ds => (false, ds)
          | ds => (false, ds)
        if ds ≠ [] && ds.all Char.isDigit then
          some (if negative then -(digits ds : Int) else digits ds)
        else none
      else none

/-- The digits after the point, which are at least one if there is a point, and
what follows them. -/
def fraction? : List Char → Option (List Char × List Char)
  | '.' :: rest =>
      let ds := rest.takeWhile Char.isDigit
      if ds = [] then none else some (ds, rest.dropWhile Char.isDigit)
  | rest => some ([], rest)

/-- A number: an optional minus, digits without a needless zero in front, an
optional fraction and an optional exponent. -/
def ofNumber? (cs : List Char) : Option Token := do
  let unsigned := if cs.head? = some '-' then cs.tail else cs
  let whole := unsigned.takeWhile Char.isDigit
  if whole = [] || (whole.head? = some '0' && whole.length ≠ 1) then none
  let (fraction, rest) ← fraction? (unsigned.dropWhile Char.isDigit)
  let exponent ← exponent? rest
  if ((Significand.ofWhole 0 whole).fraction fraction).overflows exponent then none
  if cs = whole then some (scalar (.natural (digits whole)))
  else some (scalar (.decimal (String.ofList cs)))

/-- The value of a hexadecimal digit. -/
def hexDigit? (c : Char) : Option Nat :=
  if c.isDigit then some (c.toNat - '0'.toNat)
  else if 'a' ≤ c && c ≤ 'f' then some (c.toNat - 'a'.toNat + 10)
  else if 'A' ≤ c && c ≤ 'F' then some (c.toNat - 'A'.toNat + 10)
  else none

/-- The value of four hexadecimal digits. -/
def hex4? (a b c d : Char) : Option Nat := do
  return ((← hexDigit? a) * 16 + (← hexDigit? b)) * 256 + (← hexDigit? c) * 16 +
    (← hexDigit? d)

/-- The character of a backslash and one more character. -/
def escape? : Char → Option Char
  | '"' => some '"'
  | '\\' => some '\\'
  | '/' => some '/'
  | 'b' => some '\x08'
  | 'f' => some '\x0c'
  | 'n' => some '\n'
  | 'r' => some '\x0d'
  | 't' => some '\t'
  | _ => none

/-- The first half of a character beyond the basic plane. -/
def isHighSurrogate (n : Nat) : Bool :=
  0xD800 ≤ n && n < 0xDC00

/-- The second half of a character beyond the basic plane. -/
def isLowSurrogate (n : Nat) : Bool :=
  0xDC00 ≤ n && n < 0xE000

/-- What stands between two quotes, taken apart: characters, and the numbers of
the escapes that give one. -/
def units? : List Char → Option (List (Char ⊕ Nat))
  | [] => some []
  | '\\' :: 'u' :: a :: b :: c :: d :: rest =>
      return .inr (← hex4? a b c d) :: (← units? rest)
  | '\\' :: c :: rest => return .inl (← escape? c) :: (← units? rest)
  | c :: rest => return .inl c :: (← units? rest)

/-- The characters of a string.  The two halves of a character beyond the basic
plane come together or not at all. -/
def chars? : List (Char ⊕ Nat) → Option (List Char)
  | [] => some []
  | .inl c :: rest => return c :: (← chars? rest)
  | .inr n :: rest =>
      if isHighSurrogate n then
        match rest with
        | .inr low :: rest =>
            if isLowSurrogate low then
              return Char.ofNat (0x10000 + (n - 0xD800) * 0x400 + (low - 0xDC00)) ::
                (← chars? rest)
            else none
        | _ => none
      else if isLowSurrogate n then none
      else return Char.ofNat n :: (← chars? rest)

/-- A string, from the characters between its quotes. -/
def ofQuoted? (cs : List Char) : Option Token := do
  return scalar (.string (String.ofList (← chars? (← units? cs))))

end Token

/-- What a scan is in the middle of; the characters are held back to front. -/
inductive Scan.Mode where
  | between
  | word (cs : List Char)
  | number (cs : List Char)
  | quoted (escaped : Bool) (cs : List Char)

/-- A scan: its mode and the tokens so far, back to front. -/
structure Scan where
  mode : Scan.Mode
  tokens : List Token

namespace Scan

/-- Before the first character. -/
def start : Scan :=
  ⟨.between, []⟩

/-- A character that a number may hold. -/
def isNumberChar (c : Char) : Bool :=
  c.isDigit || c = '-' || c = '+' || c = '.' || c = 'e' || c = 'E'

/-- The blanks of JSON are four. -/
def isSpace (c : Char) : Bool :=
  c = ' ' || c = '\t' || c = '\n' || c = '\x0d'

/-- A character at which no token is open. -/
def stepBetween (tokens : List Token) (c : Char) : Option Scan :=
  if isSpace c then some ⟨.between, tokens⟩
  else if c = '[' then some ⟨.between, .arrayStart :: tokens⟩
  else if c = ']' then some ⟨.between, .arrayEnd :: tokens⟩
  else if c = '\x7b' then some ⟨.between, .objectStart :: tokens⟩
  else if c = '\x7d' then some ⟨.between, .objectEnd :: tokens⟩
  else if c = ',' then some ⟨.between, .comma :: tokens⟩
  else if c = ':' then some ⟨.between, .colon :: tokens⟩
  else if c = '"' then some ⟨.quoted false [], tokens⟩
  else if c = '-' || c.isDigit then some ⟨.number [c], tokens⟩
  else if c.isAlpha then some ⟨.word [c], tokens⟩
  else none

/-- The tokens once the open one has ended. -/
def close (s : Scan) : Option (List Token) :=
  match s.mode with
  | .between => some s.tokens
  | .word cs => (Token.ofWord? cs.reverse).map (· :: s.tokens)
  | .number cs => (Token.ofNumber? cs.reverse).map (· :: s.tokens)
  | .quoted _ _ => none

/-- One more character. -/
def step (s : Scan) (c : Char) : Option Scan :=
  match s.mode with
  | .between => stepBetween s.tokens c
  | .word cs =>
      if c.isAlpha then some { s with mode := .word (c :: cs) }
      else s.close.bind (stepBetween · c)
  | .number cs =>
      if isNumberChar c then some { s with mode := .number (c :: cs) }
      else s.close.bind (stepBetween · c)
  | .quoted true cs => some { s with mode := .quoted false (c :: cs) }
  | .quoted false cs =>
      if c = '\\' then some { s with mode := .quoted true (c :: cs) }
      else if c = '"' then
        (Token.ofQuoted? cs.reverse).map fun t => ⟨.between, t :: s.tokens⟩
      else if c.toNat < 0x20 then none
      else some { s with mode := .quoted false (c :: cs) }

end Scan

/-- The tokens of a text. -/
def tokens? (text : String) : Option (List Token) := do
  let s ← text.toList.foldlM Scan.step Scan.start
  return (← s.close).reverse

end SqlPrinter.Json
