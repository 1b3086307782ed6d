/-
A writer: the text so far and the counters of its parameters.  Several
documents can be written into one writer; the text only ever grows, and the
parameters are counted through.
-/
import SqlPrinter.Doc
import SqlPrinter.Fragments
import SqlPrinter.Ident

namespace SqlPrinter

/-- How many parameters have been printed. -/
structure Counters where
  /-- The number of the next numbered parameter. -/
  next : UInt64
  /-- The question marks so far.  Each is a character of some text, so there are
  never as many as a machine word can count. -/
  positional : Nat

/-- Before the first parameter. -/
def Counters.start : Counters :=
  ⟨1, 0⟩

/-- The state of a writer. -/
structure Writer where
  buffer : String
  counters : Counters
  placeholders : PlaceholderStyle

namespace Writer

/-- A writer that has written nothing. -/
def fresh (placeholders : PlaceholderStyle) : Writer :=
  ⟨"", .start, placeholders⟩

/-- Add a text. -/
def push (w : Writer) (s : String) : Writer :=
  { w with buffer := w.buffer ++ s }

/-- Add a question mark and count it. -/
def pushQuestion (w : Writer) : Writer :=
  { w.push "?" with counters :=
      { w.counters with positional := w.counters.positional + 1 } }

/-- Add the next parameter in the style of the writer. -/
def pushPlaceholder (w : Writer) : Writer :=
  match w.placeholders with
  | .question => w.pushQuestion
  | .numbered =>
      { w.push ("$" ++ toString w.counters.next.toNat) with
        counters := { w.counters with next := w.counters.next + 1 } }

/-- Do something that leaves text at the end, and split that text off at the
place where the text ended before: it is handed over if all went well, and it is
gone if not. -/
def capture (w : Writer) (act : Writer → Option Error × Writer) :
    Except Error String × Writer :=
  let start := w.buffer.length
  let done := act w
  let text := done.2.buffer.toList
  ((match done.1 with
    | some e => .error e
    | none => .ok (String.ofList (text.drop start))),
    { done.2 with buffer := String.ofList (text.take start) })

/-- Go on with the text that was handed over, if there is one. -/
def andThen (captured : Except Error String × Writer)
    (next : String → Writer → Option Error × Writer) : Option Error × Writer :=
  match captured with
  | (.ok text, w) => next text w
  | (.error e, w) => (some e, w)

/-- Write a document at the end of the text.  What a document prints before it
fails stays written, but for the parts that are captured. -/
def write (settings : Settings) : Writer → Doc → Option Error × Writer
  | w, .empty => (none, w)
  | w, .text s => (none, w.push s)
  | w, .verbatim s => (none, w.push s)
  | w, .name s => (none, w.push (Ident.quote settings s))
  | w, .string s => (none, w.push (Quoted.string s))
  | w, .placeholder => (none, w.pushPlaceholder)
  | w, .question => (none, w.pushQuestion)
  | w, .fail e => (some e, w)
  | w, .append first second =>
      match write settings w first with
      | (none, w) => write settings w second
      | (some e, w) => (some e, w)
  | w, .isolated d =>
      andThen (w.capture (write settings · d)) fun text w => (none, w.push text)
  | w, .beside separator first second =>
      andThen (w.capture (write settings · first)) fun text w =>
        andThen (w.capture (write settings · second)) fun text' w =>
          (none, w.push ((Fragments.ofList [text, text']).join separator))
  | w, .twice lead between part onQuestion =>
      let before := w.counters.positional
      andThen (w.capture (write settings · part)) fun text w =>
        if w.counters.positional = before then
          (none, w.push (lead ++ text ++ between ++ text))
        else (some onQuestion, w)

end Writer

/-- The text of a document that is printed on its own, or the fault in it. -/
def Doc.print (settings : Settings) (d : Doc) : Except Error String :=
  match (Writer.fresh settings.placeholders).write settings d with
  | (none, w) => .ok w.buffer
  | (some e, _) => .error e

/-- A step in the use of a writer. -/
inductive Writer.Op where
  | push (s : String)
  | pushChar (c : Char)
  | pushNumber (n : UInt64)
  /-- Add a separator, except before the item with the number zero. -/
  | separate (item : Nat) (separator : String)
  | placeholder
  | question
  | setNext (n : UInt64)
  | setPlaceholders (placeholders : PlaceholderStyle)
  /-- Write a document. -/
  | write (d : Doc)
  /-- Hand over the text of a document without writing it. -/
  | textOf (d : Doc)
  /-- Hand over the text of some steps without writing it. -/
  | capture (ops : List Op)
  /-- A step that could not be read. -/
  | fail (e : Error)

namespace Writer

/-- The answer of a step that hands nothing over. -/
def written : Option Error × Writer → Except Error (Option String) × Writer
  | (none, w) => (.ok none, w)
  | (some e, w) => (.error e, w)

@[simp] theorem written_snd (r : Option Error × Writer) : (written r).2 = r.2 := by
  rcases r with ⟨_ | _, _⟩ <;> rfl

/-- The answer of a step that hands a text over. -/
def handedOver :
    Except Error String × Writer → Except Error (Option String) × Writer
  | (answer, w) => (answer.map some, w)

@[simp] theorem handedOver_snd (r : Except Error String × Writer) :
    (handedOver r).2 = r.2 := rfl

mutual

/-- Take one step.  The answer is a text, if the step hands one over. -/
def step (settings : Settings) : Op → Writer → Except Error (Option String) × Writer
  | .push s, w => (.ok none, w.push s)
  | .pushChar c, w => (.ok none, w.push (String.singleton c))
  | .pushNumber n, w => (.ok none, w.push (toString n.toNat))
  | .separate item separator, w =>
      (.ok none, if item = 0 then w else w.push separator)
  | .placeholder, w => (.ok none, w.pushPlaceholder)
  | .question, w => (.ok none, w.pushQuestion)
  | .setNext n, w =>
      (.ok none, { w with counters := { w.counters with next := n } })
  | .setPlaceholders placeholders, w => (.ok none, { w with placeholders })
  | .write d, w => written (w.write settings d)
  | .textOf d, w => handedOver (w.capture (·.write settings d))
  | .capture ops, w => handedOver (w.capture (steps settings ops))
  | .fail e, w => (.error e, w)

/-- Take steps until one fails. -/
def steps (settings : Settings) : List Op → Writer → Option Error × Writer
  | [], w => (none, w)
  | op :: ops, w =>
      match step settings op w with
      | (.ok _, w) => steps settings ops w
      | (.error e, w) => (some e, w)

end

/-- Take all steps, whether or not one fails, and note the answer of each with
the state of the writer after it. -/
def session (settings : Settings) : List Op → Writer →
    List (Except Error (Option String) × Writer) × Writer
  | [], w => ([], w)
  | op :: ops, w =>
      let answer := step settings op w
      let (answers, last) := session settings ops answer.2
      (answer :: answers, last)

end Writer

end SqlPrinter
