/-
Printed texts are closed and balanced.  A reader of the text comes out of every
quoted token, and outside of tokens every parenthesis that is opened is closed,
whatever stands in names and strings.
-/
import SqlPrinter.Proofs.Language

namespace SqlPrinter

/-! ## Parentheses -/

/-- How deep a reader stands in parentheses after some characters, unless it finds
one that closes more than has been opened. -/
def nesting : Nat → List Char → Option Nat
  | depth, [] => some depth
  | depth, '(' :: cs => nesting (depth + 1) cs
  | 0, ')' :: _ => none
  | depth + 1, ')' :: cs => nesting depth cs
  | depth, _ :: cs => nesting depth cs

/-- Nesting is found piece by piece: the depth that one piece ends at is the one
that the next starts from. -/
theorem nesting_append (depth : Nat) (xs ys : List Char) :
    nesting depth (xs ++ ys) = (nesting depth xs).bind fun deeper =>
      nesting deeper ys := by
  induction depth, xs using nesting.induct with
  | case1 depth => rfl
  | case2 depth xs ih => simpa [nesting] using ih
  | case3 xs => rfl
  | case4 depth xs ih => simpa [nesting] using ih
  | case5 depth c xs hopen hclosed hclose ih =>
      simpa [nesting, hopen, hclosed, hclose] using ih

/-- A character that is no parenthesis. -/
def IsLevel (c : Char) : Prop :=
  c ≠ '(' ∧ c ≠ ')'

/-- Characters that are no parentheses leave the depth alone. -/
theorem nesting_of_level {cs : List Char} (hcs : ∀ c ∈ cs, IsLevel c)
    (depth : Nat) : nesting depth cs = some depth := by
  induction cs with
  | nil => rfl
  | cons c cs ih =>
      obtain ⟨hopen, hclose⟩ := hcs c List.mem_cons_self
      have hrest := ih fun d hd => hcs d (List.mem_cons_of_mem c hd)
      cases depth <;> simp [nesting, hclose, hrest]

namespace QuoteMarks

variable {marks : QuoteMarks}

/-- A quotation mark is no parenthesis. -/
theorem IsMark.isLevel {c : Char} (hc : marks.IsMark c) : IsLevel c := by
  have hnone : (allMarks.any fun m => m = '(' ∨ m = ')') = false := rfl
  simpa [IsLevel, not_or] using List.any_eq_false.1 hnone c hc.mem_allMarks

/-! ## Reading from one depth to another -/

section Read

variable {p : Place} {cs : List Char} (hp : marks.IsFree p)

include hp

/-- Outside of tokens nothing but marks is still to be kept. -/
theorem nesting_rest_append (depth : Nat) :
    nesting depth (p.rest ++ cs) = nesting depth cs := by
  have hlevel : ∀ c ∈ p.rest, IsLevel c := by
    cases p with
    | outside => simp [Place.rest]
    | inside _ => exact hp.elim
    | closed closing =>
        have hmark : marks.IsMark closing :=
          hp.elim Or.inl fun h => Or.inr (Or.inr h)
        simpa [Place.rest] using hmark.isLevel
  rw [nesting_append, nesting_of_level hlevel]
  rfl

/-- A character that is no mark is kept, after what is still to be kept. -/
theorem readChar_of_not_isMark {c : Char} (hc : ¬marks.IsMark c) :
    marks.readChar p c = (p.rest ++ [c], .outside) := by
  have hplace := readChar_plain hp hc
  cases p with
  | outside => exact Prod.ext rfl hplace
  | inside _ => exact hp.elim
  | closed before =>
      have hne : c ≠ before := by
        rintro rfl
        exact hc (hp.elim Or.inl fun h => Or.inr (Or.inr h))
      refine Prod.ext ?_ hplace
      simp [readChar, hne, Place.rest]

/-- Of a text without marks all parentheses are kept. -/
theorem nesting_read (hcs : ∀ c ∈ cs, ¬marks.IsMark c) (depth : Nat) :
    nesting depth (marks.read p cs).1 = nesting depth cs := by
  induction cs generalizing p depth with
  | nil => rfl
  | cons c cs ih =>
      have hread : (marks.read p (c :: cs)).1 =
          p.rest ++ ([c] ++ (marks.read .outside cs).1) := by
        simp [read, readChar_of_not_isMark hp (hcs c List.mem_cons_self)]
      have houtside : marks.IsFree .outside := trivial
      have hrest := ih houtside fun d hd => hcs d (List.mem_cons_of_mem c hd)
      rw [hread, nesting_rest_append hp, nesting_append, funext hrest,
        ← nesting_append]
      rfl

/-- A mark keeps no parenthesis. -/
theorem nesting_readChar_opening {c closing : Char}
    (hc : marks.closingOf c = some closing) (depth : Nat) :
    nesting depth (marks.readChar p c).1 = some depth := by
  have hmark : marks.IsMark c := by
    by_contra hno
    rw [closingOf_eq_none hno] at hc
    contradiction
  apply nesting_of_level
  cases p with
  | outside => simpa [readChar] using hmark.isLevel
  | inside _ => exact hp.elim
  | closed before =>
      have hbefore : marks.IsMark before :=
        hp.elim Or.inl fun h => Or.inr (Or.inr h)
      by_cases hsame : c = before
      · simp [readChar, hsame]
      · simpa [readChar, hsame] using ⟨hbefore.isLevel, hmark.isLevel⟩

end Read

variable (marks) in
/-- From wherever it stands outside of a token, a reader comes out of all tokens of
a text and from one depth to another. -/
def Leads (s : String) (before after : Nat) : Prop :=
  ∀ p, marks.IsFree p → marks.IsFree (marks.read p s.toList).2 ∧
    nesting before (marks.read p s.toList).1 = some after

namespace Leads

variable {s t : String} {d e f : Nat}

/-- What leads from one place to a second, and from there to a third, may be put
together. -/
theorem append (hs : marks.Leads s d e) (ht : marks.Leads t e f) :
    marks.Leads (s ++ t) d f := by
  intro p hp
  obtain ⟨hfree, hnesting⟩ := hs p hp
  obtain ⟨hfree', hnesting'⟩ := ht _ hfree
  rw [String.toList_append, read_append]
  refine ⟨hfree', ?_⟩
  rw [nesting_append, hnesting]
  exact hnesting'

/-- A text without marks leads where its parentheses do. -/
theorem of_misses (hs : marks.Misses s) (h : nesting d s.toList = some e) :
    marks.Leads s d e := by
  intro p hp
  exact ⟨isFree_read_plain hs hp, (nesting_read hp hs d).trans h⟩

/-- A quoted token leads nowhere, whatever stands in it. -/
theorem wrap {opening closing : Char}
    (hopening : marks.closingOf opening = some closing) (s : String) (d : Nat) :
    marks.Leads (Quoted.wrap opening closing s) d d := by
  intro p hp
  rw [read_wrap hp hopening]
  exact ⟨isFree_closed hopening, nesting_readChar_opening hp hopening d⟩

end Leads

end QuoteMarks

/-! ## Names -/

section Names

variable {s : String}

/-- Letters, digits and underscores are plain. -/
theorem isPlain_of_isSimple (hs : Ident.isSimple s = true) : IsPlain s := by
  have hplain {c : Char} (hc : (c = '_' || c.isAlphanum) = true) :
      isPlainChar c = true :=
    isPlainChar_of (p := fun c => c = '_' || c.isAlphanum) rfl hc
  unfold Ident.isSimple at hs
  rw [IsPlain]
  split at hs
  · exact absurd hs Bool.false_ne_true
  · next c cs heq =>
      rw [Bool.and_eq_true] at hs
      have hfirst : (c = '_' || c.isAlphanum) = true := by
        have halpha := hs.1
        simp only [Char.isAlphanum, Bool.or_eq_true] at halpha ⊢
        exact halpha.elim .inl fun hletter => .inr (.inl hletter)
      rw [heq, List.all_cons, Bool.and_eq_true, List.all_eq_true]
      exact ⟨hplain hfirst, fun d hd => hplain (List.all_eq_true.1 hs.2 d hd)⟩

/-- The special names are plain in upper case. -/
theorem isPlain_of_isSpecial (hs : Ident.isSpecial s = true) :
    IsPlain s.toUpper := by
  have hletter : ∀ c, c.isAlpha = true → isPlainChar c = true := fun c hc =>
    isPlainChar_of (p := Char.isAlpha) rfl hc
  have hplain : ∀ c ∈ s.toList, isPlainChar c = true := by
    rw [Ident.isSpecial, Bool.or_eq_true, decide_eq_true_eq,
      decide_eq_true_eq] at hs
    rcases hs with rfl | hdual
    · exact List.all_eq_true.1 rfl
    · intro c hc
      have hlower : c.toLower ∈ "dual".toList := by
        rw [← hdual, Text.toList_toLower]
        exact List.mem_map_of_mem hc
      exact isPlainChar_of (p := fun c => decide (c.toLower ∈ "dual".toList)) rfl
        (decide_eq_true hlower)
  exact List.all_eq_true.2 (Text.forall_mem_toUpper hletter hplain)

end Names

/-! ## Printed texts -/

/-- The text keeps to its use: one that is printed as it stands has no mark and no
parenthesis, and there are no marks around the names of types. -/
def Node.Leaf.IsBalanced (d : Dialect) : Node.Leaf → Prop
  | .verbatim s => ∀ c ∈ s.toList, ¬d.quoteMarks.IsMark c ∧ IsLevel c
  | .name _ | .string _ => True
  | .mark _ => False

namespace QuoteMarks.Leads

variable {marks : QuoteMarks} {s : String}

/-- A text without marks and parentheses leads back to where it starts. -/
theorem of_level (hs : ∀ c ∈ s.toList, ¬marks.IsMark c ∧ IsLevel c) (d : Nat) :
    marks.Leads s d d :=
  of_misses (fun c hc => (hs c hc).1) (nesting_of_level (fun c hc => (hs c hc).2) d)

theorem not_isMark_of_isPlainChar {c : Char} (hc : isPlainChar c = true) :
    ¬marks.IsMark c ∧ IsLevel c := by
  refine ⟨fun hmark => ?_, ?_, ?_⟩
  · have hnone : allMarks.any isPlainChar = false := rfl
    exact List.any_eq_false.1 hnone c hmark.mem_allMarks hc
  · rintro rfl
    contradiction
  · rintro rfl
    contradiction

/-- Fixed words of a layout change neither the state nor the depth. -/
theorem of_isPlain (hs : IsPlain s) (d : Nat) : marks.Leads s d d :=
  of_level (fun c hc => not_isMark_of_isPlainChar (List.all_eq_true.1 hs c hc)) d

/-- A name is plain or quoted. -/
theorem quote (settings : Settings) (s : String) (d : Nat) :
    settings.dialect.quoteMarks.Leads (Ident.quote settings s) d d := by
  unfold Ident.quote
  dsimp only
  split
  · next hspecial => exact of_isPlain (isPlain_of_isSpecial hspecial) d
  · split
    · next hbare =>
        have hsimple : Ident.isSimple (Ident.folded settings s) = true := by
          unfold Ident.staysBare at hbare
          split at hbare
          · contradiction
          · simp only [Bool.and_eq_true] at hbare
            exact hbare.1.2
        exact of_isPlain (isPlain_of_isSimple hsimple) d
    · exact wrap (closingOf_opening _) _ d

/-- Digits between single quotes are a token after a letter. -/
theorem digits {lead : String} (hlead : IsDigitsLead lead) (hs : marks.Misses s)
    (d : Nat) : marks.Leads (lead ++ s ++ "'") d d := by
  have hencode : Quoted.encode '\x27' s.toList = s.toList :=
    encode_eq_self fun h => hs _ h (Or.inl rfl)
  have htoken (letter : String) (hletter : IsPlain letter) :
      marks.Leads (letter ++ "'" ++ s ++ "'") d d := by
    have hstring : letter ++ "'" ++ s ++ "'" = letter ++ Quoted.string s := by
      rw [← String.toList_inj]
      simp [Quoted.string, Quoted.wrap, hencode]
    rw [hstring]
    exact (of_isPlain hletter d).append (.wrap rfl s d)
  rcases hlead with rfl | rfl
  · exact htoken "X" rfl
  · exact htoken "b" rfl

/-- The brackets of an array type are an empty token in one dialect. -/
theorem dims (d : Nat) : marks.Leads "[]" d d := by
  have hbracket : "[]" = Quoted.wrap '[' ']' "" := by decide
  cases marks with
  | bracket => exact hbracket ▸ .wrap rfl "" d
  | backtick => exact .of_misses (by decide) rfl
  | double => exact .of_misses (by decide) rfl

/-- Parentheses lead down and up again. -/
theorem parens {d : Nat} (hs : marks.Leads s (d + 1) (d + 1)) :
    marks.Leads ("(" ++ s ++ ")") d d := by
  have hopen : marks.Leads "(" d (d + 1) := .of_misses (misses_of_all rfl) rfl
  have hclose : marks.Leads ")" (d + 1) d := .of_misses (misses_of_all rfl) rfl
  exact (hopen.append hs).append hclose

/-- The test of a sort key for null is closed by the words after it. -/
theorem nullsKey {between : String} (hbetween : IsNullsTest between)
    (hs : ∀ d, marks.Leads s d d) (d : Nat) :
    marks.Leads ("(" ++ s ++ between ++ s) d d := by
  have hopen : marks.Leads "(" d (d + 1) := .of_misses (misses_of_all rfl) rfl
  have hclose : marks.Leads between (d + 1) d := by
    rcases hbetween with rfl | rfl
    · exact .of_misses (misses_of_all rfl) rfl
    · exact .of_misses (misses_of_all rfl) rfl
  exact ((hopen.append (hs (d + 1))).append hclose).append (hs d)

/-- A change to upper case makes no marks and no parentheses. -/
theorem toUpper (hs : ∀ c ∈ s.toList, ¬marks.IsMark c ∧ IsLevel c) (d : Nat) :
    marks.Leads s.toUpper d d := by
  refine of_level (Text.forall_mem_toUpper (fun c hc => ?_) hs) d
  exact not_isMark_of_isPlainChar (isPlainChar_of (p := Char.isAlpha) rfl hc)

end QuoteMarks.Leads

/-- Texts that lead out of all tokens and to the depth from which they come. -/
def Language.balanced (settings : Settings) :
    Language settings (Node.Leaf.IsBalanced settings.dialect) where
  Mem _ s := ∀ d, settings.dialect.quoteMarks.Leads s d d
  append hs ht d := (hs d).append (ht d)
  parens hs d := .parens (hs (d + 1))
  nullsKey hbetween hs d := .nullsKey hbetween hs d
  question _ := .of_misses (QuoteMarks.misses_of_all rfl) rfl
  plain hs d := .of_isPlain hs d
  dims d := .dims d
  verbatim hs d := .of_level hs d
  word hs d := .toUpper hs d
  digits hlead hs d := .digits hlead (fun c hc => (hs c hc).1) d
  mark hs := hs.elim
  name _ d := .quote settings _ d
  row d := .quote settings _ d
  string _ d := .wrap rfl _ d

/-- The text ends outside of all quoted tokens, and outside of them no parenthesis
closes more than has been opened and none is left open. -/
structure QuoteMarks.Closes (marks : QuoteMarks) (s : String) : Prop where
  free : marks.IsFree (marks.read .outside s.toList).2
  balanced : nesting 0 (marks.skeleton s).toList = some 0

/-- A text that leads from outside to outside closes whatever it opens. -/
theorem QuoteMarks.Leads.closes {marks : QuoteMarks} {s : String}
    (h : marks.Leads s 0 0) : marks.Closes s := by
  obtain ⟨hfree, hnesting⟩ := h .outside trivial
  refine ⟨hfree, ?_⟩
  rw [skeleton, String.toList_ofList, nesting_append, hnesting,
    ← List.append_nil (Place.rest _)]
  exact nesting_rest_append hfree 0

/-- A printed text is closed and balanced, whatever stands in its names and
strings. -/
theorem Root.render_closes (settings : Settings) (root : Root) {text : String}
    (h : root.node.Every (Node.Leaf.IsBalanced settings.dialect))
    (hok : root.render settings = .ok text) :
    settings.dialect.quoteMarks.Closes text := by
  rw [render_eq_write] at hok
  split at hok
  · contradiction
  · next w hw =>
      obtain rfl : w.buffer = text := Except.ok.inj hok
      have hnone : (root.write settings (.fresh settings.placeholders)).1 =
          none := by rw [hw]
      obtain ⟨s, hs, hmem⟩ := exists_text_of_write (.balanced settings) h hnone
      have hbuffer : w.buffer = s := by
        rw [hw] at hs
        exact hs.trans String.empty_append
      rw [hbuffer]
      exact (hmem 0).closes

/-- The marks and the parentheses in the names and in the value do not open or close
anything. -/
theorem Root.render_closes_deleteWhere :
    let settings := Settings.ofDialect .mysql
    let root := Root.statement (.deleteWhere "x` y(" "it's" "') OR ('1' = '1")
    let text := "DELETE FROM `x`` y(` WHERE `it's` = ''') OR (''1'' = ''1'"
    root.node.Every (Node.Leaf.IsBalanced .mysql) ∧
        root.render settings = .ok text ∧
      QuoteMarks.backtick.Closes text := by
  intro settings root text
  have hevery : root.node.Every (Node.Leaf.IsBalanced .mysql) :=
    Statement.deleteWhere_every trivial trivial trivial
  have hok : root.render settings = .ok text := by decide +kernel
  exact ⟨hevery, hok, render_closes settings root hevery hok⟩

end SqlPrinter
