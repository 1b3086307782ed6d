/-
Reading operators.  An operator between operands is known by its words, whatever
their letter case and the blanks between them; an operator before its operand is one
word with any blanks around it.  What is not known is kept as it was given, by the
operator itself or by the message of the fault.
-/
import Mathlib.Data.List.TakeWhile
import SqlPrinter.Proofs.Delimited
import SqlPrinter.Proofs.Effect
import SqlPrinter.Proofs.Form.Canonical
import SqlPrinter.Proofs.Form.Leaf

namespace SqlPrinter

namespace Text

/-! ## Words -/

/-- Nothing but blanks, or nothing at all. -/
def IsGap (cs : List Char) : Prop :=
  ∀ c ∈ cs, isBlank c = true

/-- Some characters, none of them blank. -/
structure IsWord (cs : List Char) : Prop where
  ne_nil : cs ≠ []
  not_isBlank : ∀ c ∈ cs, isBlank c = false

/-- A text has some words in order: between two of them there are blanks, and there
may be blanks at its ends. -/
inductive HasWords : List (List Char) → List Char → Prop
  | gap {cs : List Char} (h : IsGap cs) : HasWords [] cs
  | word {before w rest : List Char} {ws : List (List Char)}
      (hbefore : IsGap before)
      (hw : IsWord w) (hstop : Starts (isBlank · = true) rest)
        (hrest : HasWords ws rest) :
      HasWords (w :: ws) (before ++ w ++ rest)

variable {cs gap w rest : List Char} {ws pieces : List (List Char)} {s t : String}

/-- The words that a text is cut into. -/
def cutWords (cs : List Char) : List (List Char) :=
  (cutAtBlanks cs).filter (· ≠ [])

theorem cutWords_gap_append (hgap : IsGap gap) (cs : List Char) :
    cutWords (gap ++ cs) = cutWords cs := by
  induction gap with
  | nil => rfl
  | cons c gap ih =>
      have hc : isBlank c = true := hgap c List.mem_cons_self
      have hrest := ih fun d hd => hgap d (List.mem_cons_of_mem c hd)
      simpa [cutWords, cutAtBlanks, hc] using hrest

theorem exists_cutAtBlanks_of_starts (h : Starts (isBlank · = true) cs) :
    ∃ pieces, cutAtBlanks cs = [] :: pieces := by
  cases cs with
  | nil => exact ⟨[], rfl⟩
  | cons c cs => exact ⟨cutAtBlanks cs, by simp [cutAtBlanks, Starts.cons_iff.1 h]⟩

theorem cutAtBlanks_word_append (hw : ∀ c ∈ w, isBlank c = false)
    (hrest : cutAtBlanks rest = [] :: pieces) :
    cutAtBlanks (w ++ rest) = w :: pieces := by
  induction w with
  | nil => exact hrest
  | cons c w ih =>
      have hc : isBlank c = false := hw c List.mem_cons_self
      have hcut := ih fun d hd => hw d (List.mem_cons_of_mem c hd)
      simp [cutAtBlanks, hc, hcut]

theorem HasWords.cutWords_eq (h : HasWords ws cs) : cutWords cs = ws := by
  induction h with
  | gap h => simpa [cutWords, cutAtBlanks] using cutWords_gap_append h []
  | @word before w rest ws hbefore hw hstop hrest ih =>
      obtain ⟨pieces, hpieces⟩ := exists_cutAtBlanks_of_starts hstop
      have hws : pieces.filter (· ≠ []) = ws := by
        simpa [cutWords, hpieces] using ih
      rw [List.append_assoc, cutWords_gap_append hbefore]
      simpa [cutWords, cutAtBlanks_word_append hw.not_isBlank hpieces, hw.ne_nil]
        using hws

theorem HasWords.unique {ws' : List (List Char)} (h : HasWords ws cs)
    (h' : HasWords ws' cs) : ws = ws' :=
  h.cutWords_eq.symm.trans h'.cutWords_eq

theorem HasWords.cons_blank {b : Char} (hb : isBlank b = true)
    (h : HasWords ws cs) : HasWords ws (b :: cs) := by
  cases h with
  | gap h => exact .gap (List.forall_mem_cons.2 ⟨hb, h⟩)
  | word hbefore hw hstop hrest =>
      exact .word (List.forall_mem_cons.2 ⟨hb, hbefore⟩) hw hstop hrest

/-- A text may begin with a word. -/
theorem HasWords.cons_word (hw : IsWord w) (hstop : Starts (isBlank · = true) rest)
    (h : HasWords ws rest) : HasWords (w :: ws) (w ++ rest) := by
  have hword : HasWords (w :: ws) ([] ++ w ++ rest) := .word nofun hw hstop h
  rwa [List.nil_append] at hword

theorem IsWord.hasWords (hw : IsWord w) : HasWords [w] w := by
  simpa using HasWords.cons_word hw .nil (.gap nofun)

/-- A character that is not blank is a word of its own or the first
one of a word. -/
theorem HasWords.exists_cons {c : Char} (hc : isBlank c = false)
    (h : HasWords ws cs) : ∃ ws', HasWords ws' (c :: cs) := by
  have halone (hstop : Starts (isBlank · = true) cs) :
      ∃ ws', HasWords ws' (c :: cs) :=
    ⟨[c] :: ws, .cons_word ⟨List.cons_ne_nil c [], by simpa using hc⟩ hstop h⟩
  cases h with
  | gap h => exact halone fun d hd => h d (List.mem_of_mem_head? hd)
  | @word before w rest ws hbefore hw hstop hrest =>
      cases before with
      | nil =>
          have hlonger : IsWord (c :: w) :=
            ⟨List.cons_ne_nil c w, List.forall_mem_cons.2 ⟨hc, hw.not_isBlank⟩⟩
          exact ⟨(c :: w) :: ws, .cons_word hlonger hstop hrest⟩
      | cons b before =>
          exact halone (Starts.cons_iff.2 (hbefore b List.mem_cons_self))

theorem exists_hasWords (cs : List Char) : ∃ ws, HasWords ws cs := by
  induction cs with
  | nil => exact ⟨[], .gap nofun⟩
  | cons c cs ih =>
      obtain ⟨ws, hws⟩ := ih
      cases hc : isBlank c with
      | true => exact ⟨ws, hws.cons_blank hc⟩
      | false => exact hws.exists_cons hc

theorem hasWords_cutWords (cs : List Char) : HasWords (cutWords cs) cs := by
  obtain ⟨ws, hws⟩ := exists_hasWords cs
  exact hws.cutWords_eq.symm ▸ hws

theorem HasWords.forall_isWord (h : HasWords ws cs) : ∀ w ∈ ws, IsWord w := by
  induction h with
  | gap => nofun
  | word _ hw _ _ ih => exact List.forall_mem_cons.2 ⟨hw, ih⟩

/-- Words with one space between two of them are words of the text
that they make. -/
theorem hasWords_intercalate (hws : ∀ w ∈ ws, IsWord w) :
    HasWords ws ([' '].intercalate ws) := by
  induction ws with
  | nil => exact .gap nofun
  | cons w ws ih =>
      obtain ⟨hw, hrest⟩ := List.forall_mem_cons.1 hws
      cases ws with
      | nil => simpa using hw.hasWords
      | cons w' ws =>
          have hspaced := (ih hrest).cons_blank (b := ' ') rfl
          simpa [List.intercalate_cons_cons] using
            HasWords.cons_word hw (Starts.cons_iff.2 rfl) hspaced

theorem toList_collapse (h : HasWords ws s.toList) :
    (collapse s).toList = [' '].intercalate ws := by
  have hwords : words s = (cutWords s.toList).map String.ofList := rfl
  simp [collapse, hwords, h.cutWords_eq, Function.comp_def]

/-- Collapsing a text keeps its words. -/
theorem HasWords.collapse (h : HasWords ws s.toList) :
    HasWords ws (collapse s).toList :=
  toList_collapse h ▸ hasWords_intercalate h.forall_isWord

/-! ## Letter case -/

theorem isBlank_toUpper (c : Char) : isBlank c.toUpper = isBlank c := by
  rcases toUpper_eq_or_toNat c with hsame | ⟨hlower, hupper⟩
  · rw [hsame]
  · rw [Bool.eq_iff_iff]
    simp [isBlank]
    omega

/-- The words of a text in upper case are its words in upper case. -/
theorem HasWords.map_toUpper (h : HasWords ws cs) :
    HasWords (ws.map (·.map Char.toUpper)) (cs.map Char.toUpper) := by
  induction h with
  | gap h => exact .gap (by simpa [IsGap, isBlank_toUpper] using h)
  | word hbefore hw hstop _ ih =>
      have hword : IsWord (List.map Char.toUpper _) :=
        ⟨by simpa using hw.ne_nil, by simpa [isBlank_toUpper] using hw.not_isBlank⟩
      simpa using HasWords.word
        (by simpa [IsGap, isBlank_toUpper] using hbefore) hword
        (by simpa [Starts, isBlank_toUpper] using hstop) ih

theorem HasWords.toUpper (h : HasWords ws s.toList) :
    HasWords (ws.map (·.map Char.toUpper)) s.toUpper.toList := by
  simpa [toList_toUpper] using h.map_toUpper

/-- Two texts have the same words in the same order, but for letter case. -/
def SpelledAlike (s t : String) : Prop :=
  ∃ ws, HasWords ws s.toUpper.toList ∧ HasWords ws t.toUpper.toList

theorem map_intercalate (f : Char → Char) (separator : List Char)
    (ws : List (List Char)) :
    (separator.intercalate ws).map f =
      (separator.map f).intercalate (ws.map (·.map f)) := by
  induction ws with
  | nil => rfl
  | cons w ws ih => cases ws <;> simp_all [List.intercalate_cons_cons]

theorem toList_toUpper_collapse (h : HasWords ws s.toList) :
    (collapse s).toUpper.toList =
      [' '].intercalate (ws.map (·.map Char.toUpper)) := by
  rw [toList_toUpper, toList_collapse h, map_intercalate]
  rfl

theorem toUpper_collapse_eq_iff :
    (collapse s).toUpper = (collapse t).toUpper ↔ SpelledAlike s t := by
  have hs := hasWords_cutWords s.toList
  have ht := hasWords_cutWords t.toList
  constructor
  · intro h
    have hsame := hs.collapse.toUpper
    rw [h] at hsame
    exact ⟨_, hs.toUpper, hsame.unique ht.collapse.toUpper ▸ ht.toUpper⟩
  · rintro ⟨us, hus, hus'⟩
    rw [← String.toList_inj, toList_toUpper_collapse hs, toList_toUpper_collapse ht,
      hs.toUpper.unique hus, ht.toUpper.unique hus']

/-! ## The ends of a text -/

/-- Blanks before a word are dropped, and nothing else is. -/
theorem dropWhile_gap_word (hgap : IsGap gap) (hw : IsWord w) (rest : List Char) :
    (gap ++ w ++ rest).dropWhile isBlank = w ++ rest := by
  obtain ⟨c, cs, rfl⟩ := List.exists_cons_of_ne_nil hw.ne_nil
  have hc : isBlank c = false := hw.not_isBlank c List.mem_cons_self
  rw [List.append_assoc, List.dropWhile_append_of_pos hgap, List.cons_append,
    List.dropWhile_cons_of_neg (by simp [hc])]

/-- What is trimmed off a text are blanks. -/
theorem exists_gaps (s : String) :
    ∃ before after, IsGap before ∧ IsGap after ∧
      s.toList = before ++ (trim s).toList ++ after := by
  refine ⟨s.toList.takeWhile isBlank,
    ((s.toList.dropWhile isBlank).reverse.takeWhile isBlank).reverse,
    fun _ => List.mem_takeWhile_imp,
    fun c hc => List.mem_takeWhile_imp (List.mem_reverse.1 hc), ?_⟩
  rw [trim, String.toList_ofList, List.append_assoc, ← List.reverse_append,
    List.takeWhile_append_dropWhile, List.reverse_reverse,
    List.takeWhile_append_dropWhile]

/-- All blanks around a word are trimmed off. -/
theorem toList_trim {before after : List Char} (hbefore : IsGap before)
    (hw : IsWord w) (hafter : IsGap after) (hs : s.toList = before ++ w ++ after) :
    (trim s).toList = w := by
  have hw' : IsWord w.reverse :=
    ⟨by simpa using hw.ne_nil, fun c hc => hw.not_isBlank c (List.mem_reverse.1 hc)⟩
  have hafter' : IsGap after.reverse := fun c hc => hafter c (List.mem_reverse.1 hc)
  have hend := dropWhile_gap_word hafter' hw' []
  rw [trim, String.toList_ofList, hs, dropWhile_gap_word hbefore hw,
    List.reverse_append]
  simpa using congrArg List.reverse hend

/-- A text is trimmed to a word exactly if this is its only word. -/
theorem trim_eq_iff {u : String} (hu : IsWord u.toList) :
    trim s = u ↔ HasWords [u.toList] s.toList := by
  constructor
  · rintro rfl
    obtain ⟨before, after, hbefore, hafter, hs⟩ := exists_gaps s
    rw [hs]
    exact .word hbefore hu (fun c hc => hafter c (List.mem_of_mem_head? hc))
      (.gap hafter)
  · intro h
    generalize hs : s.toList = cs at h
    cases h with
    | word hbefore _ _ hrest =>
        cases hrest with
        | gap hafter => exact String.toList_inj.1 (toList_trim hbefore hu hafter hs)

theorem toUpper_trim (s : String) : (trim s).toUpper = trim s.toUpper := by
  have hblank : isBlank ∘ Char.toUpper = isBlank := funext isBlank_toUpper
  simp [← String.toList_inj, trim, toList_toUpper, ← List.map_reverse,
    List.dropWhile_map, hblank]

/-- A text is trimmed to a word, but for letter case, exactly if it is
spelled like it. -/
theorem toUpper_trim_eq_iff {u : String} (hu : IsWord u.toList)
    (hupper : u.toUpper = u) : (trim s).toUpper = u ↔ SpelledAlike s u := by
  rw [toUpper_trim, trim_eq_iff hu, SpelledAlike, hupper]
  exact ⟨fun h => ⟨_, h, hu.hasWords⟩,
    fun ⟨ws, hs, hws⟩ => hws.unique hu.hasWords ▸ hs⟩

end Text

/-! ## Tables of texts -/

/-- In a table where each entry is found by its key, exactly the
entries are found. -/
theorem lookup_eq_some_iff_mem {α : Type} {table : List (String × α)}
    (hself : ∀ p ∈ table, table.lookup p.1 = some p.2) {key : String} {a : α} :
    table.lookup key = some a ↔ (key, a) ∈ table := by
  refine ⟨fun h => ?_, hself (key, a)⟩
  obtain ⟨before, after, htable, -⟩ := List.lookup_eq_some_iff.1 h
  exact htable ▸ List.mem_append_right before List.mem_cons_self

/-! ## Operators between operands -/

namespace StandardOp

variable {s key : String} {op : StandardOp}

/-- The table that is read and the one that is printed agree, but for `MOD`. -/
theorem mem_spellings_iff :
    (key, op) ∈ spellings ↔ key = op.text ∨ key = "MOD" ∧ op = .modulo := by
  have hread : ∀ p ∈ spellings, p.1 = p.2.text ∨ p.1 = "MOD" ∧
      p.2 = .modulo := by decide
  refine ⟨hread (key, op), ?_⟩
  rintro (rfl | ⟨rfl, rfl⟩)
  · cases op <;> decide
  · decide

/-- A spelling is known by what is spelled like it. -/
theorem toUpper_collapse_eq_iff (hkey : (key, op) ∈ spellings) :
    (Text.collapse s).toUpper = key ↔ Text.SpelledAlike s key := by
  have hfixed : ∀ p ∈ spellings, (Text.collapse p.1).toUpper = p.1 := by
    decide +kernel
  rw [← Text.toUpper_collapse_eq_iff, hfixed (key, op) hkey]

theorem ofText?_eq_some_iff :
    ofText? s = some op ↔
      Text.SpelledAlike s op.text ∨ op = .modulo ∧ Text.SpelledAlike s "MOD" := by
  have htext : (op.text, op) ∈ spellings := mem_spellings_iff.2 (.inl rfl)
  have hmod : ("MOD", modulo) ∈ spellings := mem_spellings_iff.2 (.inr ⟨rfl, rfl⟩)
  have hself : ∀ p ∈ spellings, spellings.lookup p.1 = some p.2 := by decide +kernel
  rw [ofText?, lookup_eq_some_iff_mem hself, mem_spellings_iff,
    toUpper_collapse_eq_iff htext, toUpper_collapse_eq_iff hmod,
    and_comm (b := op = modulo)]

end StandardOp

namespace BinaryOp

variable {s : String} {op : StandardOp}

/-- A way to read operators that looks at their words only, and that keeps what it
does not know. -/
structure IsLenient (read : String → BinaryOp) : Prop where
  /-- Texts that are the same but for letter case and blanks are both read as the
  same standard operator, or neither of them as any. -/
  alike : ∀ s t, (Text.collapse s).toUpper = (Text.collapse t).toUpper →
    ∀ op, read s = .standard op ↔ read t = .standard op
  /-- A standard operator has the words that it is printed with; `MOD` is the only
  second spelling. -/
  standard_iff : ∀ s op, read s = .standard op ↔
    Text.SpelledAlike s op.text ∨ op = .modulo ∧ Text.SpelledAlike s "MOD"
  /-- Any other operator keeps its spelling. -/
  other : ∀ s, (∀ op, read s ≠ .standard op) → read s = .other s
  /-- What an operator is printed as is read as this operator. -/
  again : ∀ s, read (read s).text = read s

theorem ofText_eq_standard_iff :
    ofText s = .standard op ↔ StandardOp.ofText? s = some op := by
  unfold ofText
  cases StandardOp.ofText? s <;> simp

theorem isLenient_ofText : IsLenient ofText where
  alike s t h op := by
    rw [ofText_eq_standard_iff, ofText_eq_standard_iff, StandardOp.ofText?,
      StandardOp.ofText?, h]
  standard_iff s op := ofText_eq_standard_iff.trans StandardOp.ofText?_eq_some_iff
  other s h := by
    have hnone : StandardOp.ofText? s = none :=
      Option.eq_none_iff_forall_ne_some.2 fun op hop =>
        h op (ofText_eq_standard_iff.2 hop)
    rw [ofText, hnone]
  again s := ofText_text (isCanonical_ofText s)

theorem doc_print (op : BinaryOp) (settings : Settings) :
    op.doc.print settings = .ok op.text := by
  cases op <;> rw [Doc.print_eq] <;> rfl

end BinaryOp

/-! ## Operators before an operand -/

namespace UnaryOp

variable {s : String} {op : UnaryOp}

/-- A way to read operators that are a single word, and that reports
what is not one. -/
structure IsLenient (read : String → Except Fault UnaryOp) : Prop where
  /-- An operator is read from its text in any letter case with blanks around it. -/
  ok_iff : ∀ s op, read s = .ok op ↔ (Text.trim s).toUpper = op.text
  /-- No word but the one that the operator is printed as is read as it. -/
  spelled : ∀ s op, read s = .ok op ↔ Text.SpelledAlike s op.text
  /-- What is no operator is reported as it was given. -/
  error : ∀ s, (∀ op : UnaryOp, (Text.trim s).toUpper ≠ op.text) →
    ∃ fault, read s = .error fault ∧
      fault.message? = some ("unknown unary operator: " ++ s)

/-- The table that is read and the one that is printed agree. -/
theorem mem_spellings_iff {key : String} :
    (key, op) ∈ spellings ↔ key = op.text := by
  have hread : ∀ p ∈ spellings, p.1 = p.2.text := by decide
  refine ⟨hread (key, op), ?_⟩
  rintro rfl
  cases op <;> decide

theorem ofText?_eq_some_iff :
    ofText? s = some op ↔ (Text.trim s).toUpper = op.text := by
  have hself : ∀ p ∈ spellings, spellings.lookup p.1 = some p.2 := by decide +kernel
  rw [ofText?, lookup_eq_some_iff_mem hself, mem_spellings_iff]

theorem isWord_text (op : UnaryOp) : Text.IsWord op.text.toList where
  ne_nil := by cases op <;> decide +kernel
  not_isBlank := by
    cases op <;> simp only [text, String.reduceToList, List.mem_cons,
      List.not_mem_nil, or_false, forall_eq_or_imp, forall_eq] <;> decide

theorem toUpper_text (op : UnaryOp) : op.text.toUpper = op.text := by
  cases op <;> decide +kernel

theorem read_of_some (inVariant : Bool) (h : ofText? s = some op) :
    read inVariant (.string s) = .ok op := by
  simp [read, Form.Reader.text, bind, Except.bind, h]

theorem read_of_none (inVariant : Bool) (h : ofText? s = none) :
    read inVariant (.string s) = .error (.unknownUnary s) := by
  simp [read, Form.Reader.text, bind, Except.bind, h]

theorem isLenient_read (inVariant : Bool) :
    IsLenient fun s => read inVariant (.string s) := by
  have hok (s : String) (op : UnaryOp) :
      read inVariant (.string s) = .ok op ↔ (Text.trim s).toUpper = op.text := by
    rw [← ofText?_eq_some_iff]
    cases h : ofText? s with
    | none => simp [read_of_none inVariant h]
    | some found => simp [read_of_some inVariant h]
  refine ⟨hok, fun s op => ?_, fun s h => ⟨.unknownUnary s, ?_, rfl⟩⟩
  · exact (hok s op).trans (Text.toUpper_trim_eq_iff op.isWord_text op.toUpper_text)
  · exact read_of_none inVariant <|
      Option.eq_none_iff_forall_ne_some.2 fun op hop =>
        h op (ofText?_eq_some_iff.1 hop)

end UnaryOp

/-- Operators are read whatever their letter case and spacing, and they are written
and printed as the text that they are read from again. -/
theorem operators_lenient :
    BinaryOp.IsLenient BinaryOp.ofText ∧
      (∀ op : BinaryOp, op.toJson = .string op.text ∧
        ∀ settings, op.doc.print settings = .ok op.text) ∧
      ∀ inVariant, UnaryOp.IsLenient fun s => UnaryOp.read inVariant (.string s) :=
  ⟨BinaryOp.isLenient_ofText, fun op => ⟨rfl, op.doc_print⟩, UnaryOp.isLenient_read⟩

/-- A space that does not break a line is a blank as well. -/
theorem operators_lenient_notLike :
    (Text.collapse "\u00a0not\t\tLike ").toUpper =
        (Text.collapse "NOT LIKE").toUpper ∧
      BinaryOp.ofText "NOT LIKE" = .standard .notLike ∧
      BinaryOp.ofText "\u00a0not\t\tLike " = .standard .notLike := by
  have hblanks : Text.words "\u00a0not\t\tLike " = ["not", "Like"] := by
    have hchars : "\u00a0not\t\tLike ".toList =
        ['\u00a0', 'n', 'o', 't', '\t', '\t', 'L', 'i', 'k', 'e', ' '] :=
      String.toList_ofList
    rw [Text.words, hchars]
    decide
  have hspace : Text.words "NOT LIKE" = ["NOT", "LIKE"] := by
    have hchars : "NOT LIKE".toList = ['N', 'O', 'T', ' ', 'L', 'I', 'K', 'E'] :=
      String.toList_ofList
    rw [Text.words, hchars]
    decide
  have hcollapse : (Text.collapse "\u00a0not\t\tLike ").toUpper =
      (Text.collapse "NOT LIKE").toUpper := by
    simp [Text.collapse, hblanks, hspace, ← String.toList_inj,
      Text.toList_toUpper]
  have hplain : BinaryOp.ofText "NOT LIKE" = .standard .notLike := by decide +kernel
  exact ⟨hcollapse, hplain,
    (operators_lenient.1.alike _ _ hcollapse .notLike).2 hplain⟩

/-- Blanks inside a word do count. -/
example : BinaryOp.ofText "I LIKE" = .other "I LIKE" := by decide +kernel

end SqlPrinter
