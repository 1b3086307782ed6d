/-
Reading a quoted token back.  It begins with its opening mark and ends at the first
closing mark that is not doubled; a doubled mark inside stands for one.  What is
written as a token is read as it was, with whatever follows it, unless that goes on
with the closing mark; and nothing is read that has not been written.
-/
import Mathlib.Logic.Function.Basic
import SqlPrinter.Text.Quoted

namespace SqlPrinter.Quoted

/-! ## The reader -/

/-- Read on inside a token: its contents, with one mark for each doubled one, and
what comes after the mark that closes it. -/
def readInside (closing : Char) : List Char → Option (List Char × List Char)
  | [] => none
  | c :: rest =>
      if c = closing then
        match rest with
        | [] => some ([], [])
        | d :: rest =>
            if d = closing then (readInside closing rest).map (Prod.map
              (closing :: ·) id)
            else some ([], d :: rest)
      else (readInside closing rest).map (Prod.map (c :: ·) id)

/-- Read a token at the beginning of a text: its contents, and what follows it. -/
def read? (opening closing : Char) (text : String) : Option (String × String) :=
  match text.toList with
  | [] => none
  | c :: rest =>
      if c = opening then
        (readInside closing rest).map (Prod.map String.ofList String.ofList)
      else none

variable {opening closing : Char} {cs rest text : List Char}

theorem readInside_cons_of_ne {c : Char} (hc : c ≠ closing) :
    readInside closing (c :: rest) =
      (readInside closing rest).map (Prod.map (c :: ·) id) := by
  cases rest <;> simp [readInside, hc]

/-- What has been written inside a token is read up to the mark that closes it. -/
theorem readInside_encode (hrest : closing ∉ rest.head?) :
    readInside closing (encode closing cs ++ closing :: rest) =
      some (cs, rest) := by
  induction cs with
  | nil =>
      cases rest with
      | nil => simp [encode, readInside]
      | cons d rest =>
          have hd : d ≠ closing := fun h => hrest (by simp [h])
          simp [encode, readInside, hd]
  | cons c cs ih =>
      by_cases hc : c = closing
      · simp [encode, readInside, hc, ih]
      · simp [encode, readInside_cons_of_ne, hc, ih]

/-- What is read inside a token has been written there. -/
theorem eq_of_readInside (h : readInside closing text = some (cs, rest)) :
    text = encode closing cs ++ closing :: rest ∧ closing ∉ rest.head? := by
  fun_induction readInside closing text generalizing cs with
  | case1 => contradiction
  | case2 =>
      obtain ⟨rfl, rfl⟩ := Prod.mk.inj (Option.some.inj h)
      exact ⟨rfl, nofun⟩
  | case3 after ih =>
      obtain ⟨⟨ds, rest'⟩, hread, heq⟩ := Option.map_eq_some_iff.1 h
      obtain ⟨rfl, rfl⟩ := Prod.mk.inj heq
      obtain ⟨rfl, hrest⟩ := ih hread
      exact ⟨by simp [encode], hrest⟩
  | case4 d after hd =>
      obtain ⟨rfl, rfl⟩ := Prod.mk.inj (Option.some.inj h)
      exact ⟨rfl, fun hmem => hd (Option.some.inj hmem)⟩
  | case5 c after hc ih =>
      obtain ⟨⟨ds, rest'⟩, hread, heq⟩ := Option.map_eq_some_iff.1 h
      obtain ⟨rfl, rfl⟩ := Prod.mk.inj heq
      obtain ⟨rfl, hrest⟩ := ih hread
      exact ⟨by simp [encode, hc], hrest⟩

/-- A token is read, with what follows it, where it has been written before a text
that does not double its last mark, and nowhere else. -/
theorem read?_eq_some_iff {text s rest : String} :
    read? opening closing text = some (s, rest) ↔
      text = wrap opening closing s ++ rest ∧ closing ∉ rest.toList.head? := by
  constructor
  · intro h
    unfold read? at h
    split at h
    · contradiction
    · next c after htext =>
        split at h
        · next hc =>
            obtain ⟨⟨cs, rest'⟩, hread, heq⟩ := Option.map_eq_some_iff.1 h
            obtain ⟨rfl, rfl⟩ := Prod.mk.inj heq
            obtain ⟨rfl, hrest⟩ := eq_of_readInside hread
            refine ⟨String.toList_inj.1 ?_, by simpa using hrest⟩
            simp [wrap, htext, hc]
        · contradiction
  · rintro ⟨rfl, hrest⟩
    simp [read?, wrap, readInside_encode hrest]

/-! ## Tokens -/

/-- A way to write texts between marks that can be undone wherever they stand. -/
structure IsDecodable (opening closing : Char) (write : String → String) :
    Prop where
  /-- A text is read as a token and a rest exactly if it has been
  written as these. -/
  read?_eq_some_iff : ∀ text s rest, read? opening closing text = some (s, rest) ↔
    text = write s ++ rest ∧ closing ∉ rest.toList.head?
  /-- A token is read as it was, with what follows it. -/
  read?_write : ∀ s rest, closing ∉ rest.toList.head? →
    read? opening closing (write s ++ rest) = some (s, rest)
  /-- No two texts are written alike. -/
  injective : Function.Injective write
  /-- No two texts are written alike even at the beginning of a longer text. -/
  unique : ∀ s s' rest rest', closing ∉ rest.toList.head? →
    closing ∉ rest'.toList.head? → write s ++ rest = write s' ++ rest' → s = s' ∧
      rest = rest'
  /-- No token is the beginning of a longer one, unless its last mark is
  doubled there. -/
  eq_of_extends : ∀ s s' rest, closing ∉ rest.toList.head? →
      write s ++ rest = write s' →
    s = s' ∧ rest = ""

theorem isDecodable_wrap (opening closing : Char) :
    IsDecodable opening closing (wrap opening closing) := by
  have hread (s rest : String) (hrest : closing ∉ rest.toList.head?) :
      read? opening closing (wrap opening closing s ++ rest) = some (s, rest) :=
    Quoted.read?_eq_some_iff.2 ⟨rfl, hrest⟩
  have hunique (s s' rest rest' : String) (hrest : closing ∉ rest.toList.head?)
      (hrest' : closing ∉ rest'.toList.head?)
      (h : wrap opening closing s ++ rest = wrap opening closing s' ++ rest') :
      s = s' ∧ rest = rest' := by
    have hsame := hread s rest hrest
    rw [h, hread s' rest' hrest'] at hsame
    obtain ⟨rfl, rfl⟩ := Prod.mk.inj (Option.some.inj hsame)
    exact ⟨rfl, rfl⟩
  have hextends (s s' rest : String) (hrest : closing ∉ rest.toList.head?)
      (h : wrap opening closing s ++ rest = wrap opening closing s') :
        s = s' ∧ rest = "" :=
    hunique s s' rest "" hrest nofun (by rw [h, String.append_empty])
  have hinjective : Function.Injective (wrap opening closing) := fun s s' h =>
    (hextends s s' "" nofun (by rw [h, String.append_empty])).1
  exact ⟨fun _ _ _ => Quoted.read?_eq_some_iff, hread, hinjective, hunique,
    hextends⟩

/-- String literals, and identifiers in the marks of any dialect, are read back from
the beginning of a text. -/
theorem tokens_decodable :
    IsDecodable '\x27' '\x27' string ∧
      ∀ d : Dialect, IsDecodable d.quoteMarks.opening d.quoteMarks.closing
        (identifier d) :=
  ⟨isDecodable_wrap _ _, fun _ => isDecodable_wrap _ _⟩

/-- A bracket is doubled at the end of a name only, and a dot follows. -/
theorem tokens_decodable_bracket :
    ']' ∉ ".b".toList.head? ∧ identifier .transactSql "[a]" ++ ".b" = "[[a]]].b" ∧
      read? '[' ']' "[[a]]].b" = some ("[a]", ".b") := by
  have hrest : ']' ∉ ".b".toList.head? := by decide
  have hwritten : identifier .transactSql "[a]" ++ ".b" = "[[a]]].b" := by
    decide +kernel
  exact ⟨hrest, hwritten,
    hwritten ▸ (tokens_decodable.2 .transactSql).read?_write "[a]" ".b" hrest⟩

/-- Two empty literals side by side are read as one that is a single quote. -/
example : read? '\x27' '\x27' (string "" ++ string "") = some ("\x27", "") := by
  decide +kernel

end SqlPrinter.Quoted
