/-
Quoting keeps names apart.  What stands for a name is a run of bare characters or a
token between marks, and neither goes on with a dot, so the names of a path can be
told from its text, but for letter case where the settings fold it.
-/
import SqlPrinter.Proofs.Delimited
import SqlPrinter.Proofs.Writes

namespace SqlPrinter

namespace Ident

variable {settings : Settings} {a b name : String}

/-- Folding is lost where letter case does not count. -/
@[simp] theorem toLower_folded (settings : Settings) (name : String) :
    (folded settings name).toLower = name.toLower := by
  unfold folded
  split
  · exact Text.toLower_toLower name
  · exact Text.toLower_toUpper name
  · rfl

/-! ## Special names -/

theorem isSpecial_iff :
    isSpecial name = true ↔ name = "*" ∨ name.toLower = "dual" := by
  simp [isSpecial]

theorem isSpecial_eq_false_iff :
    isSpecial name = false ↔ name ≠ "*" ∧ name.toLower ≠ "dual" := by
  simp [isSpecial]

theorem quote_of_isSpecial (h : isSpecial name = true) :
    quote settings name = if name = "*" then "*" else "DUAL" := by
  rw [quote, if_pos h]
  rcases isSpecial_iff.1 h with rfl | hdual
  · decide +kernel
  · have hstar : name ≠ "*" := by
      rintro rfl
      exact absurd hdual (by decide +kernel)
    rw [if_neg hstar, ← Text.toUpper_toLower, hdual]
    decide +kernel

/-! ## Bare names -/

/-- An ASCII letter or underscore, and then any number of ASCII letters, digits and
underscores. -/
def IsAsciiIdentifier (name : String) : Prop :=
  ∃ c cs, name.toList = c :: cs ∧ (c = '_' ∨ c.isAlpha = true) ∧
    ∀ d ∈ cs, d = '_' ∨ d.isAlphanum = true

theorem isSimple_iff : isSimple name = true ↔ IsAsciiIdentifier name := by
  unfold isSimple IsAsciiIdentifier
  cases name.toList with
  | nil => simp
  | cons c cs => simp

/-- A change of letter case makes no identifier out of what is none. -/
theorem isAsciiIdentifier_of_map {g : Char → Char}
    (hg : ∀ c, g c = c ∨ c.isAlpha = true) (h : IsAsciiIdentifier (name.map g)) :
    IsAsciiIdentifier name := by
  obtain ⟨c, cs, hname, hc, hcs⟩ := h
  rw [String.toList_map] at hname
  obtain ⟨d, ds, hname', rfl, rfl⟩ := List.map_eq_cons_iff.1 hname
  refine ⟨d, ds, hname', ?_, fun e he => ?_⟩
  · rcases hg d with hsame | halpha
    · rwa [hsame] at hc
    · exact Or.inr halpha
  · rcases hg e with hsame | halpha
    · have hmap := hcs (g e) (List.mem_map_of_mem he)
      rwa [hsame] at hmap
    · exact Or.inr (by rw [Char.isAlphanum, halpha, Bool.true_or])

theorem isAsciiIdentifier_of_folded (h : IsAsciiIdentifier (folded settings name)) :
    IsAsciiIdentifier name := by
  unfold folded at h
  split at h
  · exact isAsciiIdentifier_of_map Text.toLower_eq_or_letter h
  · exact isAsciiIdentifier_of_map Text.toUpper_eq_or_letter h
  · exact h

theorem isAsciiIdentifier_of_staysBare {mode : QuoteMode}
    (h : staysBare mode name = true) :
    IsAsciiIdentifier name ∧ isKeyword name = false := by
  cases mode with
  | always => exact absurd h Bool.false_ne_true
  | smart preserveCase =>
      simp only [staysBare, Bool.and_eq_true, Bool.not_eq_true'] at h
      exact ⟨isSimple_iff.1 h.1.2, h.2⟩

theorem toLower_ne_of_isKeyword_eq_false (h : isKeyword name = false) :
    ∀ k ∈ keywords, name.toLower ≠ k.toLower := by
  have hlower : ∀ k ∈ keywords, k.toLower = k := by decide +kernel
  intro k hk heq
  rw [hlower k hk] at heq
  exact of_decide_eq_false h (heq ▸ hk)

/-! ## Texts of names -/

/-- A name that is not special stands bare or between marks. -/
theorem quote_cases (settings : Settings) (h : isSpecial name = false) :
    (staysBare settings.quote (folded settings name) = true ∧
        quote settings name = folded settings name) ∨
      (staysBare settings.quote (folded settings name) = false ∧
        quote settings name =
          Quoted.identifier settings.dialect (folded settings name)) := by
  rw [quote, if_neg (by simp [h])]
  cases hbare : staysBare settings.quote (folded settings name) with
  | true => exact Or.inl ⟨rfl, if_pos hbare⟩
  | false => exact Or.inr ⟨rfl, if_neg (by simp [hbare])⟩

/-- A character of a bare name or of a special one. -/
def isBareChar (c : Char) : Bool :=
  c = '*' || c = '_' || c.isAlphanum

theorem isBareChar_opening (marks : QuoteMarks) :
    isBareChar marks.opening = false := by
  cases marks <;> rfl

theorem isBareChar_of_isSpecial (h : isSpecial name = true) :
    ∀ c ∈ (quote settings name).toList, isBareChar c = true := by
  rw [quote_of_isSpecial h]
  split
  · exact List.all_eq_true.1 rfl
  · exact List.all_eq_true.1 rfl

theorem IsAsciiIdentifier.isBareChar (h : IsAsciiIdentifier name) :
    ∀ c ∈ name.toList, isBareChar c = true := by
  obtain ⟨c, cs, hname, hc, hcs⟩ := h
  rw [hname, List.forall_mem_cons]
  refine ⟨?_, fun d hd => ?_⟩
  · rcases hc with rfl | halpha
    · rfl
    · simp [Ident.isBareChar, Char.isAlphanum, halpha]
  · rcases hcs d hd with rfl | halphanum
    · rfl
    · simp [Ident.isBareChar, halphanum]

theorem ne_quoted (h : ∀ c ∈ a.toList, isBareChar c = true) (d : Dialect)
    (s : String) : a ≠ Quoted.identifier d s := by
  rintro rfl
  have hopening := h d.quoteMarks.opening (by simp [Quoted.identifier, Quoted.wrap])
  rw [isBareChar_opening] at hopening
  contradiction

theorem quoted_inj {d : Dialect}
    (h : Quoted.identifier d a = Quoted.identifier d b) : a = b := by
  refine (Quoted.wrap_delimits d.quoteMarks.opening d.quoteMarks.closing a b []
    [] trivial
    Starts.nil Starts.nil ?_).1
  rw [List.append_nil, List.append_nil]
  exact congrArg String.toList h

/-- There are more characters with the marks than without. -/
theorem quoted_ne_self (d : Dialect) (s : String) : Quoted.identifier d s ≠ s := by
  intro h
  have hlength {closing : Char} (cs : List Char) :
      cs.length ≤ (Quoted.encode closing cs).length := by
    induction cs with
    | nil => exact Nat.le_refl 0
    | cons c cs ih =>
        rw [Quoted.encode]
        split <;> simp only [List.length_cons] <;> omega
  have hsame := congrArg (·.toList.length) h
  have hle := @hlength d.quoteMarks.closing s.toList
  simp only [Quoted.identifier, Quoted.wrap, String.toList_ofList, List.length_cons,
    List.length_append, List.length_nil] at hsame
  omega

theorem quote_ne_of_isSpecial (settings : Settings) (ha : isSpecial a = true)
    (hb : isSpecial b = false) : quote settings a ≠ quote settings b := by
  rcases quote_cases settings hb with ⟨hbare, hquote⟩ | ⟨-, hquote⟩
  · rw [hquote, quote_of_isSpecial ha]
    split
    · intro hstar
      obtain ⟨c, cs, hname, hc, -⟩ := (isAsciiIdentifier_of_staysBare hbare).1
      rw [← hstar] at hname
      obtain ⟨rfl, -⟩ := List.cons.inj hname
      exact absurd hc (by decide)
    · intro hdual
      refine (isSpecial_eq_false_iff.1 hb).2 ?_
      rw [← toLower_folded settings b, ← hdual]
      decide +kernel
  · rw [hquote]
    exact ne_quoted (isBareChar_of_isSpecial ha) _ _

/-- Names that are folded alike are written alike, and no others are. -/
theorem quote_eq_quote_iff_folded (ha : isSpecial a = false)
    (hb : isSpecial b = false) :
    quote settings a = quote settings b ↔
      folded settings a = folded settings b := by
  have hbareChar {name : String}
      (h : staysBare settings.quote (folded settings name) = true) :
      ∀ c ∈ (folded settings name).toList, isBareChar c = true :=
    (isAsciiIdentifier_of_staysBare h).1.isBareChar
  constructor
  · intro h
    rcases quote_cases settings ha with ⟨hbare, hquote⟩ | ⟨-, hquote⟩ <;>
      rcases quote_cases settings hb with ⟨hbare', hquote'⟩ | ⟨-, hquote'⟩ <;>
        rw [hquote, hquote'] at h
    · exact h
    · exact absurd h (ne_quoted (hbareChar hbare) _ _)
    · exact absurd h.symm (ne_quoted (hbareChar hbare') _ _)
    · exact quoted_inj h
  · intro h
    unfold quote
    rw [ha, hb, h]
    rfl

/-- The star and DUAL stand for themselves, and other names are told apart when they
are folded. -/
theorem quote_eq_quote_iff (settings : Settings) (a b : String) :
    quote settings a = quote settings b ↔
      (a = "*" ∧ b = "*") ∨ (a.toLower = "dual" ∧ b.toLower = "dual") ∨
        (isSpecial a = false ∧ isSpecial b = false ∧
          folded settings a = folded settings b) := by
  have hstar {name : String} (h : name.toLower = "dual") : name ≠ "*" := by
    rintro rfl
    exact absurd h (by decide +kernel)
  cases ha : isSpecial a <;> cases hb : isSpecial b
  · obtain ⟨hne, hne'⟩ := isSpecial_eq_false_iff.1 ha
    simp [quote_eq_quote_iff_folded ha hb, hne, hne']
  · obtain ⟨hne, hne'⟩ := isSpecial_eq_false_iff.1 ha
    simp [(quote_ne_of_isSpecial settings hb ha).symm, hne, hne']
  · obtain ⟨hne, hne'⟩ := isSpecial_eq_false_iff.1 hb
    simp [quote_ne_of_isSpecial settings ha hb, hne, hne']
  · rw [quote_of_isSpecial ha, quote_of_isSpecial hb]
    rcases isSpecial_iff.1 ha with rfl | hdual <;>
      rcases isSpecial_iff.1 hb with rfl | hdual'
    · simp
    · simp [hstar hdual', show "*".toLower ≠ "dual" by decide +kernel]
    · simp [hstar hdual, show "*".toLower ≠ "dual" by decide +kernel]
    · simp [hstar hdual, hstar hdual', hdual, hdual']

/-- A name that is printed without marks is an identifier and no keyword. -/
theorem of_quote_eq_folded (h : isSpecial name = false)
    (hprinted : quote settings name = folded settings name) :
    IsAsciiIdentifier name ∧ ∀ k ∈ keywords, name.toLower ≠ k.toLower := by
  rcases quote_cases settings h with ⟨hbare, -⟩ | ⟨-, hquote⟩
  · obtain ⟨hname, hkeyword⟩ := isAsciiIdentifier_of_staysBare hbare
    have hfree := toLower_ne_of_isKeyword_eq_false hkeyword
    rw [toLower_folded] at hfree
    exact ⟨isAsciiIdentifier_of_folded hname, hfree⟩
  · exact absurd (hquote.symm.trans hprinted) (quoted_ne_self _ _)

/-! ## Paths -/

/-- What stands for a name: bare characters, or a text between marks. -/
def IsToken (d : Dialect) (t : String) : Prop :=
  (t ≠ "" ∧ ∀ c ∈ t.toList, isBareChar c = true) ∨ ∃ s, t = Quoted.identifier d s

theorem isToken_quote (settings : Settings) (name : String) :
    IsToken settings.dialect (quote settings name) := by
  have hne := quote_ne_empty settings name
  cases h : isSpecial name with
  | true => exact Or.inl ⟨hne, isBareChar_of_isSpecial h⟩
  | false =>
      rcases quote_cases settings h with ⟨hbare, hquote⟩ | ⟨-, hquote⟩
      · rw [hquote] at hne ⊢
        exact Or.inl ⟨hne, (isAsciiIdentifier_of_staysBare hbare).1.isBareChar⟩
      · exact Or.inr ⟨_, hquote⟩

namespace IsToken

variable {d : Dialect} {t : String}

theorem head?_ne_none (h : IsToken d t) : t.toList.head? ≠ none := by
  rw [ne_eq, List.head?_eq_none_iff, String.toList_eq_nil_iff]
  rcases h with ⟨hne, -⟩ | ⟨s, rfl⟩
  · exact hne
  · exact Quoted.wrap_ne_empty _ _ _

/-- Bare characters do not go on as a token between marks does. -/
theorem bare_append_ne (hne : t ≠ "") (h : ∀ c ∈ t.toList, isBareChar c = true)
    (s : String) (rest rest' : List Char) :
    t.toList ++ rest ≠ (Quoted.identifier d s).toList ++ rest' := by
  intro heq
  cases ht : t.toList with
  | nil => exact hne (String.toList_eq_nil_iff.1 ht)
  | cons c cs =>
      rw [ht] at heq h
      simp only [Quoted.identifier, Quoted.wrap, String.toList_ofList,
        List.cons_append] at heq
      have hopening := h c List.mem_cons_self
      rw [(List.cons.inj heq).1, isBareChar_opening] at hopening
      contradiction

/-- A dot is no part of a bare name, and it does not double a mark. -/
theorem delimits (h : IsToken d t) :
    Delimits String.toList (IsToken d) (· = '.') t := by
  have hclosing (c : Char) (hc : c = '.') : c ≠ d.quoteMarks.closing := by
    subst hc
    cases d <;> decide
  intro u rest rest' hu hrest hrest' heq
  rcases h with ⟨hne, ht⟩ | ⟨s, rfl⟩ <;> rcases hu with ⟨hne', hu⟩ | ⟨s', rfl⟩
  · refine Text.delimits_of_forall ht u rest rest' hu ?_ ?_ heq
    · exact hrest.mono fun c hc => hc ▸ rfl
    · exact hrest'.mono fun c hc => hc ▸ rfl
  · exact absurd heq (bare_append_ne hne ht s' rest rest')
  · exact absurd heq.symm (bare_append_ne hne' hu s rest' rest)
  · obtain ⟨rfl, hrests⟩ := Quoted.wrap_delimits _ _ s s' rest rest' trivial
      (hrest.mono hclosing) (hrest'.mono hclosing) heq
    exact ⟨rfl, hrests⟩

end IsToken

theorem toList_quotePath (settings : Settings) (parts : List String) :
    (quotePath settings parts).toList =
      Text.joined ['.'] String.toList (parts.map (quote settings)) := by
  unfold quotePath
  cases parts.map (quote settings) with
  | nil => rfl
  | cons t ts =>
      rw [Doc.intercalate_cons_eq, Text.joined, String.toList_append,
        String.toList_join, List.flatMap_map]
      simp

/-- The names of a path can be told from its text. -/
theorem quotePath_eq_quotePath_iff (settings : Settings) (ps qs : List String) :
    quotePath settings ps = quotePath settings qs ↔
      List.Forall₂ (fun p q => quote settings p = quote settings q) ps qs := by
  have htokens (names : List String) :
      ∀ t ∈ names.map (quote settings), IsToken settings.dialect t := by
    rintro _ ht
    obtain ⟨name, -, rfl⟩ := List.mem_map.1 ht
    exact isToken_quote settings name
  have hdelimits : Delimits (Text.joined ['.'] String.toList)
      (fun ts => ∀ t ∈ ts, IsToken settings.dialect t) (fun _ => False)
        (ps.map (quote settings)) := by
    refine Delimits.joined rfl id (fun t ht => ?_) (htokens ps) fun t ht => ?_
    · obtain ⟨c, hc⟩ := Option.ne_none_iff_exists'.1 ht.head?_ne_none
      exact ⟨c, hc, id⟩
    · exact (htokens ps t ht).delimits.mono (fun _ => id) fun c hc =>
        hc.resolve_left id
  rw [← List.forall₂_map_left_iff (f := quote settings)
    (R := fun t q => t = quote settings q),
    ← List.forall₂_map_right_iff (f := quote settings) (R := (· = ·)),
    List.forall₂_eq_eq_eq]
  constructor
  · intro h
    refine (hdelimits (qs.map (quote settings)) [] []
      (htokens qs) Starts.nil Starts.nil ?_).1
    rw [List.append_nil, List.append_nil, ← toList_quotePath, ← toList_quotePath, h]
  · intro h
    rw [quotePath, quotePath, h]

/-- A path is written at the end of the text, and nothing else changes. -/
theorem write_path (settings : Settings) (w : Writer) (parts : List String) :
    w.write settings (Doc.path parts) =
      (none, w.push (quotePath settings parts)) := by
  have hfixed : (Doc.path parts).IsFixed := by
    refine Doc.isFixed_sepBy fun d hd => ?_
    obtain ⟨name, -, rfl⟩ := List.mem_map.1 hd
    trivial
  obtain ⟨hfailure, htext⟩ := hfixed.run settings w.placeholders w.counters
  have hcounters := Doc.counters_run w.placeholders
    (d := Doc.path parts) (fun t => by simp) w.counters
  have hpath :
      (Doc.path parts).chars settings = (quotePath settings parts).toList := by
    rw [toList_quotePath, Doc.path, Doc.chars_sepBy]
    cases parts with
    | nil => rfl
    | cons name names => simp [Text.joined, List.flatMap_map]
  rw [hpath, String.toList_inj] at htext
  rw [Writer.write_eq, Writer.add, hfailure, hcounters, htext]
  rfl

end Ident

/-- Names are told apart as far as the folding in the settings and the special names
let them, paths by their names, a path is written as it is quoted, and a name
without marks is an identifier that is no keyword. -/
theorem Ident.quote_faithful (settings : Settings) :
    (∀ a b, quote settings a = quote settings b ↔
      (a = "*" ∧ b = "*") ∨ (a.toLower = "dual" ∧ b.toLower = "dual") ∨
        (isSpecial a = false ∧ isSpecial b = false ∧
          folded settings a = folded settings b)) ∧
    (∀ ps qs, quotePath settings ps = quotePath settings qs ↔
      List.Forall₂ (fun p q => quote settings p = quote settings q) ps qs) ∧
    (∀ w parts, Writer.write settings w (Doc.path parts) =
      (none, w.push (quotePath settings parts))) ∧
    ∀ name, name ≠ "*" → name.toLower ≠ "dual" →
      quote settings name = folded settings name →
      IsAsciiIdentifier name ∧ ∀ k ∈ keywords, name.toLower ≠ k.toLower := by
  refine ⟨quote_eq_quote_iff settings, quotePath_eq_quotePath_iff settings,
    write_path settings, ?_⟩
  intro name hstar hdual hprinted
  exact of_quote_eq_folded (isSpecial_eq_false_iff.2 ⟨hstar, hdual⟩) hprinted

/-- Where names are brought to lower case, `Total` is printed as `total`. -/
theorem Ident.quote_faithful_total :
    let settings :=
      { Settings.standard with quote := .smart false, fold := some .lower }
    quote settings "Total" = "total" ∧ IsAsciiIdentifier "Total" ∧
      ∀ k ∈ keywords, "Total".toLower ≠ k.toLower := by
  intro settings
  have hprinted : quote settings "Total" = "total" := by decide +kernel
  have hfolded : folded settings "Total" = "total" := by decide +kernel
  exact ⟨hprinted,
    (quote_faithful settings).2.2.2 "Total" (by decide) (by decide +kernel)
    (hprinted.trans hfolded.symm)⟩

end SqlPrinter
