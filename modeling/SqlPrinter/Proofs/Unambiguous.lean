/-
Expressions in explicit parentheses are printed without ambiguity.  An atom can be
told by its first character, a quoted text and a number show where they end,
parentheses end where no member follows, and a word is read to the space after it.
-/
import SqlPrinter.Proofs.Delimited
import SqlPrinter.Proofs.Form.Canonical
import SqlPrinter.Proofs.Fragment

namespace SqlPrinter

/-- The operators that have a name of their own, in the order of
their declaration. -/
def StandardOp.all : List StandardOp :=
  [.eq, .notEq, .ltGt, .lt, .ltEq, .gt, .gtEq, .nullSafeEq, .and, .or, .xor, .plus,
    .minus, .multiply, .divide, .modulo, .intDiv, .like, .notLike, .ilike,
    .notIlike, .glob, .regexp, .notRegexp, .rlike, .isIn, .notIn, .is, .isNot,
    .assign]

theorem StandardOp.mem_all (op : StandardOp) : op ∈ StandardOp.all := by
  cases op <;> decide

/-- No two standard operators are written alike. -/
theorem StandardOp.text_injective : Function.Injective StandardOp.text := by
  intro op op' h
  have hread := congrArg StandardOp.ofText? h
  rw [StandardOp.ofText?_text, StandardOp.ofText?_text] at hread
  exact Option.some.inj hread

namespace Expr

variable {settings : Settings} {e : Expr}

/-! ## Atoms by their first character -/

/-- What an atom starts with. -/
inductive Lead where
  | name
  | string
  | bool (value : Bool)
  | null
  | question
  | dollar
  | group
deriving DecidableEq

/-- The first character. -/
def Lead.first (marks : QuoteMarks) : Lead → Char
  | name => marks.opening
  | string => '\x27'
  | bool value => if value then 'T' else 'F'
  | null => 'N'
  | question => '?'
  | dollar => '$'
  | group => '('

/-- The first character tells with which kind of atom a text begins. -/
theorem Lead.first_injective (marks : QuoteMarks) :
    Function.Injective (first marks) := by
  intro l m h
  rcases l with _ | _ | (_ | _) | _ | _ | _ | _ <;>
    rcases m with _ | _ | (_ | _) | _ | _ | _ | _ <;>
      cases marks <;> first | rfl | exact absurd h (by decide)

/-- The lead of an atom. -/
def lead : Expr → Lead
  | column _ => .name
  | literal (.bool value) => .bool value
  | literal .null => .null
  | literal _ => .string
  | parameter .question => .question
  | parameter _ => .dollar
  | _ => .group

/-- Parentheses hold one expression or several in the same way. -/
theorem chars_group (h : e.IsAtom) (hlead : e.lead = .group) :
    chars settings e =
      '(' :: (Text.joined [',', ' '] (chars settings) e.members ++ [')']) := by
  cases h with
  | paren _ => simp [chars, Layout.expr, members, Text.joined]
  | list _ _ =>
      rw [chars, Layout.expr, Doc.chars_parens, exprs_eq_map, Doc.commas,
        Doc.chars_sepBy]
      rfl
  | _ => contradiction

/-! ## Reading atoms -/

/-- What may stand after an atom. -/
def AfterAtom (c : Char) : Prop :=
  c = ' ' ∨ c = ')' ∨ c = ','

/-- What may stand after a fragment. -/
def AfterFragment (c : Char) : Prop :=
  c = ')' ∨ c = ','

theorem AfterFragment.afterAtom {c : Char} (h : AfterFragment c) : AfterAtom c :=
  Or.inr h

theorem IsAtom.head?_chars (hsettings : settings.QuotesAll) (h : e.IsAtom) :
    (chars settings e).head? = some (e.lead.first settings.dialect.quoteMarks) := by
  cases h with
  | @column ref h =>
      rw [chars_column hsettings h]
      obtain ⟨schema, table, column⟩ := ref
      cases schema <;> cases table <;>
        simp [ColumnRef.names, Text.joined, Quoted.identifier, Quoted.wrap, lead,
          Lead.first]
  | string value =>
      rw [chars_string, Quoted.string, Quoted.wrap, String.toList_ofList]; rfl
  | bool value => cases value <;> rfl
  | null => rfl
  | question => rfl
  | dollar index => rw [chars_dollar]; rfl
  | paren h => rw [chars_group (.paren h) rfl]; rfl
  | list h hlength => rw [chars_group (.list h hlength) rfl]; rfl

/-- Two atoms with one lead are the same or differ in the data that follow it. -/
theorem IsAtom.eq_or_of_lead_eq {b : Expr} (h : e.IsAtom) (hb : b.IsAtom)
    (hlead : b.lead = e.lead) :
    e = b ∨
      (∃ ref ref', ref.IsProper ∧ ref'.IsProper ∧ e = .column ref ∧
        b = .column ref') ∨
      (∃ value value', e = .literal (.string value none) ∧
        b = .literal (.string value' none)) ∨
      (∃ index index', e = .parameter (.dollar index) ∧
        b = .parameter (.dollar index')) ∨
      e.lead = .group := by
  cases h <;> cases hb <;> simp_all [lead]

/-- The names of a path are quoted, so neither a dot nor the end of the path is
taken for a part of them. -/
theorem names_delimits (marks : QuoteMarks) (names : List String) :
    Delimits (Text.joined ['.'] fun name =>
      (Quoted.wrap marks.opening marks.closing name).toList)
      (fun _ => True) AfterAtom names := by
  have hopening : ¬AfterAtom marks.opening := by
    cases marks <;> simp [AfterAtom, QuoteMarks.opening]
  have hclosing (c : Char) (hc : AfterAtom c ∨ c = '.') : c ≠ marks.closing := by
    obtain (rfl | rfl | rfl) | rfl := hc <;> cases marks <;> decide
  refine (Delimits.joined rfl (by simp [AfterAtom]) (P := fun _ => True) ?_
    (fun _ _ => trivial)
    fun name _ => ?_).mono (fun _ _ _ _ => trivial) fun _ => id
  · exact fun name _ => ⟨marks.opening, by simp [Quoted.wrap], hopening⟩
  · exact (Quoted.wrap_delimits marks.opening marks.closing name).mono
      (fun _ => id) hclosing

theorem IsAtom.isFragment_of_mem_members (h : e.IsAtom) :
    ∀ m ∈ e.members, m.IsFragment := by
  cases h with
  | paren h => exact List.forall_mem_singleton.2 h
  | list h _ => exact h
  | _ => exact List.forall_mem_nil _

/-- A list with one member would look like an expression in parentheses. -/
theorem IsAtom.members_inj {b : Expr} (h : e.IsAtom) (hb : b.IsAtom)
    (hlead : e.lead = .group) (hlead' : b.lead = .group)
    (heq : e.members = b.members) : e = b := by
  cases h <;> cases hb <;> grind [lead, members]

/-- No fragment starts like the end of the parentheses around it. -/
theorem IsFragment.head?_chars (hsettings : settings.QuotesAll) (h : e.IsFragment) :
    ∃ c ∈ (chars settings e).head?, ¬AfterFragment c := by
  obtain ⟨op, a, -, rfl⟩ | hoperand := h.unary_or_operand
  · refine ⟨op.first, ?_, ?_⟩
    · rw [chars_unary, List.head?_append, op.head?_lead]
      rfl
    · cases op <;> simp [AfterFragment, UnaryOp.first]
  · refine ⟨e.operand.lead.first settings.dialect.quoteMarks, ?_, ?_⟩
    · rw [chars_eq_links h, List.head?_append, hoperand.head?_chars hsettings]
      rfl
    · generalize e.operand.lead = lead, settings.dialect.quoteMarks = marks
      rcases lead with _ | _ | (_ | _) | _ | _ | _ | _ <;> cases marks <;>
        simp [AfterFragment, Lead.first, QuoteMarks.opening]

/-- Parentheses end where no member follows. -/
theorem group_delimits (hsettings : settings.QuotesAll) (h : e.IsAtom)
    (hlead : e.lead = .group)
    (hmembers : ∀ m ∈ e.members,
      Delimits (chars settings) IsFragment AfterFragment m) :
    Delimits (chars settings) (fun b => b.IsAtom ∧ b.lead = .group)
      AfterAtom e := by
  rintro b rest rest' ⟨hb, hlead'⟩ - - heq
  rw [chars_group h hlead, chars_group hb hlead'] at heq
  simp only [List.cons_append, List.append_assoc, List.nil_append, List.cons.injEq,
    true_and] at heq
  have hstarts (m : Expr) (hm : m.IsFragment) :
      ∃ c ∈ (chars settings m).head?, c ≠ ')' := by
    obtain ⟨c, hc, hnot⟩ := hm.head?_chars hsettings
    exact ⟨c, hc, fun h => hnot (Or.inl h)⟩
  have hjoined : Delimits (Text.joined [',', ' '] (chars settings))
      (fun bs => ∀ m ∈ bs, IsFragment m)
      (· = ')') e.members :=
    Delimits.joined rfl (by decide) hstarts h.isFragment_of_mem_members hmembers
  obtain ⟨hsame, hrests⟩ := hjoined b.members _ _ hb.isFragment_of_mem_members
    (Starts.cons_iff.2 rfl) (Starts.cons_iff.2 rfl) heq
  exact ⟨h.members_inj hb hlead hlead' hsame, (List.cons.inj hrests).2⟩

/-- An atom ends before a space, a comma or a closing parenthesis. -/
theorem IsAtom.delimits (hsettings : settings.QuotesAll) (h : e.IsAtom)
    (hmembers : ∀ m ∈ e.members,
      Delimits (chars settings) IsFragment AfterFragment m) :
    Delimits (chars settings) IsAtom AfterAtom e := by
  refine Delimits.of_lead (Lead.first_injective _)
    (fun b hb => hb.head?_chars hsettings) h ?_
  rintro b rest rest' ⟨hb, hlead⟩ hrest hrest' heq
  obtain rfl | ⟨ref, ref', href, href', rfl, rfl⟩ | ⟨value, value', rfl, rfl⟩ |
    ⟨index, index', rfl, rfl⟩ | hgroup := h.eq_or_of_lead_eq hb hlead
  · exact ⟨rfl, List.append_cancel_left heq⟩
  · rw [chars_column hsettings href, chars_column hsettings href'] at heq
    obtain ⟨hnames, hrests⟩ :=
      names_delimits _ _ _ rest rest' trivial hrest hrest' heq
    exact ⟨by rw [href.names_inj href' hnames], hrests⟩
  · rw [chars_string, chars_string] at heq
    have hquote (c : Char) (hc : AfterAtom c) : c ≠ '\x27' := by
      obtain rfl | rfl | rfl := hc <;> decide
    obtain ⟨rfl, hrests⟩ := Quoted.wrap_delimits _ _ value value' rest rest' trivial
      (hrest.mono hquote) (hrest'.mono hquote) heq
    exact ⟨rfl, hrests⟩
  · rw [chars_dollar, chars_dollar] at heq
    have hdigit (c : Char) (hc : AfterAtom c) : c.isDigit = false := by
      obtain rfl | rfl | rfl := hc <;> decide
    obtain ⟨hindex, hrests⟩ :=
      Text.toString_delimits index.toNat index'.toNat rest rest' trivial
      (hrest.mono hdigit) (hrest'.mono hdigit) (List.cons.inj heq).2
    exact ⟨by rw [UInt64.toNat_inj.1 hindex], hrests⟩
  · exact group_delimits hsettings h hgroup hmembers b rest rest'
      ⟨hb, hlead.trans hgroup⟩ hrest
      hrest' heq

/-! ## Reading fragments -/

/-- The words that may stand after the first operand of a fragment. -/
def linkWords : List String :=
  "BETWEEN" :: "NOT BETWEEN" :: StandardOp.all.map StandardOp.text

theorem IsFragment.mem_linkWords (h : e.IsFragment) :
    ∀ link ∈ e.links, link.1 ∈ linkWords ∧ link.2.IsAtom := by
  have hword (op : StandardOp) : op.text ∈ linkWords :=
    List.mem_cons_of_mem _
      (List.mem_cons_of_mem _ (List.mem_map_of_mem (StandardOp.mem_all op)))
  cases h with
  | atom h => rw [h.links_eq]; nofun
  | unary op h => nofun
  | binary op hleft hright => exact List.forall_mem_singleton.2 ⟨hword op, hright⟩
  | between negated hsubject hlow hhigh =>
      refine List.forall_mem_cons.2
        ⟨⟨?_, hlow⟩, List.forall_mem_singleton.2 ⟨hword .and, hhigh⟩⟩
      cases negated <;> simp [linkWords]

/-- No link word with the space behind it begins another, but IS begins IS NOT. -/
theorem prefix_linkWords : ∀ w ∈ linkWords, ∀ w' ∈ linkWords,
    w.toList ++ [' '] <+: w'.toList ++ [' '] → w = w' ∨ w = "IS" ∧
      w' = "IS NOT" := by
  decide +kernel

/-- NULL is the only atom whose first character is that of NOT. -/
theorem IsAtom.not_starts_not (hsettings : settings.QuotesAll) (h : e.IsAtom)
    (rest tail : List Char) : chars settings e ++ rest ≠ 'N' :: 'O' :: tail := by
  intro heq
  have hfirst := congrArg List.head? heq
  rw [List.head?_append, h.head?_chars hsettings] at hfirst
  have hnull : e.lead = .null :=
    Lead.first_injective settings.dialect.quoteMarks (Option.some.inj hfirst)
  cases h with
  | null => rw [chars_null] at heq; cases heq
  | _ => contradiction

/-- An operator in front is not taken for an atom. -/
theorem IsAtom.not_starts_unary (hsettings : settings.QuotesAll) (h : e.IsAtom)
    (op : UnaryOp) (rest tail : List Char) :
    chars settings e ++ rest ≠ op.lead ++ tail := by
  intro heq
  have hfirst := congrArg List.head? heq
  rw [List.head?_append, h.head?_chars hsettings, List.head?_append, op.head?_lead]
    at hfirst
  have hnot (lead : Lead) (h : lead.first settings.dialect.quoteMarks = op.first) :
      op = .not := by
    generalize settings.dialect.quoteMarks = marks at h
    rcases lead with _ | _ | (_ | _) | _ | _ | _ | _ <;> cases marks <;>
      cases op <;> first | rfl | exact absurd h (by decide)
  obtain rfl := hnot e.lead (Option.some.inj hfirst)
  exact h.not_starts_not hsettings rest _ heq

/-- A word is read to the space after it, and `IS` is not the beginning of `IS NOT`
because no atom starts in that way. -/
theorem link_delimits (hsettings : settings.QuotesAll) {w : String} {a : Expr}
    (hw : w ∈ linkWords) (hatom : a.IsAtom)
    (ha : Delimits (chars settings) IsAtom AfterAtom a) :
    Delimits (linkChars settings) (fun link => link.1 ∈ linkWords ∧ link.2.IsAtom)
      AfterAtom
      (w, a) := by
  rintro ⟨w', a'⟩ rest rest' ⟨hw', ha'⟩ hrest hrest' heq
  have heq : (w.toList ++ [' ']) ++ (chars settings a ++ rest) =
      (w'.toList ++ [' ']) ++ (chars settings a' ++ rest') := by
    simpa [linkChars] using heq
  have his {b : Expr} {rest tail : List Char} (hb : b.IsAtom) :
      ("IS".toList ++ [' ']) ++ (chars settings b ++ rest) ≠
        ("IS NOT".toList ++ [' ']) ++ tail := by
    intro heq
    exact hb.not_starts_not hsettings rest _ (by simpa using heq)
  have hsame : w = w' := by
    obtain hprefix | hprefix :=
      List.prefix_or_prefix_of_prefix (List.prefix_append _ _)
        (heq ▸ List.prefix_append _ _)
    · obtain h | ⟨rfl, rfl⟩ := prefix_linkWords w' hw' w hw hprefix
      · exact h.symm
      · exact absurd heq.symm (his ha')
    · obtain h | ⟨rfl, rfl⟩ := prefix_linkWords w hw w' hw' hprefix
      · exact h
      · exact absurd heq (his hatom)
  subst hsame
  obtain ⟨rfl, hrests⟩ :=
    ha a' rest rest' ha' hrest hrest' (List.append_cancel_left heq)
  exact ⟨rfl, hrests⟩

/-- The first operand and what follows it make up a fragment. -/
theorem IsFragment.eq_of_links {b : Expr} (h : e.IsFragment) (hb : b.IsFragment)
    (hoperand : e.operand.IsAtom) (hoperand' : b.operand.IsAtom)
    (heq : e.operand = b.operand) (hlinks : e.links = b.links) : e = b := by
  cases h with
  | unary op h => cases hoperand
  | atom h =>
      rw [h.operand_eq] at heq
      rw [h.links_eq] at hlinks
      cases hb with
      | atom hb => rw [heq, hb.operand_eq]
      | unary op hb => cases hoperand'
      | binary op hleft hright => cases hlinks
      | between negated hsubject hlow hhigh => cases hlinks
  | binary op hleft hright =>
      cases hb with
      | atom hb => rw [hb.links_eq] at hlinks; cases hlinks
      | unary op hb => cases hoperand'
      | binary op' hleft' hright' =>
          simp only [links, operand, BinaryOp.text, List.cons.injEq, Prod.mk.injEq]
            at heq hlinks
          rw [heq, StandardOp.text_injective hlinks.1.1, hlinks.1.2]
      | between negated hsubject hlow hhigh => simp [links] at hlinks
  | between negated hsubject hlow hhigh =>
      cases hb with
      | atom hb => rw [hb.links_eq] at hlinks; cases hlinks
      | unary op hb => cases hoperand'
      | binary op' hleft' hright' => simp [links] at hlinks
      | between negated' hsubject' hlow' hhigh' =>
          have hnegated : negated = negated' := by
            cases negated <;> cases negated' <;> simp_all [links]
          simp_all [links, operand]

/-- The atoms of a fragment are its operand and what the links lead to. -/
theorem IsFragment.atoms_eq (h : e.IsFragment) (hoperand : e.operand.IsAtom) :
    e.atoms = e.operand :: e.links.map Prod.snd := by
  cases h with
  | atom h => rw [h.atoms_eq, h.operand_eq, h.links_eq]; rfl
  | unary op h => cases hoperand
  | binary op hleft hright => rfl
  | between negated hsubject hlow hhigh => rfl

/-- A fragment ends before a comma or a closing parenthesis. -/
theorem IsFragment.delimits (hsettings : settings.QuotesAll) (h : e.IsFragment)
    (hatoms : ∀ a ∈ e.atoms, Delimits (chars settings) IsAtom AfterAtom a) :
    Delimits (chars settings) IsFragment AfterFragment e := by
  intro b rest rest' hb hrest hrest' heq
  obtain ⟨op, a, ha, rfl⟩ | hoperand := h.unary_or_operand <;>
    obtain ⟨op', a', ha', rfl⟩ | hoperand' := hb.unary_or_operand
  · rw [chars_unary, chars_unary, List.append_assoc, List.append_assoc] at heq
    have hfirst := congrArg List.head? heq
    simp only [List.head?_append, UnaryOp.head?_lead, Option.some_or] at hfirst
    obtain rfl := UnaryOp.first_injective (Option.some.inj hfirst)
    obtain ⟨rfl, hrests⟩ := hatoms a List.mem_cons_self a' rest rest' ha'
      (hrest.mono fun _ => AfterFragment.afterAtom)
        (hrest'.mono fun _ => AfterFragment.afterAtom)
      (List.append_cancel_left heq)
    exact ⟨rfl, hrests⟩
  · rw [chars_unary, chars_eq_links hb, List.append_assoc, List.append_assoc] at heq
    exact absurd heq.symm (hoperand'.not_starts_unary hsettings op _ _)
  · rw [chars_unary, chars_eq_links h, List.append_assoc, List.append_assoc] at heq
    exact absurd heq (hoperand.not_starts_unary hsettings op' _ _)
  · have hhead (link : String × Expr) :
      (linkChars settings link).head? = some ' ' := rfl
    have hfollow (c : Char) (hc : AfterFragment c ∨ c = ' ') : AfterAtom c :=
      hc.elim AfterFragment.afterAtom Or.inl
    rw [h.atoms_eq hoperand, List.forall_mem_cons, List.forall_mem_map] at hatoms
    obtain ⟨hfirst, hothers⟩ := hatoms
    have hlinks : Delimits (List.flatMap (linkChars settings))
        (fun links => ∀ link ∈ links, link.1 ∈ linkWords ∧ link.2.IsAtom)
          AfterFragment e.links :=
      Delimits.flatMap (by simp [AfterFragment]) hhead fun link hlink =>
        have hword := h.mem_linkWords link hlink
        (link_delimits hsettings hword.1 hword.2 (hothers link hlink)).mono
          (fun _ => id) hfollow
    have hwhole := hfirst.pair hlinks fun links rest hrest =>
      (hrest.flatMap hhead links).mono hfollow
    rw [chars_eq_links h, chars_eq_links hb] at heq
    obtain ⟨hsame, hrests⟩ :=
      hwhole (b.operand, b.links) rest rest' ⟨hoperand', hb.mem_linkWords⟩ hrest
        hrest' heq
    obtain ⟨hoperands, hlinks⟩ := Prod.mk.inj hsame
    exact ⟨h.eq_of_links hb hoperand hoperand' hoperands hlinks, hrests⟩

/-- Explicitly parenthesised expressions are printed, and two of them never
alike. -/
theorem render_fragment_injective (settings : Settings)
    (hquote : settings.quote = .always) (hfold : settings.fold = none) {e e' : Expr}
    (he : e.IsFragment) (he' : e'.IsFragment) :
    (∃ text, e.render settings = .ok text) ∧
      (e.render settings = e'.render settings → e = e') := by
  have hsettings : settings.QuotesAll := ⟨hquote, hfold⟩
  refine ⟨⟨_, he.render⟩, fun heq => ?_⟩
  rw [he.render, he'.render] at heq
  have hchars := congrArg String.toList (Except.ok.inj heq)
  rw [String.toList_ofList, String.toList_ofList] at hchars
  have hdelimits := he.induct (fun _ ha => ha.delimits hsettings) fun _ hf =>
    hf.delimits hsettings
  exact (hdelimits e' [] [] he' Starts.nil Starts.nil (by rw [hchars])).1

/-- `(a AND NULL) IS ?` and `(a) BETWEEN NULL AND ?` are read apart. -/
theorem render_fragment_injective_isOrBetween :
    let a : Expr := .column ⟨none, none, "a"⟩
    let e : Expr :=
      .binary (.paren (.binary a (.standard .and) (.literal .null))) (.standard .is)
        (.parameter .question)
    let e' : Expr :=
      .between (.paren a) false (.literal .null) (.parameter .question)
    (∃ text, e.render .standard = .ok text) ∧
      e.render .standard ≠ e'.render .standard := by
  intro a e e'
  have ha : a.IsAtom :=
    .column ⟨nofun, nofun, ⟨by decide, by decide +kernel⟩, nofun⟩
  have he : e.IsFragment := .binary .is (.paren (.binary .and ha .null)) .question
  have he' : e'.IsFragment := .between false (.paren (.atom ha)) .null .question
  obtain ⟨hrender, hinj⟩ := render_fragment_injective .standard rfl rfl he he'
  exact ⟨hrender, fun heq => Expr.noConfusion (hinj heq)⟩

/-- A list with one item is printed as an expression in parentheses. -/
example : (list [.literal .null]).render .standard =
    (paren (.literal .null)).render .standard :=
  rfl

end Expr

end SqlPrinter
