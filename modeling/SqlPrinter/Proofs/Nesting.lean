/-
The limit of nesting.  A text of objects and plain strings is read if it is nested
no deeper than the limit allows, and only then.  A statement can be nested just as
deep as that; it is printed on its own and no longer as the item of an array.
-/
import SqlPrinter.Json.Printer
import SqlPrinter.Proofs.Entry
import SqlPrinter.Proofs.Form.Statement
import SqlPrinter.Proofs.Unambiguous

namespace SqlPrinter

namespace Json

/-! ## Plain strings -/

/-- A character that stands for itself between quotes. -/
def IsPlainChar (c : Char) : Prop :=
  c ≠ '"' ∧ c ≠ '\\' ∧ 0x20 ≤ c.toNat

instance : DecidablePred IsPlainChar :=
  fun _ => inferInstanceAs (Decidable (_ ∧ _ ∧ _))

/-- All characters of the string are plain. -/
def IsPlainString (s : String) : Prop :=
  ∀ c ∈ s.toList, IsPlainChar c

instance (s : String) : Decidable (IsPlainString s) :=
  List.decidableBAll IsPlainChar s.toList

theorem flatMap_escapeChar {cs : List Char} (h : ∀ c ∈ cs, IsPlainChar c) :
    cs.flatMap escapeChar = cs := by
  induction cs with
  | nil => rfl
  | cons c cs ih =>
      obtain ⟨⟨hquote, hslash, hcontrol⟩, hcs⟩ := List.forall_mem_cons.1 h
      rw [List.flatMap_cons, ih hcs, escapeChar, if_neg hquote, if_neg hslash,
        if_neg (Nat.not_lt.2 hcontrol)]
      rfl

theorem units?_of_plain {cs : List Char} (h : ∀ c ∈ cs, IsPlainChar c) :
    Token.units? cs = some (cs.map .inl) := by
  induction cs with
  | nil => rfl
  | cons c cs ih =>
      obtain ⟨⟨-, hslash, -⟩, hcs⟩ := List.forall_mem_cons.1 h
      simp [Token.units?, hslash, ih hcs]

theorem chars?_map_inl (cs : List Char) : Token.chars? (cs.map .inl) = some cs := by
  induction cs with
  | nil => rfl
  | cons c cs ih => simp [Token.chars?, ih]

theorem foldlM_step_of_plain {cs : List Char} (h : ∀ c ∈ cs, IsPlainChar c)
    (before : List Char) (earlier : List Token) :
    cs.foldlM Scan.step ⟨.quoted false before, earlier⟩ =
      some ⟨.quoted false (cs.reverse ++ before), earlier⟩ := by
  induction cs generalizing before with
  | nil => rfl
  | cons c cs ih =>
      obtain ⟨⟨hquote, hslash, hcontrol⟩, hcs⟩ := List.forall_mem_cons.1 h
      have hstep : Scan.step ⟨.quoted false before, earlier⟩ c =
          some ⟨.quoted false (c :: before), earlier⟩ := by
        simp [Scan.step, hslash, hquote, Nat.not_lt.2 hcontrol]
      rw [List.foldlM_cons, hstep, Option.bind_eq_bind, Option.bind_some, ih hcs,
        List.reverse_cons, List.append_assoc]
      rfl

/-! ## Texts and the nesting in them -/

/-- The text is cut into these tokens, whatever has been cut off before. -/
def HasTokens (text : String) (ts : List Token) : Prop :=
  ∀ earlier, text.toList.foldlM Scan.step ⟨.between, earlier⟩ =
    some ⟨.between, ts.reverse ++ earlier⟩

theorem HasTokens.append {text text' : String} {ts ts' : List Token}
    (h : HasTokens text ts) (h' : HasTokens text' ts') :
    HasTokens (text ++ text') (ts ++ ts') := by
  intro earlier
  rw [String.toList_append, List.foldlM_append, h, Option.bind_eq_bind,
    Option.bind_some, h', List.reverse_append, List.append_assoc]

/-- A string of plain characters is one token. -/
theorem hasTokens_quoted {s : String} (h : IsPlainString s) :
    HasTokens (quoted s) [.scalar (.string s)] := by
  intro earlier
  have hclose : Scan.step ⟨.quoted false (s.toList.reverse ++ []), earlier⟩ '"' =
      some ⟨.between, .scalar (.string s) :: earlier⟩ := by
    simp [Scan.step, Token.ofQuoted?, units?_of_plain h, chars?_map_inl]
  rw [quoted, String.toList_ofList, flatMap_escapeChar h]
  change (s.toList ++ ['"']).foldlM Scan.step ⟨.quoted false [], earlier⟩ = _
  rw [List.foldlM_append, foldlM_step_of_plain h, Option.bind_eq_bind,
    Option.bind_some, List.foldlM_cons, hclose]
  rfl

/-- Where a value may stand, the text is read as this value, and this takes so many
levels of nesting. -/
def IsText (text : String) (depth : Nat) (j : Json) : Prop :=
  ∃ ts, HasTokens text ts ∧ ∀ limit stack, stack.length ≤ limit →
    ts.foldlM (Reading.step limit) ⟨stack, .value⟩ =
      if stack.length + depth ≤ limit then Reading.deliver j stack else none

/-- Where a key may stand, the text is read as these entries. -/
def AreTexts (text : String) (depth : Nat)
    (entries : List (String × Json)) : Prop :=
  ∃ ts, HasTokens text ts ∧ ∀ limit stack done goal, stack.length + 1 ≤ limit →
    goal = .key ∨ goal = .keyOrEnd →
      ts.foldlM (Reading.step limit) ⟨.entries done :: stack, goal⟩ =
        if stack.length + 1 + depth ≤ limit then
          some ⟨.entries (entries.reverse ++ done) :: stack, .commaOrEntriesEnd⟩
        else none

theorem IsText.parseWithin {text : String} {depth : Nat} {j : Json}
    (h : IsText text depth j) (limit : Nat) :
    parseWithin limit text = if depth ≤ limit then some j else none := by
  obtain ⟨ts, hscan, hread⟩ := h
  have htokens : tokens? text = some ts := by
    rw [tokens?_eq, Scan.start, hscan]
    simp [Scan.close]
  have hvalue := hread limit [] (Nat.zero_le limit)
  rw [List.length_nil, Nat.zero_add] at hvalue
  rw [Json.parseWithin, htokens, Option.bind_eq_bind, Option.bind_some,
    Reading.start, hvalue]
  split <;> rfl

theorem isText_string {s : String} (h : IsPlainString s) :
    IsText (quoted s) 0 (.string s) := by
  refine ⟨_, hasTokens_quoted h, fun limit stack hstack => ?_⟩
  rw [Nat.add_zero, if_pos hstack, List.foldlM_cons]
  exact Option.bind_fun_some _

theorem IsText.entry {key text : String} {depth : Nat} {j : Json}
    (hkey : IsPlainString key) (h : IsText text depth j) :
    AreTexts (quoted key ++ ":" ++ text) depth [(key, j)] := by
  obtain ⟨ts, hscan, hread⟩ := h
  have hcolon : HasTokens ":" [.colon] := fun _ => rfl
  refine ⟨_, ((hasTokens_quoted hkey).append hcolon).append hscan, ?_⟩
  intro limit stack done goal hstack hgoal
  have hfirst :
      ([Token.scalar (.string key)] ++ [Token.colon] ++ ts).foldlM
          (Reading.step limit) ⟨.entries done :: stack, goal⟩ =
        ts.foldlM (Reading.step limit) ⟨.member done key :: stack, .value⟩ := by
    obtain rfl | rfl := hgoal <;> rfl
  rw [hfirst, hread limit (.member done key :: stack) hstack]
  rfl

theorem AreTexts.append {text text' : String} {depth depth' : Nat}
    {entries entries' : List (String × Json)} (h : AreTexts text depth entries)
    (h' : AreTexts text' depth' entries') :
    AreTexts (text ++ "," ++ text') (max depth depth') (entries ++ entries') := by
  obtain ⟨ts, hscan, hread⟩ := h
  obtain ⟨ts', hscan', hread'⟩ := h'
  have hcomma : HasTokens "," [.comma] := fun _ => rfl
  refine ⟨_, (hscan.append hcomma).append hscan',
    fun limit stack done goal hstack hgoal => ?_⟩
  rw [List.foldlM_append, List.foldlM_append,
    hread limit stack done goal hstack hgoal]
  by_cases hdepth : stack.length + 1 + depth ≤ limit
  · rw [if_pos hdepth, Option.bind_eq_bind, Option.bind_some]
    change (some _).bind _ = _
    rw [Option.bind_some, hread' limit stack _ .key hstack (.inl rfl),
      List.reverse_append, List.append_assoc]
    congr 1
    simp only [eq_iff_iff]
    omega
  · rw [if_neg hdepth, if_neg (by omega)]
    rfl

/-- No entry is lost if every key is there once. -/
theorem latest_eq_self {entries : List (String × Json)}
    (h : (entries.map Prod.fst).Nodup) : latest entries = entries := by
  induction entries with
  | nil => rfl
  | cons e entries ih =>
      obtain ⟨hfirst, hrest⟩ := List.nodup_cons.1 h
      rw [latest, ih hrest, List.filter_eq_self.2]
      intro e' he'
      refine decide_eq_true fun hsame => hfirst ?_
      rw [← hsame]
      exact List.mem_map_of_mem he'

theorem AreTexts.object {text : String} {depth : Nat}
    {entries : List (String × Json)} (hkeys : (entries.map Prod.fst).Nodup)
    (h : AreTexts text depth entries) :
    IsText ("\x7b" ++ text ++ "\x7d") (depth + 1) (.object entries) := by
  obtain ⟨ts, hscan, hread⟩ := h
  have hopen : HasTokens "\x7b" [.objectStart] := fun _ => rfl
  have hclose : HasTokens "\x7d" [.objectEnd] := fun _ => rfl
  refine ⟨_, (hopen.append hscan).append hclose, fun limit stack _ => ?_⟩
  have hlatest : latest (entries.reverse ++ []) = entries.reverse := by
    rw [List.append_nil]
    exact latest_eq_self (by rwa [List.map_reverse, List.nodup_reverse])
  have hend : Reading.step limit ⟨.entries (entries.reverse ++ []) :: stack,
      .commaOrEntriesEnd⟩
      .objectEnd = Reading.deliver (.object entries) stack := by
    change Reading.deliver (.object (latest (entries.reverse ++ [])).reverse)
      stack = _
    rw [hlatest, List.reverse_reverse]
  rw [List.append_assoc, List.singleton_append, List.foldlM_cons]
  change (Reading.enter limit (.entries []) .keyOrEnd stack).bind _ = _
  rw [Reading.enter]
  by_cases hstack : stack.length < limit
  · rw [if_pos hstack, Option.bind_some, List.foldlM_append,
      hread limit stack [] .keyOrEnd hstack (.inr rfl)]
    by_cases hdepth : stack.length + 1 + depth ≤ limit
    · rw [if_pos hdepth, if_pos (by omega), Option.bind_eq_bind, Option.bind_some,
        List.foldlM_cons, hend]
      exact Option.bind_fun_some _
    · rw [if_neg hdepth, if_neg (by omega)]
      rfl
  · rw [if_neg hstack, if_neg (by omega)]
    rfl

theorem isText_empty : IsText "\x7b\x7d" 1 (.object []) := by
  refine ⟨[.objectStart, .objectEnd], fun _ => rfl, fun limit stack _ => ?_⟩
  change (Reading.enter limit (.entries []) .keyOrEnd stack).bind _ = _
  rw [Reading.enter]
  by_cases hstack : stack.length < limit
  · rw [if_pos hstack, if_pos (Nat.succ_le_of_lt hstack)]
    exact Option.bind_fun_some _
  · rw [if_neg hstack, if_neg (mt Nat.lt_of_succ_le hstack)]
    rfl

/-- Plain strings, and objects of such values under plain keys. -/
inductive IsPlain : Json → Prop
  | string {s : String} (h : IsPlainString s) : IsPlain (.string s)
  | object {entries : List (String × Json)} (hkeys : (entries.map Prod.fst).Nodup)
      (hplain : ∀ key ∈ entries.map Prod.fst, IsPlainString key)
      (hvalues : ∀ e ∈ entries, IsPlain e.2) : IsPlain (.object entries)

theorem areTexts_renderEntries {first : String × Json} {rest : List (String × Json)}
    (hplain : ∀ key ∈ (first :: rest).map Prod.fst, IsPlainString key)
    (h : ∀ e ∈ first :: rest, IsText e.2.render e.2.depth e.2) :
    AreTexts (",".intercalate (renderEntries (first :: rest)))
      (depthOfEntries (first :: rest)) (first :: rest) := by
  induction rest generalizing first with
  | nil =>
      have hentry :=
        (h first List.mem_cons_self).entry (hplain first.1 List.mem_cons_self)
      simpa [renderEntries, depthOfEntries] using hentry
  | cons second rest ih =>
      obtain ⟨hfirst, hothers⟩ := List.forall_mem_cons.1 h
      obtain ⟨hkey, hkeys⟩ := List.forall_mem_cons.1 hplain
      rw [renderEntries,
        String.intercalate_cons_of_ne_nil (by simp [renderEntries])]
      exact (hfirst.entry hkey).append (ih hkeys hothers)

theorem IsPlain.isText : ∀ {j : Json}, j.IsPlain → IsText j.render j.depth j
  | _, .string h => isText_string h
  | .object [], .object _ _ _ => isText_empty
  | .object (_ :: _), .object hkeys hplain hvalues =>
      (areTexts_renderEntries hplain fun e he => (hvalues e he).isText).object hkeys

/-- The text of a plain value is read if the value is nested within the limit,
and only then. -/
theorem IsPlain.parseWithin_render {j : Json} (h : j.IsPlain) (limit : Nat) :
    Json.parseWithin limit j.render = if j.depth ≤ limit then some j else none :=
  h.isText.parseWithin limit

end Json

/-! ## A statement of any depth -/

/-- NULL in parentheses. -/
def Expr.nullInParens : Nat → Expr
  | 0 => .literal .null
  | n + 1 => .paren (nullInParens n)

/-- `ATTACH DATABASE ((NULL)) AS x`. -/
def Statement.attachNull (n : Nat) : Statement :=
  .attach ⟨.nullInParens n, "x"⟩

theorem Expr.toJson_paren (e : Expr) :
    (Expr.paren e).toJson =
      .object [("type", .string "paren"), ("expr", e.toJson)] :=
  rfl

theorem Expr.isPlain_nullInParens (n : Nat) : (nullInParens n).toJson.IsPlain := by
  induction n with
  | zero =>
      have hnull : (Json.object [("type", .string "null")]).IsPlain :=
        .object (by decide) (by decide)
          (List.forall_mem_singleton.2 (.string (by decide)))
      exact .object (by decide) (by decide)
        (List.forall_mem_cons.2 ⟨.string (by decide),
          List.forall_mem_singleton.2 hnull⟩)
  | succ n ih =>
      have hkeys : ["type", "expr"].Nodup := by decide
      have hplain : ∀ key ∈ ["type", "expr"], Json.IsPlainString key := by decide
      exact .object hkeys hplain
        (List.forall_mem_cons.2 ⟨.string (by decide),
          List.forall_mem_singleton.2 ih⟩)

theorem Expr.depth_nullInParens (n : Nat) :
    (nullInParens n).toJson.depth = n + 2 := by
  induction n with
  | zero => rfl
  | succ n ih =>
      rw [nullInParens, Expr.toJson_paren]
      simp [Json.depth, Json.depthOfEntries, ih]

namespace Statement

theorem toJson_attachNull (n : Nat) :
    (attachNull n).toJson = .object [("type", .string "attach"),
      ("expr", (Expr.nullInParens n).toJson), ("schema", .string "x")] :=
  rfl

theorem isPlain_attachNull (n : Nat) : (attachNull n).toJson.IsPlain := by
  have hkeys : ["type", "expr", "schema"].Nodup := by decide
  have hplain :
      ∀ key ∈ ["type", "expr", "schema"], Json.IsPlainString key := by decide
  have hkind : (Json.string "attach").IsPlain := .string (by decide)
  have hschema : (Json.string "x").IsPlain := .string (by decide)
  exact .object hkeys hplain (List.forall_mem_cons.2 ⟨hkind, List.forall_mem_cons.2
    ⟨Expr.isPlain_nullInParens n, List.forall_mem_singleton.2 hschema⟩⟩)

theorem depth_attachNull (n : Nat) : (attachNull n).toJson.depth = n + 3 := by
  rw [toJson_attachNull]
  simp [Json.depth, Json.depthOfEntries, Expr.depth_nullInParens]

theorem ofJson_attachNull (n : Nat) :
    ofJson (attachNull n).toJson = .ok (attachNull n) := by
  refine ofJson_toJson
    (Node.isCanonical_of_part (m := .expr (.nullInParens n)) trivial rfl ?_)
  induction n with
  | zero => exact Node.isCanonical_of_no_part trivial rfl
  | succ n ih =>
      exact Node.isCanonical_of_part (m := .expr (.nullInParens n)) trivial rfl ih

theorem exists_render_attachNull (n : Nat) :
    ∃ sql, (attachNull n).render (.ofDialect .sqlite) = .ok sql := by
  have hfragment : (Expr.nullInParens n).IsFragment := by
    induction n with
    | zero => exact .atom .null
    | succ n ih => exact .atom (.paren ih)
  have hfixed : ((attachNull n).doc (Settings.ofDialect .sqlite)).IsFixed :=
    ⟨⟨⟨⟨trivial, trivial⟩, hfragment.isFixed⟩, trivial⟩, trivial⟩
  exact ⟨_, hfixed.print⟩

theorem isSingle_attachNull (n : Nat) : (attachNull n).toJson.IsSingle :=
  fun _ h => nomatch h

theorem parseWithin_attachNull (n limit : Nat) :
    Json.parseWithin limit (attachNull n).toJson.render =
      if n + 3 ≤ limit then some (attachNull n).toJson else none := by
  rw [(isPlain_attachNull n).parseWithin_render, depth_attachNull]

theorem renderValue_attachNull (n : Nat) :
    renderValue (.ofDialect .sqlite) (attachNull n).toJson =
      (attachNull n).render (.ofDialect .sqlite) := by
  rw [renderValue_single (isSingle_attachNull n), ofJson_attachNull]
  rfl

/-- `ATTACH DATABASE` with NULL in 124 pairs of parentheses is nested as
deep as JSON may be: it is printed on its own, and an array around it is no
JSON any more. -/
theorem renderJson_attachNull :
    (∃ sql, renderJson ⟨some "sqlite", false⟩ (attachNull 124).toJson.render =
        .ok sql) ∧
      renderJson ⟨some "sqlite", false⟩
        ("[" ++ (attachNull 124).toJson.render ++ "]") =
        .error .notJson := by
  have hname : Dialect.ofName? "sqlite" = some .sqlite := by decide +kernel
  have hsettings :
      Settings.ofOptions ⟨some "sqlite", false⟩ = .ok (.ofDialect .sqlite) := by
    simp [Settings.ofOptions, Dialect.parse, hname, bind, Except.bind, pure,
      Except.pure]
  have hparse :
      Json.parse (attachNull 124).toJson.render = some (attachNull 124).toJson :=
    parseWithin_attachNull 124 127
  obtain ⟨sql, hsql⟩ := exists_render_attachNull 124
  constructor
  · exact ⟨sql, by rw [renderJson_of_parse hsettings hparse,
      renderValue_attachNull, hsql]⟩
  · have hdeep := Json.parse_enclose_of_deep hparse (parseWithin_attachNull 124 126)
    exact renderJson_of_notJson hsettings hdeep

end Statement

/-- At the limit of nesting a value and the array with this one item
have two answers. -/
theorem not_renderJson_enclose :
    ¬ ∀ (options : Options) (text : String) (j : Json), j.IsSingle →
      Json.parse text = some j →
        renderJson options ("[" ++ text ++ "]") = renderJson options text := by
  intro h
  obtain ⟨⟨sql, hsql⟩, hdeep⟩ := Statement.renderJson_attachNull
  have hsame := h ⟨some "sqlite", false⟩ _ _ (Statement.isSingle_attachNull 124)
    (Statement.parseWithin_attachNull 124 127)
  rw [hdeep, hsql] at hsame
  contradiction

end SqlPrinter
