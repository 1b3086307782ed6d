/-
Texts that show where they end.  The beginning of a longer text tells what has been
written there if the characters that may follow do not go on with it: a quoted name
ends at the first mark that is not doubled, a number at the first character that is
no digit, and a list of such texts where no separator follows.
-/
import SqlPrinter.Proofs.Character
import SqlPrinter.Proofs.Spelling
import SqlPrinter.Proofs.Unquoting

namespace SqlPrinter

/-- There is no character, or the first one satisfies `p`. -/
def Starts (p : Char → Prop) (cs : List Char) : Prop :=
  ∀ c ∈ cs.head?, p c

namespace Starts

variable {p q : Char → Prop} {c : Char} {cs : List Char}

@[simp] theorem nil : Starts p [] :=
  nofun

@[simp] theorem cons_iff : Starts p (c :: cs) ↔ p c := by
  simp [Starts]

theorem mono (h : Starts p cs) (hpq : ∀ c, p c → q c) : Starts q cs :=
  fun c hc => hpq c (h c hc)

/-- A text that starts in another way is not what stands here. -/
theorem ne_append (h : Starts p cs) {ds : List Char} (hhead : ∃ c ∈ ds.head?, ¬p c)
    (es : List Char) : cs ≠ ds ++ es := by
  rintro rfl
  obtain ⟨c, hc, hnot⟩ := hhead
  refine hnot (h c ?_)
  rw [List.head?_append, hc]
  rfl

/-- Several texts in a row start with the separator that each of them begins
with. -/
theorem flatMap {α : Type} {write : α → List Char} {separator : Char}
    (hhead : ∀ a, (write a).head? = some separator) (h : Starts p cs)
    (as : List α) :
    Starts (fun c => p c ∨ c = separator) (as.flatMap write ++ cs) := by
  cases as with
  | nil => exact h.mono fun _ => Or.inl
  | cons a as =>
      intro c hc
      rw [List.flatMap_cons, List.append_assoc, List.head?_append, hhead a] at hc
      exact Or.inr (Option.some.inj hc).symm

end Starts

variable {α β : Type}

/-- What `write` makes of `a` can be told from what it makes of any other value that
satisfies `P`, and from what comes after, as long as this starts with `follow`. -/
def Delimits (write : α → List Char) (P : α → Prop) (follow : Char → Prop)
    (a : α) : Prop :=
  ∀ b rest rest', P b → Starts follow rest → Starts follow rest' →
    write a ++ rest = write b ++ rest' → a = b ∧ rest = rest'

namespace Delimits

variable {write : α → List Char} {P Q : α → Prop}
  {follow follow' : Char → Prop} {a : α}

theorem mono (h : Delimits write P follow a) (hP : ∀ b, Q b → P b)
    (hfollow : ∀ c, follow' c → follow c) : Delimits write Q follow' a :=
  fun b rest rest' hb hrest hrest' =>
    h b rest rest' (hP b hb) (hrest.mono hfollow) (hrest'.mono hfollow)

/-- A fixed text in front changes nothing. -/
theorem const_append (h : Delimits write P follow a) (lead : List Char) :
    Delimits (fun a => lead ++ write a) P follow a := by
  intro b rest rest' hb hrest hrest' heq
  simp only [List.append_assoc, List.append_cancel_left_eq] at heq
  exact h b rest rest' hb hrest hrest' heq

/-- The texts of the values of `P` may be sorted by what they start with. -/
theorem of_lead {κ : Type} {lead : α → κ} {first : κ → Char}
    (hinjective : Function.Injective first)
    (hlead : ∀ b, P b → (write b).head? = some (first (lead b))) (ha : P a)
    (h : Delimits write (fun b => P b ∧ lead b = lead a) follow a) :
    Delimits write P follow a := by
  intro b rest rest' hb hrest hrest' heq
  have hsame : lead b = lead a := by
    have hhead := congrArg List.head? heq
    rw [List.head?_append, List.head?_append, hlead a ha, hlead b hb] at hhead
    exact hinjective (Option.some.inj hhead).symm
  exact h b rest rest' ⟨hb, hsame⟩ hrest hrest' heq

/-- One text after another: the second one starts with what may follow the first. -/
theorem pair {write' : β → List Char} {P' : β → Prop}
    {follow' : Char → Prop} {b : β} (ha : Delimits write P follow' a)
    (hb : Delimits write' P' follow b)
    (hstarts : ∀ b rest, Starts follow rest → Starts follow' (write' b ++ rest)) :
    Delimits (fun ab : α × β => write ab.1 ++ write' ab.2)
      (fun ab => P ab.1 ∧ P' ab.2) follow
      (a, b) := by
  rintro ⟨a', b'⟩ rest rest' ⟨ha', hb'⟩ hrest hrest' heq
  simp only [List.append_assoc] at heq
  obtain ⟨rfl, hafter⟩ :=
    ha a' _ _ ha' (hstarts b rest hrest) (hstarts b' rest' hrest') heq
  obtain ⟨rfl, hrests⟩ := hb b' _ _ hb' hrest hrest' hafter
  exact ⟨rfl, hrests⟩

/-- Several texts in a row, each of which starts with a separator. -/
theorem flatMap {separator : Char} (hseparator : ¬follow separator)
    (hhead : ∀ a, (write a).head? = some separator) {as : List α}
    (h : ∀ a ∈ as, Delimits write P (fun c => follow c ∨ c = separator) a) :
    Delimits (List.flatMap write) (fun bs => ∀ b ∈ bs, P b) follow as := by
  have hends (a : α) : ∃ c ∈ (write a).head?, ¬follow c :=
    ⟨separator, hhead a, hseparator⟩
  induction as with
  | nil =>
      intro bs rest rest' _ hrest _ heq
      cases bs with
      | nil => exact ⟨rfl, heq⟩
      | cons b bs =>
          rw [List.flatMap_cons, List.append_assoc] at heq
          exact absurd heq (hrest.ne_append (hends b) _)
  | cons a as ih =>
      intro bs rest rest' hbs hrest hrest' heq
      obtain ⟨ha, has⟩ := List.forall_mem_cons.1 h
      have hwhole := ha.pair (ih has) fun bs rest hrest => hrest.flatMap hhead bs
      cases bs with
      | nil =>
          rw [List.flatMap_cons, List.append_assoc] at heq
          exact absurd heq.symm (hrest'.ne_append (hends a) _)
      | cons b bs =>
          obtain ⟨hsame, hrests⟩ :=
            hwhole (b, bs) rest rest' (List.forall_mem_cons.1 hbs) hrest hrest' heq
          obtain ⟨rfl, rfl⟩ := Prod.mk.inj hsame
          exact ⟨rfl, hrests⟩

/-- Several texts with a separator between them, none of which looks
like the end. -/
theorem joined {separator : List Char} {first : Char}
    (hseparator : separator.head? = some first) (hfirst : ¬follow first)
    (hstarts : ∀ b, P b → ∃ c ∈ (write b).head?, ¬follow c) {as : List α}
    (has : ∀ a ∈ as, P a)
    (h : ∀ a ∈ as, Delimits write P (fun c => follow c ∨ c = first) a) :
    Delimits (Text.joined separator write) (fun bs => ∀ b ∈ bs, P b) follow as := by
  have hhead (a : α) : (separator ++ write a).head? = some first := by
    rw [List.head?_append, hseparator]
    rfl
  intro bs rest rest' hbs hrest hrest' heq
  cases as with
  | nil =>
      cases bs with
      | nil => exact ⟨rfl, heq⟩
      | cons b bs =>
          rw [Text.joined, Text.joined, List.append_assoc] at heq
          have hb := hstarts b (List.forall_mem_cons.1 hbs).1
          exact absurd heq (hrest.ne_append hb _)
  | cons a as =>
      obtain ⟨ha, htail⟩ := List.forall_mem_cons.1 h
      have hothers :=
        flatMap hfirst hhead fun a ha => (htail a ha).const_append separator
      have hwhole := ha.pair hothers fun bs rest hrest => hrest.flatMap hhead bs
      cases bs with
      | nil =>
          rw [Text.joined, Text.joined, List.append_assoc] at heq
          have ha := hstarts a (List.forall_mem_cons.1 has).1
          exact absurd heq.symm (hrest'.ne_append ha _)
      | cons b bs =>
          obtain ⟨hsame, hrests⟩ :=
            hwhole (b, bs) rest rest' (List.forall_mem_cons.1 hbs) hrest hrest' heq
          obtain ⟨rfl, rfl⟩ := Prod.mk.inj hsame
          exact ⟨rfl, hrests⟩

end Delimits

/-! ## Quoted texts -/

namespace Quoted

/-- A quoted text ends where its last mark is not followed by another one. -/
theorem wrap_delimits (opening closing : Char) (s : String) :
    Delimits (fun s => (wrap opening closing s).toList) (fun _ => True)
      (· ≠ closing) s := by
  intro t rest rest' _ hrest hrest' heq
  simp only [wrap, String.toList_ofList, List.cons_append, List.append_assoc,
    List.cons.injEq, true_and, List.nil_append] at heq
  have hread : readInside closing (encode closing s.toList ++ closing :: rest) =
      some (s.toList, rest) :=
    readInside_encode fun hmem => hrest closing hmem rfl
  rw [heq, readInside_encode fun hmem => hrest' closing hmem rfl] at hread
  obtain ⟨hsame, hrests⟩ := Prod.mk.inj (Option.some.inj hread)
  exact ⟨String.toList_inj.1 hsame.symm, hrests.symm⟩

end Quoted

/-! ## Texts of one kind of characters -/

/-- A text of characters of one kind ends where a character of another
kind follows. -/
theorem Text.delimits_of_forall {p : Char → Bool} {s : String}
    (hs : ∀ c ∈ s.toList, p c = true) :
    Delimits String.toList (fun t => ∀ c ∈ t.toList, p c = true)
      (fun c => p c = false) s := by
  have htake {t : String} (ht : ∀ c ∈ t.toList, p c = true) {rest : List Char}
      (hrest : Starts (fun c => p c = false) rest) :
      (t.toList ++ rest).takeWhile p = t.toList := by
    have hend : rest.takeWhile p = [] := by
      cases rest with
      | nil => rfl
      | cons c rest => simp [Starts.cons_iff.1 hrest]
    rw [List.takeWhile_append_of_pos ht, hend, List.append_nil]
  intro t rest rest' ht hrest hrest' heq
  have hsame := congrArg (List.takeWhile p) heq
  rw [htake hs hrest, htake ht hrest'] at hsame
  rw [hsame, List.append_cancel_left_eq] at heq
  exact ⟨String.toList_inj.1 hsame, heq⟩

/-- A number ends where no digit follows. -/
theorem Text.toString_delimits (n : Nat) :
    Delimits (fun n => (toString n).toList) (fun _ => True)
      (fun c => c.isDigit = false) n := by
  have hdigits (n : Nat) : ∀ c ∈ (toString n).toList, c.isDigit = true :=
    Text.forall_mem_toString (fun _ hc => hc) n
  intro m rest rest' _ hrest hrest' heq
  obtain ⟨hsame, hrests⟩ :=
    delimits_of_forall (hdigits n) (toString m) rest rest'
      (hdigits m) hrest hrest' heq
  have hvalue := congrArg (fun s => Nat.ofDigitChars 10 s.toList 0) hsame
  simp only [Nat.toString_eq_repr, Nat.toList_repr, Nat.ofDigitChars_ten_toDigits]
    at hvalue
  exact ⟨hvalue, hrests⟩

end SqlPrinter
