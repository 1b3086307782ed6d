/-
A JSON text between brackets.  It has the tokens of the text between those of the
two brackets; and if the text is that of a value, it is read as the array of this
value, provided that the limit allows one level more.
-/
import SqlPrinter.Json.Parser

namespace SqlPrinter.Json

/-! ## Tokens -/

namespace Scan

variable (earlier : List Token)

/-- The same scan behind earlier tokens. -/
def behind (s : Scan) : Scan :=
  { s with tokens := s.tokens ++ earlier }

theorem stepBetween_behind (tokens : List Token) (c : Char) :
    stepBetween (tokens ++ earlier) c =
      (stepBetween tokens c).map (behind earlier) := by
  unfold stepBetween
  repeat' split
  all_goals rfl

theorem close_behind (s : Scan) :
    (s.behind earlier).close = s.close.map (· ++ earlier) := by
  obtain ⟨_ | cs | cs | ⟨escaped, cs⟩, tokens⟩ := s
  · rfl
  · change (Token.ofWord? cs.reverse).map _ =
      ((Token.ofWord? cs.reverse).map _).map _
    rw [Option.map_map]
    rfl
  · change (Token.ofNumber? cs.reverse).map _ =
      ((Token.ofNumber? cs.reverse).map _).map _
    rw [Option.map_map]
    rfl
  · rfl

theorem bind_stepBetween_behind (s : Scan) (c : Char) :
    (s.behind earlier).close.bind (stepBetween · c) =
      (s.close.bind (stepBetween · c)).map (behind earlier) := by
  rw [close_behind]
  cases s.close with
  | none => rfl
  | some tokens => exact stepBetween_behind earlier tokens c

/-- A step does not look at the tokens that are there already. -/
theorem step_behind (s : Scan) (c : Char) :
    (s.behind earlier).step c = (s.step c).map (behind earlier) := by
  have hclosed := bind_stepBetween_behind earlier s c
  obtain ⟨_ | cs | cs | ⟨_ | _, cs⟩, tokens⟩ := s
  · exact stepBetween_behind earlier tokens c
  · simp only [step, behind] at hclosed ⊢
    split
    · rfl
    · exact hclosed
  · simp only [step, behind] at hclosed ⊢
    split
    · rfl
    · exact hclosed
  · simp only [step, behind]
    repeat' split
    all_goals first | rfl | (rw [Option.map_map]; rfl)
  · rfl

/-- No number of steps looks at the tokens that are there already. -/
theorem foldlM_behind (cs : List Char) (s : Scan) :
    cs.foldlM step (s.behind earlier) =
      (cs.foldlM step s).map (behind earlier) := by
  induction cs generalizing s with
  | nil => rfl
  | cons c cs ih =>
      rw [List.foldlM_cons, List.foldlM_cons, step_behind]
      cases s.step c with
      | none => rfl
      | some s' => exact ih s'

/-- A bracket is no part of a word or a number, so it closes what is open. -/
theorem close_step_arrayEnd (s : Scan) :
    (s.step ']').bind close = s.close.map (Token.arrayEnd :: ·) := by
  have hclosed (s : Scan) (h : s.step ']' = s.close.bind (stepBetween · ']')) :
      (s.step ']').bind close = s.close.map (Token.arrayEnd :: ·) := by
    rw [h]
    cases s.close <;> rfl
  obtain ⟨_ | cs | cs | ⟨_ | _, cs⟩, tokens⟩ := s
  · exact hclosed ⟨.between, tokens⟩ rfl
  · exact hclosed ⟨.word cs, tokens⟩ rfl
  · exact hclosed ⟨.number cs, tokens⟩ rfl
  · rfl
  · rfl

end Scan

theorem tokens?_eq (text : String) :
    tokens? text =
      ((text.toList.foldlM Scan.step Scan.start).bind Scan.close).map
        List.reverse := by
  rw [tokens?]
  cases text.toList.foldlM Scan.step Scan.start with
  | none => rfl
  | some s => cases hs : s.close <;> simp [hs]

/-- The tokens of a text between brackets. -/
theorem tokens?_enclose (text : String) :
    tokens? ("[" ++ text ++ "]") =
      (tokens? text).map fun ts => .arrayStart :: (ts ++ [.arrayEnd]) := by
  have hchars : ("[" ++ text ++ "]").toList = '[' :: (text.toList ++ [']']) := by
    rw [String.toList_append, String.toList_append]
    rfl
  have hscan : ("[" ++ text ++ "]").toList.foldlM Scan.step Scan.start =
      (text.toList.foldlM Scan.step Scan.start).bind fun s =>
        (s.behind [.arrayStart]).step ']' := by
    rw [hchars]
    change (text.toList ++ [']']).foldlM Scan.step
      (Scan.start.behind [.arrayStart]) = _
    rw [List.foldlM_append, Scan.foldlM_behind]
    cases text.toList.foldlM Scan.step Scan.start with
    | none => rfl
    | some s => simp
  rw [tokens?_eq, tokens?_eq, hscan]
  cases text.toList.foldlM Scan.step Scan.start with
  | none => rfl
  | some s =>
      rw [Option.bind_some, Scan.close_step_arrayEnd, Scan.close_behind,
        Option.bind_some]
      cases s.close <;> simp

/-! ## Values -/

namespace Reading

variable {limit limit' : Nat} {r : Reading}

/-- The same reading inside an array that holds nothing else. -/
def inArray (r : Reading) : Reading :=
  match r.goal with
  | .nothing j => ⟨[.items [j]], .commaOrItemsEnd⟩
  | goal => ⟨r.stack ++ [.items []], goal⟩

/-- Only where a value is expected, or no more, may all arrays and
objects be closed. -/
def Proper (r : Reading) : Prop :=
  r.stack = [] → r.goal = .value ∨ ∃ j, r.goal = .nothing j

theorem deliver_inArray (j : Json) (stack : List Frame) :
    deliver j (stack ++ [.items []]) = (deliver j stack).map inArray := by
  rcases stack with _ | ⟨_ | _ | _, stack⟩ <;> rfl

theorem enter_inArray (frame : Frame) {goal : Goal} (hgoal : ∀ j, goal ≠ .nothing j)
    (stack : List Frame) :
    enter (limit + 1) frame goal (stack ++ [.items []]) =
      (enter limit frame goal stack).map inArray := by
  have hinside :
      inArray ⟨frame :: stack, goal⟩ = ⟨frame :: (stack ++ [.items []]), goal⟩ := by
    cases goal with
    | nothing j => exact absurd rfl (hgoal j)
    | _ => rfl
  simp only [enter, List.length_append, List.length_singleton,
    Nat.add_lt_add_iff_right]
  split
  · rw [Option.map_some, hinside]
  · rfl

/-- A step inside an array is the step itself, with one level more to go. -/
theorem step_inArray (hproper : r.Proper) (hgoal : ∀ j, r.goal ≠ .nothing j)
    (t : Token) : step (limit + 1) r.inArray t = (step limit r t).map inArray := by
  obtain ⟨stack, goal⟩ := r
  by_cases hvalue : goal = .value
  · subst hvalue
    cases t with
    | scalar j => exact deliver_inArray j stack
    | arrayStart => exact enter_inArray (.items []) (by simp) stack
    | objectStart => exact enter_inArray (.entries []) (by simp) stack
    | _ => rfl
  have hstack : stack ≠ [] := fun hnil => (hproper hnil).elim hvalue fun ⟨j, hj⟩ =>
    hgoal j hj
  obtain ⟨frame, stack, rfl⟩ := List.exists_cons_of_ne_nil hstack
  cases goal with
  | value => contradiction
  | nothing j => exact absurd rfl (hgoal j)
  | itemOrEnd =>
      cases t with
      | scalar j => exact deliver_inArray j (frame :: stack)
      | arrayStart => exact enter_inArray (.items []) (by simp) (frame :: stack)
      | objectStart => exact enter_inArray (.entries []) (by simp) (frame :: stack)
      | arrayEnd =>
          cases frame with
          | items done => exact deliver_inArray (.array done.reverse) stack
          | _ => rfl
      | _ => rfl
  | commaOrItemsEnd =>
      cases t with
      | arrayEnd =>
          cases frame with
          | items done => exact deliver_inArray (.array done.reverse) stack
          | _ => rfl
      | _ => rfl
  | key =>
      rcases t with _ | _ | _ | _ | _ | _ | (_ | _ | _ | _ | _ | _ | _) <;> rfl
  | keyOrEnd =>
      rcases t with _ | _ | _ | _ | _ | _ | (_ | _ | _ | _ | _ | _ | _)
      case objectEnd =>
        cases frame with
        | entries done =>
            exact deliver_inArray (.object (latest done).reverse) stack
        | _ => rfl
      all_goals rfl
  | colon key =>
      cases t with
      | colon => cases frame <;> rfl
      | _ => rfl
  | commaOrEntriesEnd =>
      cases t with
      | objectEnd =>
          cases frame with
          | entries done =>
              exact deliver_inArray (.object (latest done).reverse) stack
          | _ => rfl
      | _ => rfl

theorem deliver_proper {j : Json} {stack : List Frame} {r' : Reading}
    (h : deliver j stack = some r') : r'.Proper := by
  rcases stack with _ | ⟨_ | _ | _, stack⟩
  case nil => exact Option.some.inj h ▸ fun _ => .inr ⟨j, rfl⟩
  case cons.entries => contradiction
  all_goals exact Option.some.inj h ▸ nofun

theorem enter_proper {frame : Frame} {goal : Goal} {stack : List Frame}
    {r' : Reading} (h : enter limit frame goal stack = some r') : r'.Proper := by
  rw [enter] at h
  split at h
  · exact Option.some.inj h ▸ nofun
  · contradiction

/-- A step keeps the frames and the goal in order. -/
theorem step_proper (hproper : r.Proper) {t : Token} {r' : Reading}
    (h : step limit r t = some r') : r'.Proper := by
  unfold step at h
  split at h
  all_goals first | exact deliver_proper h | exact enter_proper h | skip
  case h_12 => exact Option.some.inj h ▸ nofun
  case h_16 => contradiction
  all_goals
    obtain rfl := Option.some.inj h
    intro hnil
    obtain hvalue | ⟨j, hj⟩ := hproper hnil <;> simp_all

/-- A lower limit changes a step only if it forbids it. -/
theorem step_of_le (hlimit : limit ≤ limit') (r : Reading) (t : Token) :
    step limit r t = step limit' r t ∨ step limit r t = none := by
  have henter (frame : Frame) (goal : Goal) (stack : List Frame) :
      enter limit frame goal stack = enter limit' frame goal stack ∨
        enter limit frame goal stack = none := by
    by_cases hstack : stack.length < limit
    · exact .inl
        (by rw [enter, enter, if_pos hstack,
          if_pos (Nat.lt_of_lt_of_le hstack hlimit)])
    · exact .inr (by rw [enter, if_neg hstack])
  obtain ⟨stack, goal⟩ := r
  rcases goal with _ | _ | _ | _ | _ | _ | _ | _ <;>
    rcases t with _ | _ | _ | _ | _ | _ | (_ | _ | _ | _ | _ | _ | _) <;>
    first
    | exact .inl rfl
    | exact henter _ _ _
    | (rcases stack with _ | ⟨_ | _ | _, stack⟩ <;> exact .inl rfl)

/-- A higher limit reads the same, or the lower limit was met. -/
theorem foldlM_of_le (hlimit : limit ≤ limit') (ts : List Token) (r : Reading) :
    ts.foldlM (step limit) r = ts.foldlM (step limit') r ∨
      ts.foldlM (step limit) r = none := by
  induction ts generalizing r with
  | nil => exact .inl rfl
  | cons t ts ih =>
      rw [List.foldlM_cons, List.foldlM_cons]
      obtain hstep | hstep := step_of_le hlimit r t
      · rw [hstep]
        cases step limit' r t with
        | none => exact .inl rfl
        | some r' => exact ih r'
      · exact .inr (by rw [hstep]; rfl)

/-- A text inside an array is read as it is on its own, as long as it
is read at all. -/
theorem foldlM_inArray (hlimit : limit ≤ limit') (hproper : r.Proper)
    {ts : List Token} {r' : Reading} (h : ts.foldlM (step limit') r = some r') :
    ts.foldlM (step (limit + 1)) r.inArray =
      (ts.foldlM (step limit) r).map inArray := by
  induction ts generalizing r with
  | nil => rfl
  | cons t ts ih =>
      rw [List.foldlM_cons] at h
      obtain ⟨r₁, hr₁, hrest⟩ := Option.bind_eq_some_iff.1 h
      have hgoal (j : Json) : r.goal ≠ .nothing j := by
        intro hj
        simp [step, hj] at hr₁
      rw [List.foldlM_cons, List.foldlM_cons, step_inArray hproper hgoal]
      obtain hstep | hstep := step_of_le hlimit r t
      · rw [hstep, hr₁]
        exact ih (step_proper hproper hr₁) hrest
      · rw [hstep]
        rfl

/-- An array may begin where a value is expected, and only then an array may end. -/
theorem foldlM_itemOrEnd {ts : List Token} {j : Json} {r' : Reading}
    (h : ts.foldlM (step limit') start = some r') (hvalue : r'.goal = .nothing j) :
    ts.foldlM (step limit) ⟨[.items []], .itemOrEnd⟩ =
      ts.foldlM (step limit) start.inArray := by
  cases ts with
  | nil =>
      obtain rfl := Option.some.inj h
      cases hvalue
  | cons t ts => cases t <;> first | rfl | cases h

end Reading

variable {limit limit' : Nat} {text : String} {j : Json}

theorem parseWithin_eq_some :
    parseWithin limit text = some j ↔
      ∃ ts r, tokens? text = some ts ∧
          ts.foldlM (Reading.step limit) .start = some r ∧
        r.goal = .nothing j := by
  have hvalue (r : Reading) : r.value? = some j ↔ r.goal = .nothing j := by
    obtain ⟨stack, goal⟩ := r
    cases goal <;> simp [Reading.value?]
  simp only [parseWithin, Option.bind_eq_bind, Option.bind_eq_some_iff, hvalue]
  grind

/-- What is read within a limit is read within a higher one. -/
theorem parseWithin_of_le (hlimit : limit ≤ limit')
    (h : parseWithin limit text = some j) : parseWithin limit' text = some j := by
  obtain ⟨ts, r, hts, hread, hgoal⟩ := parseWithin_eq_some.1 h
  obtain hsame | hnone := Reading.foldlM_of_le hlimit ts .start
  · exact parseWithin_eq_some.2 ⟨ts, r, hts, hsame ▸ hread, hgoal⟩
  · rw [hnone] at hread
    contradiction

/-- The text of a value is that of an array with this one item when brackets are put
around it, unless this makes the nesting too deep. -/
theorem parseWithin_enclose (hlimit : limit ≤ limit')
    (h : parseWithin limit' text = some j) :
    parseWithin (limit + 1) ("[" ++ text ++ "]") =
      (parseWithin limit text).map fun j => .array [j] := by
  obtain ⟨ts, r, hts, hread, hgoal⟩ := parseWithin_eq_some.1 h
  have hproper : Reading.start.Proper := fun _ => .inl rfl
  have hinside : ts.foldlM (Reading.step (limit + 1)) ⟨[.items []], .itemOrEnd⟩ =
      (ts.foldlM (Reading.step limit) .start).map Reading.inArray :=
    (Reading.foldlM_itemOrEnd hread hgoal).trans
      (Reading.foldlM_inArray hlimit hproper hread)
  have hrun :
      (Token.arrayStart :: (ts ++ [.arrayEnd])).foldlM (Reading.step (limit + 1))
        .start =
      (ts.foldlM (Reading.step limit) .start).bind
        (·.inArray.step (limit + 1) .arrayEnd) := by
    change (ts ++ [Token.arrayEnd]).foldlM (Reading.step (limit + 1))
      ⟨[.items []], .itemOrEnd⟩ = _
    rw [List.foldlM_append, hinside]
    cases ts.foldlM (Reading.step limit) .start <;> simp
  simp only [parseWithin, tokens?_enclose, hts, Option.map_some,
    Option.bind_eq_bind, Option.bind_some, hrun]
  obtain hsame | hnone := Reading.foldlM_of_le hlimit ts .start
  · obtain ⟨stack, goal⟩ := r
    cases hgoal
    rw [hsame, hread]
    rfl
  · rw [hnone]
    rfl

end SqlPrinter.Json
