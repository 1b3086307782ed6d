/-
Conditions on the characters of a text.  A change of letter case makes letters
only, a number has digits only, and quoting adds nothing but marks, so a
condition that allows these holds of the new text if it holds of the old one.
-/
import SqlPrinter.Ident

namespace SqlPrinter

variable {p : Char → Prop} {s : String}

namespace Text

/-! ## Letter case and digits -/

/-- A change to upper case moves the small letters only. -/
theorem toNat_toUpper (c : Char) :
    c.toUpper.toNat = if 97 ≤ c.toNat ∧ c.toNat ≤ 122 then c.toNat - 32
      else c.toNat := by
  have hrange : ('a'.val ≤ c.val ∧ c.val ≤ 'z'.val) ↔ 97 ≤ c.toNat ∧
      c.toNat ≤ 122 := .rfl
  by_cases hlower : 97 ≤ c.toNat ∧ c.toNat ≤ 122
  · have hvalue : c.toUpper.val = c.val + ('A'.val - 'a'.val) := by
      delta Char.toUpper
      rw [dif_pos (hrange.2 hlower)]
    rw [if_pos hlower, ← Char.toNat_val, hvalue]
    simp
    omega
  · have hsame : c.toUpper = c := dif_neg (mt hrange.1 hlower)
    rw [hsame, if_neg hlower]

/-- A change to lower case moves the capital letters only. -/
theorem toNat_toLower (c : Char) :
    c.toLower.toNat = if 65 ≤ c.toNat ∧ c.toNat ≤ 90 then c.toNat + 32
      else c.toNat := by
  have hrange : ('A'.val ≤ c.val ∧ c.val ≤ 'Z'.val) ↔ 65 ≤ c.toNat ∧
      c.toNat ≤ 90 := .rfl
  by_cases hupper : 65 ≤ c.toNat ∧ c.toNat ≤ 90
  · have hvalue : c.toLower.val = c.val + ('a'.val - 'A'.val) := by
      delta Char.toLower
      rw [dif_pos (hrange.2 hupper)]
    rw [if_pos hupper, ← Char.toNat_val, hvalue]
    simp
    omega
  · have hsame : c.toLower = c := dif_neg (mt hrange.1 hupper)
    rw [hsame, if_neg hupper]

theorem toUpper_toUpper (s : String) : s.toUpper.toUpper = s.toUpper := by
  have hchar (c : Char) : c.toUpper.toUpper = c.toUpper := by
    rw [← Char.toNat_inj]
    grind [toNat_toUpper]
  simp [String.toUpper, String.map_map, Function.comp_def, hchar]

theorem toLower_toLower (s : String) : s.toLower.toLower = s.toLower := by
  have hchar (c : Char) : c.toLower.toLower = c.toLower := by
    rw [← Char.toNat_inj]
    grind [toNat_toLower]
  change (s.map Char.toLower).map Char.toLower = s.map Char.toLower
  simp [String.map_map, Function.comp_def, hchar]

theorem toLower_toUpper (s : String) : s.toUpper.toLower = s.toLower := by
  have hchar (c : Char) : c.toUpper.toLower = c.toLower := by
    rw [← Char.toNat_inj]
    grind [toNat_toUpper, toNat_toLower]
  change (s.map Char.toUpper).map Char.toLower = s.map Char.toLower
  simp [String.map_map, Function.comp_def, hchar]

theorem toUpper_toLower (s : String) : s.toLower.toUpper = s.toUpper := by
  have hchar (c : Char) : c.toLower.toUpper = c.toUpper := by
    rw [← Char.toNat_inj]
    grind [toNat_toUpper, toNat_toLower]
  change (s.map Char.toLower).map Char.toUpper = s.map Char.toUpper
  simp [String.map_map, Function.comp_def, hchar]

/-- A change to upper case leaves a character alone or moves a small letter by
32. -/
theorem toUpper_eq_or_toNat (c : Char) :
    c.toUpper = c ∨ (97 ≤ c.toNat ∧ c.toNat ≤ 122) ∧
      c.toUpper.toNat + 32 = c.toNat := by
  rw [← Char.toNat_inj]
  grind [toNat_toUpper]

theorem isAlpha_iff_toNat (c : Char) :
    c.isAlpha = true ↔ 65 ≤ c.toNat ∧ c.toNat ≤ 90 ∨ 97 ≤ c.toNat ∧
      c.toNat ≤ 122 := by
  delta Char.isAlpha Char.isUpper Char.isLower
  simp [UInt32.le_iff_toNat_le]

/-- What a change to upper case makes anew is a letter. -/
theorem toUpper_eq_or_isAlpha (c : Char) :
    c.toUpper = c ∨ c.toUpper.isAlpha = true := by
  rw [← Char.toNat_inj, isAlpha_iff_toNat]
  grind [toNat_toUpper]

theorem toLower_eq_or_isAlpha (c : Char) :
    c.toLower = c ∨ c.toLower.isAlpha = true := by
  rw [← Char.toNat_inj, isAlpha_iff_toNat]
  grind [toNat_toLower]

/-- Only letters are changed to upper case. -/
theorem toUpper_eq_or_letter (c : Char) : c.toUpper = c ∨ c.isAlpha = true := by
  rw [← Char.toNat_inj, isAlpha_iff_toNat]
  grind [toNat_toUpper]

theorem toLower_eq_or_letter (c : Char) : c.toLower = c ∨ c.isAlpha = true := by
  rw [← Char.toNat_inj, isAlpha_iff_toNat]
  grind [toNat_toLower]

theorem toList_toUpper (s : String) :
    s.toUpper.toList = s.toList.map Char.toUpper :=
  String.toList_map

theorem toList_toLower (s : String) :
    s.toLower.toList = s.toList.map Char.toLower :=
  String.toList_map

/-- A property of all letters survives a map that makes nothing but letters anew. -/
theorem forall_mem_map {g : Char → Char} (hg : ∀ c, g c = c ∨ (g c).isAlpha = true)
    (hletter : ∀ c, c.isAlpha = true → p c) (hs : ∀ c ∈ s.toList, p c) :
    ∀ c ∈ (s.map g).toList, p c := by
  intro c hc
  rw [String.toList_map, List.mem_map] at hc
  obtain ⟨d, hd, rfl⟩ := hc
  rcases hg d with hsame | halpha
  · exact hsame.symm ▸ hs d hd
  · exact hletter _ halpha

theorem forall_mem_toUpper (hletter : ∀ c, c.isAlpha = true → p c)
    (hs : ∀ c ∈ s.toList, p c) : ∀ c ∈ s.toUpper.toList, p c :=
  forall_mem_map toUpper_eq_or_isAlpha hletter hs

theorem forall_mem_toLower (hletter : ∀ c, c.isAlpha = true → p c)
    (hs : ∀ c ∈ s.toList, p c) : ∀ c ∈ s.toLower.toList, p c :=
  forall_mem_map toLower_eq_or_isAlpha hletter hs

@[simp] theorem toUpper_eq_empty_iff (s : String) : s.toUpper = "" ↔ s = "" := by
  rw [← String.toList_eq_nil_iff, toList_toUpper, List.map_eq_nil_iff,
    String.toList_eq_nil_iff]

/-- The digits of a number have what all digits have. -/
theorem forall_mem_toString (hdigit : ∀ c, c.isDigit = true → p c) (n : Nat) :
    ∀ c ∈ (toString n).toList, p c := by
  intro c hc
  rw [Nat.toString_eq_repr, Nat.toList_repr] at hc
  exact hdigit c (Nat.isDigit_of_mem_toDigits (by decide) (by decide) hc)

end Text

/-! ## Quoting -/

/-- Doubling a mark brings no new character. -/
theorem Quoted.forall_mem_encode {closing : Char} {cs : List Char}
    (hcs : ∀ c ∈ cs, p c) : ∀ c ∈ encode closing cs, p c := by
  induction cs with
  | nil => exact hcs
  | cons d ds ih =>
      have hd := hcs d List.mem_cons_self
      have hds := ih fun c hc => hcs c (List.mem_cons_of_mem d hc)
      unfold encode
      split <;> simpa [hd] using hds

/-- The characters between marks are those of the text, and the marks. -/
theorem Quoted.forall_mem_wrap {opening closing : Char} (hopening : p opening)
    (hclosing : p closing) (hs : ∀ c ∈ s.toList, p c) :
    ∀ c ∈ (wrap opening closing s).toList, p c := by
  intro c hc
  simp only [wrap, String.toList_ofList, List.mem_cons, List.mem_append,
    List.not_mem_nil, or_false] at hc
  rcases hc with rfl | hc | rfl
  · exact hopening
  · exact forall_mem_encode hs c hc
  · exact hclosing

theorem Ident.forall_mem_folded (hletter : ∀ c, c.isAlpha = true → p c)
    (settings : Settings) (hs : ∀ c ∈ s.toList, p c) :
    ∀ c ∈ (folded settings s).toList, p c := by
  unfold folded
  split
  · exact Text.forall_mem_toLower hletter hs
  · exact Text.forall_mem_toUpper hletter hs
  · exact hs

/-- The characters of a printed name are those of the name up to case, and the
marks. -/
theorem Ident.forall_mem_quote {settings : Settings}
    (hletter : ∀ c, c.isAlpha = true → p c)
    (hopening : p settings.dialect.quoteMarks.opening)
    (hclosing : p settings.dialect.quoteMarks.closing) (hs : ∀ c ∈ s.toList, p c) :
    ∀ c ∈ (quote settings s).toList, p c := by
  have hfolded := forall_mem_folded hletter settings hs
  unfold quote
  dsimp only
  split
  · exact Text.forall_mem_toUpper hletter hs
  · split
    · exact hfolded
    · exact Quoted.forall_mem_wrap hopening hclosing hfolded

end SqlPrinter
