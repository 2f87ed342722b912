/-!
# Surrogates

A document may name the code points of surrogates one by one, and a text then holds numbers that
no character has. A surrogate is carried by an unassigned character, a fixed distance above it,
so that texts are still lists of characters; the carriers themselves stand for surrogates only.
-/

namespace TableDdl.Text

/-- How far above a surrogate its carrier is. -/
def carrierDistance : Nat := 0xD0000

/-- Whether a code point is that of a surrogate. -/
def isSurrogate (n : Nat) : Bool :=
  0xD800 ≤ n && n ≤ 0xDFFF

/-- Whether a character carries a surrogate. -/
def isCarrier (c : Char) : Bool :=
  carrierDistance ≤ c.toNat && isSurrogate (c.toNat - carrierDistance)

/-- The character of a code point. -/
def ofCodePoint (n : Nat) : Char :=
  if isSurrogate n then Char.ofNat (carrierDistance + n) else Char.ofNat n

/-- The code point that a character stands for. -/
def codePoint (c : Char) : Nat :=
  if isCarrier c then c.toNat - carrierDistance else c.toNat

/-- Whether the first characters come before the second or are the same: the first code points
that differ decide, and a text that ends first comes first. -/
def charsNoLater : List Char → List Char → Bool
  | [], _ => true
  | _ :: _, [] => false
  | c :: cs, d :: ds =>
    if codePoint c = codePoint d then charsNoLater cs ds else Nat.blt (codePoint c) (codePoint d)

/-- Whether the first text comes before the second or is the same, by code points. -/
def noLaterThan (s t : String) : Bool :=
  charsNoLater s.toList t.toList

/-- A character that is no carrier stands for itself. -/
theorem codePoint_of_not_carrier {c : Char} (h : isCarrier c = false) : codePoint c = c.toNat := by
  simp [codePoint, h]

/-- A surrogate is read back from its carrier. -/
theorem codePoint_ofCodePoint_of_surrogate {n : Nat} (h : isSurrogate n = true) :
    codePoint (ofCodePoint n) = n := by
  have bounds : 0xD800 ≤ n ∧ n ≤ 0xDFFF := by simpa [isSurrogate] using h
  have valid : (carrierDistance + n).isValidChar := by
    right
    simp only [carrierDistance]
    omega
  have value : (Char.ofNat (carrierDistance + n)).toNat = carrierDistance + n := by
    unfold Char.ofNat
    rw [dif_pos valid]
    rfl
  simp [ofCodePoint, h, codePoint, isCarrier, value]

theorem isSurrogate_iff {n : Nat} : isSurrogate n = true ↔ 0xD800 ≤ n ∧ n ≤ 0xDFFF := by
  simp [isSurrogate]

theorem isCarrier_iff {c : Char} :
    isCarrier c = true ↔ carrierDistance ≤ c.toNat ∧ isSurrogate (c.toNat - carrierDistance) := by
  simp [isCarrier]

theorem isCarrier_of_ascii {c : Char} (ascii : c.toNat < 128) : isCarrier c = false := by
  rw [Bool.eq_false_iff, ne_eq, isCarrier_iff, carrierDistance]
  omega

/-- No character is a surrogate. -/
theorem not_isSurrogate_toNat (c : Char) : ¬ isSurrogate c.toNat = true := by
  have bounds : c.toNat.isValidChar := c.valid
  rw [isSurrogate_iff]
  rcases bounds with low | ⟨high, -⟩ <;> omega

/-- Characters that stand for one code point are one character. -/
theorem codePoint_injective {c d : Char} (same : codePoint c = codePoint d) : c = d := by
  have number : c.toNat = d.toNat := by
    have ofC := not_isSurrogate_toNat c
    have ofD := not_isSurrogate_toNat d
    unfold codePoint at same
    by_cases first : isCarrier c = true <;> by_cases second : isCarrier d = true
    · rw [if_pos first, if_pos second] at same
      rw [isCarrier_iff] at first second
      omega
    · rw [if_pos first, if_neg second] at same
      exact absurd (same ▸ (isCarrier_iff.mp first).2) ofD
    · rw [if_neg first, if_pos second] at same
      exact absurd (same ▸ (isCarrier_iff.mp second).2) ofC
    · rwa [if_neg first, if_neg second] at same
  exact Char.ext (UInt32.toNat_inj.mp number)

section Order

variable {cs ds es : List Char}

theorem charsNoLater_cons_iff {c d : Char} :
    charsNoLater (c :: cs) (d :: ds) = true ↔
      codePoint c < codePoint d ∨ codePoint c = codePoint d ∧ charsNoLater cs ds = true := by
  by_cases same : codePoint c = codePoint d <;> simp [charsNoLater, same]

theorem charsNoLater_total (cs ds : List Char) :
    charsNoLater cs ds = true ∨ charsNoLater ds cs = true := by
  induction cs generalizing ds with
  | nil => exact .inl rfl
  | cons c cs ih =>
    cases ds with
    | nil => exact .inr rfl
    | cons d ds =>
      have rest := ih ds
      simp only [charsNoLater_cons_iff]
      grind

theorem charsNoLater_trans (first : charsNoLater cs ds = true)
    (second : charsNoLater ds es = true) : charsNoLater cs es = true := by
  induction cs generalizing ds es with
  | nil => rfl
  | cons c cs ih =>
    cases ds with
    | nil => cases first
    | cons d ds =>
      cases es with
      | nil => cases second
      | cons e es =>
        rw [charsNoLater_cons_iff] at first second ⊢
        rcases first with less | ⟨same, first⟩ <;> rcases second with less' | ⟨same', second⟩
        · exact .inl (Nat.lt_trans less less')
        · exact .inl (same' ▸ less)
        · exact .inl (same ▸ less')
        · exact .inr ⟨same.trans same', ih first second⟩

theorem charsNoLater_antisymm (first : charsNoLater cs ds = true)
    (second : charsNoLater ds cs = true) : cs = ds := by
  induction cs generalizing ds with
  | nil =>
    cases ds with
    | nil => rfl
    | cons d ds => cases second
  | cons c cs ih =>
    cases ds with
    | nil => cases first
    | cons d ds =>
      rw [charsNoLater_cons_iff] at first second
      rcases first with less | ⟨same, first⟩ <;> rcases second with less' | ⟨same', second⟩
      · exact absurd less (Nat.lt_asymm less')
      · omega
      · omega
      · rw [codePoint_injective same, ih first second]

/-- Sorting puts texts in order. -/
theorem pairwise_mergeSort (texts : List String) :
    (texts.mergeSort noLaterThan).Pairwise fun s t => noLaterThan s t = true := by
  refine List.pairwise_mergeSort (fun s t u first second => ?_) (fun s t => ?_) texts
  · exact charsNoLater_trans first second
  · simpa [noLaterThan] using charsNoLater_total s.toList t.toList

/-- There is only one order in which texts can stand. -/
theorem eq_mergeSort {ordered texts : List String} (same : ordered.Perm texts)
    (inOrder : ordered.Pairwise fun s t => noLaterThan s t = true) :
    ordered = texts.mergeSort noLaterThan := by
  have shuffled : ordered.Perm (texts.mergeSort noLaterThan) :=
    same.trans (List.mergeSort_perm texts noLaterThan).symm
  refine shuffled.eq_of_pairwise (fun s t _ _ first second => ?_) inOrder (pairwise_mergeSort texts)
  exact String.toList_inj.mp (charsNoLater_antisymm first second)

/-- The order in which texts are given does not matter to sorting them. -/
theorem mergeSort_congr {texts texts' : List String} (same : texts.Perm texts') :
    texts.mergeSort noLaterThan = texts'.mergeSort noLaterThan :=
  eq_mergeSort ((List.mergeSort_perm texts noLaterThan).trans same) (pairwise_mergeSort texts)

/-- A surrogate comes before the characters above it, where its carrier would come after them. -/
example : charsNoLater [ofCodePoint 0xDC80] ['\uE000'] = true := by decide

end Order

end TableDdl.Text
