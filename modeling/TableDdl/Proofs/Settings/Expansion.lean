import TableDdl.Proofs.Result
import TableDdl.Settings.Substitution

/-!
# When a value can be put together

A value is written with characters and references. It can be put together if every text to which
its references lead is written so and refers to options that are there, and if the references do
not lead on too far. References that lead back to where they began lead on for ever, so no depth is
enough for them.
-/

namespace TableDdl.Settings

namespace Piece

/-- How a piece is written. -/
def spelling : Piece → List Char
  | .char c => if c = '%' then ['%', '%'] else [c]
  | .reference name => '%' :: '(' :: name.toList ++ [')', 's']
  | .stray rest | .malformed rest => rest.toList

/-- The piece can stand in a value: it is a character, or a reference by a name that is not empty
and does not close the reference itself. -/
def IsPlain : Piece → Prop
  | .char _ => True
  | .reference name => name ≠ "" ∧ ')' ∉ name.toList
  | .stray _ | .malformed _ => False

end Piece

namespace Substitution

section Pieces

/-- The name of a reference has no closing parenthesis, and it is not empty. -/
theorem isPlain_reference {name : List Char} (some_ : name ≠ []) (inside : ')' ∉ name) :
    (Piece.reference (String.ofList name.reverse)).IsPlain := by
  constructor
  · intro empty
    have none : name.reverse = [] := by simpa using congrArg String.toList empty
    exact some_ (List.reverse_eq_nil_iff.mp none)
  · simpa using inside

/-- What is read of a text is written as the text: nothing is lost, and nothing is made up. -/
theorem flatMap_spelling_pieces (text : List Char) :
    (pieces none text).flatMap Piece.spelling = text := by
  -- Inside a reference, the text from its percent sign on is the name so far and what is left.
  suffices ∀ (inside : Option (List Char × List Char)) (rest : List Char),
      (∀ name start, inside = some (name, start) → start = '%' :: '(' :: name.reverse ++ rest) →
        (pieces inside rest).flatMap Piece.spelling =
          (inside.map Prod.snd).getD rest from this none text (by simp)
  intro inside rest
  fun_induction pieces inside rest with
  | case1 => simp
  | case2 rest ih => simpa [Piece.spelling] using ih
  | case3 rest ih => simpa using ih
  | case4 rest _ _ => simp [Piece.spelling]
  | case5 c rest _ _ other ih => simpa [Piece.spelling, other] using ih
  | case6 name start => simp [Piece.spelling]
  | case7 name start c rest _ ih =>
    intro begun
    have begun := begun name start rfl
    simpa using ih (by simp [begun])
  | case8 start c closes head tail rest ih =>
    intro begun
    have begun := begun (head :: tail) start rfl
    have closing : c = ')' := by simpa using closes
    simpa [Piece.spelling, begun, closing] using ih
  | case9 name start c rest _ _ => simp [Piece.spelling]

/-- What is read of a text is plain, up to a piece that ends the reading. -/
theorem isPlain_of_mem_pieces {text : List Char} {p : Piece} (member : p ∈ pieces none text) :
    p.IsPlain ∨ (∃ rest, p = .stray rest) ∨ ∃ rest, p = .malformed rest := by
  suffices ∀ (inside : Option (List Char × List Char)) (rest : List Char),
      (∀ name start, inside = some (name, start) → ')' ∉ name) → ∀ p ∈ pieces inside rest,
        p.IsPlain ∨ (∃ rest, p = .stray rest) ∨ ∃ rest, p = .malformed rest from
    this none text (by simp) p member
  intro inside rest
  fun_induction pieces inside rest with
  | case1 => simp
  | case2 rest ih => simpa [Piece.IsPlain] using ih
  | case3 rest ih => simpa using ih
  | case4 rest _ _ => simp
  | case5 c rest _ _ _ ih => simpa [Piece.IsPlain] using ih
  | case6 name start => simp
  | case7 name start c rest other ih =>
    intro open_
    apply ih
    simp [Ne.symm other, open_ name start rfl]
  | case8 start c _ head tail rest ih =>
    intro open_ p member
    rcases List.mem_cons.mp member with rfl | later
    · exact .inl (isPlain_reference (List.cons_ne_nil head tail) (open_ _ start rfl))
    · exact ih (by simp) p later
  | case9 name start c rest _ _ => simp

theorem pieces_inside_cons {c : Char} (other : c ≠ ')') (before start rest : List Char) :
    pieces (some (before, start)) (c :: rest) = pieces (some (c :: before, start)) rest := by
  rw [pieces.eq_def]
  simp only [if_pos other]

/-- Inside a reference, what is written of its name is read as the rest of it. -/
theorem pieces_inside {name : List Char} (inside : ')' ∉ name) (before start rest : List Char)
    (some_ : name.reverse ++ before ≠ []) :
    pieces (some (before, start)) (name ++ ')' :: 's' :: rest) =
      .reference (String.ofList (before.reverse ++ name)) :: pieces none rest := by
  induction name generalizing before with
  | nil =>
    cases before with
    | nil => exact absurd rfl some_
    | cons head tail => simp [pieces]
  | cons c name ih =>
    rw [List.mem_cons, not_or] at inside
    rw [List.cons_append, pieces_inside_cons (Ne.symm inside.1), ih inside.2 _ (by simp)]
    simp

/-- What is written with plain pieces is read as these pieces. -/
theorem pieces_flatMap_spelling {ps : List Piece} (plain : ∀ p ∈ ps, p.IsPlain) :
    pieces none (ps.flatMap Piece.spelling) = ps := by
  induction ps with
  | nil => rfl
  | cons p rest ih =>
    obtain ⟨first, others⟩ := List.forall_mem_cons.mp plain
    rw [List.flatMap_cons]
    cases p with
    | char c =>
      by_cases percent : c = '%'
      · simp [Piece.spelling, percent, pieces, ih others]
      · have spelled : (Piece.char c).spelling = [c] := by simp [Piece.spelling, percent]
        rw [spelled, List.singleton_append, pieces, if_neg percent, ih others]
        · exact fun _ same => absurd same percent
        · exact fun _ same => absurd same percent
    | reference name =>
      obtain ⟨some_, inside⟩ := first
      have written : (Piece.reference name).spelling ++ rest.flatMap Piece.spelling =
          '%' :: '(' :: (name.toList ++ ')' :: 's' :: rest.flatMap Piece.spelling) := by
        simp [Piece.spelling]
      rw [written, pieces, pieces_inside inside [] _ _ (by simpa using some_), ih others]
      simp
    | stray _ | malformed _ => exact absurd first id

end Pieces

/-- The text is written with these pieces. -/
structure Spells (ps : List Piece) (text : String) : Prop where
  plain : ∀ p ∈ ps, p.IsPlain
  spelled : text.toList = ps.flatMap Piece.spelling

theorem spells_iff {ps : List Piece} {text : String} :
    Spells ps text ↔ pieces none text.toList = ps ∧ ∀ p ∈ ps, p.IsPlain := by
  constructor
  · rintro ⟨plain, spelled⟩
    exact ⟨by rw [spelled, pieces_flatMap_spelling plain], plain⟩
  · rintro ⟨rfl, plain⟩
    exact ⟨plain, (flatMap_spelling_pieces text.toList).symm⟩

section References

variable {s : Substitution} {text next last : String} {n : Nat}

/-- The text is written with pieces, and its references name options that are there. -/
def IsSound (s : Substitution) (text : String) : Prop :=
  ∃ ps, Spells ps text ∧
    ∀ name, .reference name ∈ ps → ∃ found, s.get? (Text.lower name) = some found

/-- The text refers to an option whose value has percent signs of its own. -/
def RefersTo (s : Substitution) (text next : String) : Prop :=
  ∃ ps name, Spells ps text ∧ .reference name ∈ ps ∧ s.get? (Text.lower name) = some next ∧
    '%' ∈ next.toList

/-- So many references lead from one text to another. -/
inductive Leads (s : Substitution) : Nat → String → String → Prop
  | here (text : String) : Leads s 0 text text
  | on {n : Nat} {text next last : String} (first : s.RefersTo text next)
      (later : Leads s n next last) : Leads s (n + 1) text last

theorem Leads.trans {k : Nat} (first : Leads s n text next) (later : Leads s k next last) :
    Leads s (n + k) text last := by
  induction first with
  | here _ => rwa [Nat.zero_add]
  | @on n _ _ _ first _ ih =>
    rw [Nat.add_right_comm]
    exact .on first (ih later)

/-- What leads on far leads on less far as well. -/
theorem Leads.of_le {k : Nat} (leads : Leads s n text last) (less : k ≤ n) :
    ∃ next, Leads s k text next := by
  induction leads generalizing k with
  | here text =>
    obtain rfl := Nat.le_zero.mp less
    exact ⟨text, .here text⟩
  | @on n text next _ first _ ih =>
    cases k with
    | zero => exact ⟨text, .here text⟩
    | succ k =>
      obtain ⟨end_, later⟩ := ih (Nat.le_of_succ_le_succ less)
      exact ⟨end_, .on first later⟩

/-- A text can be put together in so many steps if all texts that are reached in fewer steps are
sound, and none is left after the last. -/
structure Composes (s : Substitution) (depth : Nat) (text : String) : Prop where
  sound : ∀ n < depth, ∀ last, s.Leads n text last → s.IsSound last
  ends : ∀ last, ¬ s.Leads depth text last

/-- A text can be put together exactly if it is sound and what it refers to can be put together in
one step less. -/
theorem composes_succ_iff {depth : Nat} :
    s.Composes (depth + 1) text ↔
      s.IsSound text ∧ ∀ next, s.RefersTo text next → s.Composes depth next := by
  constructor
  · rintro ⟨sound, ends⟩
    refine ⟨sound 0 (Nat.succ_pos depth) text (.here text), fun next first => ⟨?_, ?_⟩⟩
    · intro n less last later
      exact sound (n + 1) (Nat.succ_lt_succ less) last (.on first later)
    · intro last later
      exact ends last (.on first later)
  · rintro ⟨sound, others⟩
    constructor
    · intro n less last leads
      cases leads with
      | here _ => exact sound
      | on first later => exact (others _ first).sound _ (Nat.lt_of_succ_lt_succ less) last later
    · intro last leads
      cases leads with
      | on first later => exact (others _ first).ends last later

theorem not_composes_zero : ¬ s.Composes 0 text :=
  fun composes => composes.ends text (.here text)

/-- References that lead back to where they began cannot be put together, however deep they may
lead. -/
theorem not_composes_of_cycle (cycle : s.Leads (n + 1) text text) (depth : Nat) :
    ¬ s.Composes depth text := by
  have rounds : ∀ k, s.Leads ((n + 1) * k) text text := by
    intro k
    induction k with
    | zero => exact .here text
    | succ k ih => exact ih.trans cycle
  intro composes
  have enough : depth ≤ (n + 1) * depth := Nat.le_mul_of_pos_left depth (Nat.succ_pos n)
  obtain ⟨last, leads⟩ := (rounds depth).of_le enough
  exact composes.ends last leads

/-- A step succeeds for a text if it is sound and the text that each reference stands for can be
put together, where that has percent signs of its own. -/
theorem exists_expand_succ_iff {depth : Nat} :
    (∃ value, s.expand (depth + 1) text = .ok value) ↔
      s.IsSound text ∧
        ∀ next, s.RefersTo text next → ∃ value, s.expand depth next = .ok value := by
  rw [expand, Result.exists_bind_pure_iff, Result.exists_mapM_eq_ok_iff]
  constructor
  · intro each
    have plain : ∀ p ∈ pieces none text.toList, p.IsPlain := by
      intro p member
      rcases isPlain_of_mem_pieces member with plain | ⟨rest, rfl⟩ | ⟨rest, rfl⟩
      · exact plain
      · obtain ⟨_, ⟨⟩⟩ := each _ member
      · obtain ⟨_, ⟨⟩⟩ := each _ member
    have spelled : Spells (pieces none text.toList) text := spells_iff.mpr ⟨rfl, plain⟩
    refine ⟨⟨_, spelled, fun name member => ?_⟩, ?_⟩
    · obtain ⟨value, came⟩ := each _ member
      cases known : s.get? (Text.lower name) with
      | some found => exact ⟨found, rfl⟩
      | none => simp [known] at came
    · rintro next ⟨ps, name, spells, member, known, percent⟩
      rw [← (spells_iff.mp spells).1] at member
      simpa [known, percent] using each _ member
  · rintro ⟨⟨ps, spells, known⟩, others⟩ p member
    obtain ⟨rfl, plain⟩ := spells_iff.mp spells
    cases p with
    | char c => exact ⟨_, rfl⟩
    | stray _ | malformed _ => exact absurd (plain _ member) id
    | reference name =>
      obtain ⟨found, there⟩ := known name member
      by_cases percent : '%' ∈ found.toList
      · obtain ⟨value, came⟩ := others found ⟨_, name, spells, member, there, percent⟩
        exact ⟨value, by simp [there, percent, came]⟩
      · exact ⟨found, by simp [there, percent]⟩

/-- Putting a text together succeeds exactly if the text can be put together. -/
theorem exists_expand_iff {depth : Nat} :
    (∃ value, s.expand depth text = .ok value) ↔ s.Composes depth text := by
  induction depth generalizing text with
  | zero => exact iff_of_false (by simp [expand]) not_composes_zero
  | succ depth ih => simp only [exists_expand_succ_iff, ih, composes_succ_iff]

end References

end Substitution

end TableDdl.Settings
