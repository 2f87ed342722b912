import TableDdl.Schema.Column
import Mathlib.Tactic.Common

/-!
# The type of a column

The type of a column is written in upper case and without blanks around it. It is empty only if
there is none, or a blank one, and it never starts with a space.
-/

namespace TableDdl

namespace Text

/-- Where the upper-case form of a character is several characters, it does not start with a
space. -/
theorem head_upperExpansions :
    ∀ entry ∈ upperExpansions, ∃ n rest, entry.2 = n :: rest ∧ 32 < n := by
  have heads : ∀ entry ∈ upperExpansions, ∃ n ∈ entry.2.head?, 32 < n := by
    decide +kernel
  intro entry member
  obtain ⟨n, first, beyond⟩ := heads entry member
  obtain ⟨rest, same⟩ := List.head?_eq_some_iff.mp first
  exact ⟨n, rest, same, beyond⟩

theorem ofNat_ne_space {n : Nat} (beyond : 32 < n) : Char.ofNat n ≠ ' ' := by
  intro same
  have code : (Char.ofNat n).toNat = 32 := congrArg Char.toNat same
  by_cases valid : n.isValidChar
  · rw [Char.ofNat, dif_pos valid] at code
    have number : (Char.ofNatAux n valid).toNat = n := UInt32.toNat_ofNatLT ..
    omega
  · rw [Char.ofNat, dif_neg valid] at code
    cases code

/-- Where the upper-case form of a character is looked up in a run, it is beyond the space. -/
theorem lt_of_partner? {run : CaseRun} {n code : Nat} (member : run ∈ upperRuns)
    (partner : run.partner? n = some code) : 32 < code := by
  have beyond : ∀ run ∈ upperRuns, 32 < (run.first : Int) + run.distance := by
    decide +kernel
  have start := beyond run member
  unfold CaseRun.partner? at partner
  split at partner
  · rename_i within
    cases partner
    omega
  · cases partner

/-- A character other than a space has no space at the start of its upper-case form. -/
theorem exists_upperChar_eq_cons {c : Char} (other : c ≠ ' ') :
    ∃ d rest, upperChar c = d :: rest ∧ d ≠ ' ' := by
  unfold upperChar
  split
  case isTrue ascii =>
    refine ⟨c.toUpper, [], rfl, fun space => other ?_⟩
    have kept : ∀ n : Fin 128, (Char.ofNat n).toUpper = ' ' → Char.ofNat n = ' ' := by
      decide +kernel
    have own := kept ⟨c.toNat, ascii⟩
    rw [Char.ofNat_toNat] at own
    exact own space
  case isFalse =>
    unfold convertCase
    split
    case h_1 entry found =>
      have member := Array.mem_of_find?_eq_some found
      obtain ⟨n, rest, same, beyond⟩ := head_upperExpansions entry member
      rw [same, List.map_cons]
      exact ⟨_, _, rfl, ofNat_ne_space beyond⟩
    case h_2 =>
      refine ⟨_, [], rfl, ?_⟩
      cases led : upperRuns.findSome? fun run => run.partner? c.toNat with
      | none => exact other
      | some code =>
        obtain ⟨run, member, partner⟩ := Array.exists_of_findSome?_eq_some led
        exact ofNat_ne_space (lt_of_partner? member partner)

/-- Only the empty text is empty in upper case, and a text keeps a start other than a space. -/
theorem exists_upper_eq_cons {s : String} {c : Char} {cs : List Char} (start : s.toList = c :: cs)
    (other : c ≠ ' ') : ∃ d rest, (upper s).toList = d :: rest ∧ d ≠ ' ' := by
  obtain ⟨d, rest, raised, kept⟩ := exists_upperChar_eq_cons other
  refine ⟨d, rest ++ cs.flatMap upperChar, ?_, kept⟩
  rw [upper, String.toList_ofList, start, List.flatMap_cons, raised]
  rfl

theorem dropBlankEnd_prefix (cs : List Char) : dropBlankEnd cs <+: cs := by
  rw [dropBlankEnd, ← List.reverse_suffix, List.reverse_reverse]
  exact List.dropWhile_suffix _

/-- What is left of a text without the blanks around it does not start with a space. -/
theorem exists_strip_eq_cons {s : String} (something : strip s ≠ "") :
    ∃ c cs, (strip s).toList = c :: cs ∧ c ≠ ' ' := by
  have chars : (strip s).toList ≠ [] := fun none => something (String.toList_eq_nil_iff.mp none)
  obtain ⟨c, cs, same⟩ := List.exists_cons_of_ne_nil chars
  refine ⟨c, cs, same, ?_⟩
  rintro rfl
  -- What is left starts as the text without the blanks in front of it does.
  rw [strip, String.toList_ofList] at same
  obtain ⟨tail, whole⟩ := dropBlankEnd_prefix (s.toList.dropWhile isBlank)
  have first := List.head?_dropWhile_not isBlank s.toList
  rw [← whole, same] at first
  cases first

end Text

namespace Column

variable {c : Column}

/-- A type that is not blank is not empty. -/
theorem normalizedType_ne_empty {type : String} (typed : c.type = some type)
    (notBlank : Text.strip type ≠ "") : c.normalizedType ≠ "" := by
  obtain ⟨first, cs, start, other⟩ := Text.exists_strip_eq_cons notBlank
  obtain ⟨d, rest, raised, -⟩ := Text.exists_upper_eq_cons start other
  intro none
  rw [normalizedType, typed, Option.getD_some] at none
  rw [none] at raised
  cases raised

/-- A type does not start with a space. -/
theorem exists_normalizedType_eq_cons (typed : c.normalizedType ≠ "") :
    ∃ d rest, c.normalizedType.toList = d :: rest ∧ d ≠ ' ' := by
  have something : Text.strip (c.type.getD "") ≠ "" := by
    intro none
    rw [normalizedType, none] at typed
    exact typed rfl
  obtain ⟨first, cs, start, other⟩ := Text.exists_strip_eq_cons something
  exact Text.exists_upper_eq_cons start other

end Column

end TableDdl
