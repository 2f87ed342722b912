import TableDdl.Schema.Basic
import TableDdl.Proofs.Result
import Mathlib.Data.List.Perm.Basic

/-!
# Final names

The final name of a table is its name behind its own prefix or, if it has none, behind the prefix
that is given for all tables. A prefix for all tables moves the tables without a prefix and leaves
the others where they are, so it can part tables of one name as well as bring them together. The
main statement says exactly when it does neither.
-/

namespace TableDdl

namespace Schema

/-- The name of the table behind its own prefix, or behind the given one if it has none. -/
def finalName (s : Schema) (front : String) : Except Fault String := do
  let own ← if s.hasPrefix then s.tablePrefix.text else pure front
  return own ++ (← s.baseName.text)

@[simp] theorem finalName_empty (s : Schema) : s.finalName "" = s.tableName := rfl

theorem finalName_of_hasPrefix {s : Schema} (own : s.hasPrefix = true) (front : String) :
    s.finalName front = s.tableName := by
  simp [finalName, tableName, own]

theorem finalName_of_bare {s : Schema} (bare : s.hasPrefix = false) (front : String) :
    s.finalName front = (front ++ ·) <$> s.tableName := by
  cases written : s.baseName.text <;>
    simp [finalName, tableName, bare, written, Functor.map, Except.map]

/-- A prefix for all tables changes nothing else. -/
theorem exists_withDefaultPrefix_eq (s : Schema) (front : String) :
    ∃ own, s.withDefaultPrefix front = { s with tablePrefix := own } := by
  unfold withDefaultPrefix
  split
  · exact ⟨s.tablePrefix, rfl⟩
  · exact ⟨.str front, rfl⟩

/-- A prefix for all tables makes the declared name of a table its final name. -/
theorem tableName_withDefaultPrefix_eq_finalName (s : Schema) (front : String) :
    (s.withDefaultPrefix front).tableName = s.finalName front := by
  rw [tableName_withDefaultPrefix]
  cases own : s.hasPrefix with
  | true => simp [finalName_of_hasPrefix own]
  | false =>
    cases written : s.baseName.text <;>
      simp [finalName_of_bare own, tableName, own, written, Functor.map, Except.map]

end Schema

namespace Loading

/-- Two of the tables have one final name. -/
def Clash (front : String) (tables : List Schema) : Prop :=
  ¬ tables.Pairwise fun s t => s.finalName front ≠ t.finalName front

/-- A table with a prefix of its own has the final name of a table without one. -/
def Meets (front : String) (tables : List Schema) : Prop :=
  ∃ s ∈ tables, ∃ t ∈ tables,
    s.hasPrefix = true ∧ t.hasPrefix = false ∧ s.tableName = t.finalName front

/-- A prefix for all tables makes no difference to whether two of them have one name: two that
both have a prefix, or both have none, have one name already, or the prefix lets the tables with a
prefix meet those without one exactly if they meet without it. -/
def PrefixNeutral (front : String) (tables : List Schema) : Prop :=
  Clash "" (tables.filter (·.hasPrefix)) ∨ Clash "" (tables.filter (!·.hasPrefix)) ∨
    (Meets "" tables ↔ Meets front tables)

/-- Of a relation that goes both ways, the pairs of a list are those among the items with a
property, those among the items without it, and those across. -/
theorem pairwise_iff_filter {α : Type} {related : α → α → Prop}
    (symmetric : ∀ {x y}, related x y → related y x) (p : α → Bool) (xs : List α) :
    xs.Pairwise related ↔
      (xs.filter p).Pairwise related ∧ (xs.filter (!p ·)).Pairwise related ∧
        ∀ x ∈ xs, ∀ y ∈ xs, p x = true → p y = false → related x y := by
  have sorted : (xs.filter p ++ xs.filter (!p ·)).Perm xs := List.filter_append_perm p xs
  rw [← sorted.pairwise_iff symmetric, List.pairwise_append]
  refine and_congr_right fun _ => and_congr_right fun _ => ?_
  simp only [List.mem_filter, Bool.not_eq_true']
  constructor
  · intro across x hx y hy px py
    exact across x ⟨hx, px⟩ y ⟨hy, py⟩
  · rintro across x ⟨hx, px⟩ y ⟨hy, py⟩
    exact across x hx y hy px py

/-- A prefix for all tables does not touch those with a prefix of their own. -/
theorem clash_own_iff (front : String) (tables : List Schema) :
    Clash front (tables.filter (·.hasPrefix)) ↔ Clash "" (tables.filter (·.hasPrefix)) := by
  refine not_congr (List.pairwise_filter.trans (Iff.trans ?_ List.pairwise_filter.symm))
  refine List.Pairwise.iff fun {s t} => ?_
  refine forall_congr' fun own => forall_congr' fun own' => ?_
  rw [Schema.finalName_of_hasPrefix own, Schema.finalName_of_hasPrefix own',
    Schema.finalName_empty, Schema.finalName_empty]

theorem map_append_left_injective (front : String) :
    Function.Injective fun x : Except Fault String => (front ++ ·) <$> x := by
  intro x y same
  cases x <;> cases y <;> simp_all [Functor.map, Except.map]

/-- Tables without a prefix are moved together. -/
theorem clash_bare_iff (front : String) (tables : List Schema) :
    Clash front (tables.filter (!·.hasPrefix)) ↔ Clash "" (tables.filter (!·.hasPrefix)) := by
  refine not_congr (List.pairwise_filter.trans (Iff.trans ?_ List.pairwise_filter.symm))
  refine List.Pairwise.iff fun {s t} => ?_
  refine forall_congr' fun bare => forall_congr' fun bare' => ?_
  rw [Schema.finalName_of_bare (by simpa using bare),
    Schema.finalName_of_bare (by simpa using bare'),
    (map_append_left_injective front).ne_iff, Schema.finalName_empty, Schema.finalName_empty]

/-- Two tables have one final name if two with a prefix, or two without one, have one name, or if
a table with a prefix meets one without. -/
theorem clash_iff_parts (front : String) (tables : List Schema) :
    Clash front tables ↔
      Clash "" (tables.filter (·.hasPrefix)) ∨ Clash "" (tables.filter (!·.hasPrefix)) ∨
        Meets front tables := by
  rw [← clash_own_iff front, ← clash_bare_iff front, Clash,
    pairwise_iff_filter Ne.symm Schema.hasPrefix, not_and_or, not_and_or]
  refine or_congr Iff.rfl (or_congr Iff.rfl ?_)
  simp only [Meets, not_forall, not_not, exists_prop]
  constructor
  · rintro ⟨s, hs, t, ht, own, bare, same⟩
    exact ⟨s, hs, t, ht, own, bare, by rwa [Schema.finalName_of_hasPrefix own] at same⟩
  · rintro ⟨s, hs, t, ht, own, bare, same⟩
    exact ⟨s, hs, t, ht, own, bare, by rwa [Schema.finalName_of_hasPrefix own]⟩

/-- Tables of one declared name are tables of one final name exactly if the prefix is neutral. -/
theorem clash_iff_clash_iff_prefixNeutral (front : String) (tables : List Schema) :
    (Clash "" tables ↔ Clash front tables) ↔ PrefixNeutral front tables := by
  rw [clash_iff_parts "" tables, clash_iff_parts front tables, PrefixNeutral]
  tauto

end Loading

end TableDdl
