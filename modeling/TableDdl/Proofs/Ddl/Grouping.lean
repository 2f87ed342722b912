import TableDdl.Ddl.Clause
import TableDdl.Proofs.Names
import TableDdl.Proofs.Result

/-!
# What grouping keeps

Grouping moves the columns of index entries together and does nothing else to them: the columns
of the groups are the columns of the entries outside the primary key, each as often as before.
The names of the groups are names of entries.
-/

namespace TableDdl

namespace IndexGroup

/-- The columns of groups, group by group. -/
def allColumns (groups : List IndexGroup) : List Value :=
  groups.flatMap (·.columns)

/-- Placing an entry adds its column. -/
theorem allColumns_place (key : Key) (i : Index) (groups : List IndexGroup) :
    (allColumns (place key i groups)).Perm (allColumns groups ++ [i.column]) := by
  induction groups with
  | nil => rfl
  | cons g rest ih =>
    unfold place
    by_cases taken : g.takes key i.kind = true
    · rw [if_pos taken]
      simp only [allColumns, List.flatMap_cons, List.append_assoc]
      exact List.perm_append_comm.append_left g.columns
    · rw [if_neg taken]
      have kept := ih.append_left g.columns
      rwa [← List.append_assoc] at kept

theorem keyName_mem_of_mem_place {key : Key} {i : Index} {groups : List IndexGroup}
    {g : IndexGroup} (member : g ∈ place key i groups) :
    g.keyName ∈ groups.map (·.keyName) ∨ g.keyName = i.keyName := by
  induction groups with
  | nil =>
    rw [place, List.mem_singleton] at member
    subst member
    exact .inr rfl
  | cons h rest ih =>
    unfold place at member
    by_cases taken : h.takes key i.kind = true
    · rw [if_pos taken] at member
      rcases List.mem_cons.mp member with rfl | later
      · exact .inl (by simp)
      · exact .inl (List.mem_cons_of_mem _ (List.mem_map_of_mem later))
    · rw [if_neg taken] at member
      rcases List.mem_cons.mp member with rfl | later
      · exact .inl (by simp)
      · rcases ih later with old | new
        · exact .inl (List.mem_cons_of_mem _ old)
        · exact .inr new

/-- Collecting an entry outside the primary key is placing it under the key of its name. -/
theorem collect_cons_eq_ok_iff {groups out : List IndexGroup} {i : Index} {rest : List Index}
    (secondary : i.isPrimary = false) :
    collect groups (i :: rest) = .ok out ↔
      ∃ key, i.keyName.key = .ok key ∧ collect (place key i groups) rest = .ok out := by
  rw [collect, secondary]
  exact Result.bind_eq_ok_iff

theorem collect_cons_of_primary {groups : List IndexGroup} {i : Index} {rest : List Index}
    (primary : i.isPrimary = true) : collect groups (i :: rest) = collect groups rest := by
  rw [collect, if_pos primary]

/-- The columns that were collected are those of the entries outside the primary key. -/
theorem allColumns_collect {groups out : List IndexGroup} {entries : List Index}
    (collected : collect groups entries = .ok out) :
    (allColumns out).Perm (allColumns groups ++
      (entries.filter fun i => !i.isPrimary).map (·.column)) := by
  induction entries generalizing groups with
  | nil =>
    cases collected
    simp
  | cons i rest ih =>
    cases primary : i.isPrimary with
    | true =>
      rw [collect_cons_of_primary primary] at collected
      simpa [primary] using ih collected
    | false =>
      obtain ⟨key, -, collected⟩ := (collect_cons_eq_ok_iff primary).mp collected
      have placed := (allColumns_place key i groups).append_right
        ((rest.filter fun i => !i.isPrimary).map (·.column))
      simpa [primary] using (ih collected).trans placed

theorem keyName_mem_of_mem_collect {groups out : List IndexGroup} {entries : List Index}
    (collected : collect groups entries = .ok out) {g : IndexGroup} (member : g ∈ out) :
    g.keyName ∈ groups.map (·.keyName) ∨ g.keyName ∈ entries.map (·.keyName) := by
  induction entries generalizing groups with
  | nil =>
    cases collected
    exact .inl (List.mem_map_of_mem member)
  | cons i rest ih =>
    rw [List.map_cons, List.mem_cons]
    cases primary : i.isPrimary with
    | true =>
      rw [collect_cons_of_primary primary] at collected
      rcases ih collected with old | new
      · exact .inl old
      · exact .inr (.inr new)
    | false =>
      obtain ⟨key, -, collected⟩ := (collect_cons_eq_ok_iff primary).mp collected
      rcases ih collected with placed | new
      · obtain ⟨h, placed, same⟩ := List.mem_map.mp placed
        rcases keyName_mem_of_mem_place placed with old | new
        · exact .inl (same ▸ old)
        · exact .inr (.inl (same ▸ new))
      · exact .inr (.inr new)

theorem exists_collect_iff {groups : List IndexGroup} {entries : List Index} :
    (∃ out, collect groups entries = .ok out) ↔
      ∀ i ∈ entries, i.isPrimary = false → i.keyName.Nameable := by
  induction entries generalizing groups with
  | nil => simp [collect]
  | cons i rest ih =>
    rw [List.forall_mem_cons]
    cases primary : i.isPrimary with
    | true => simp [collect_cons_of_primary primary, ih]
    | false =>
      simp only [collect_cons_eq_ok_iff primary, Value.Nameable, true_imp_iff]
      constructor
      · rintro ⟨out, key, called, collected⟩
        exact ⟨⟨key, called⟩, ih.mp ⟨out, collected⟩⟩
      · rintro ⟨⟨key, called⟩, others⟩
        obtain ⟨out, collected⟩ := (@ih (place key i groups)).mpr others
        exact ⟨out, key, called, collected⟩

end IndexGroup

namespace Schema

/-- The index entries outside the primary key. -/
def secondaryEntries (s : Schema) : List Index :=
  s.indexes.filter fun i => !i.isPrimary

theorem mem_secondaryEntries {s : Schema} {i : Index} :
    i ∈ s.secondaryEntries ↔ i ∈ s.indexes ∧ i.isPrimary = false := by
  simp [secondaryEntries]

/-- The columns of the indexes of a schema are those of its entries outside the primary key. -/
theorem allColumns_indexGroups {s : Schema} {groups : List IndexGroup}
    (grouped : s.indexGroups = .ok groups) :
    (IndexGroup.allColumns groups).Perm (s.secondaryEntries.map (·.column)) :=
  IndexGroup.allColumns_collect grouped

/-- A column of an index is the column of one of its entries. -/
theorem exists_entry_of_mem_columns {s : Schema} {groups : List IndexGroup}
    (grouped : s.indexGroups = .ok groups) {g : IndexGroup} (member : g ∈ groups) {v : Value}
    (inside : v ∈ g.columns) : ∃ i ∈ s.secondaryEntries, i.column = v := by
  have listed : v ∈ IndexGroup.allColumns groups := List.mem_flatMap.mpr ⟨g, member, inside⟩
  rw [(allColumns_indexGroups grouped).mem_iff] at listed
  exact List.mem_map.mp listed

theorem exists_indexGroups_iff {s : Schema} :
    (∃ groups, s.indexGroups = .ok groups) ↔ ∀ i ∈ s.secondaryEntries, i.keyName.Nameable := by
  simp only [mem_secondaryEntries, and_imp]
  exact IndexGroup.exists_collect_iff

/-- An index of a schema has the name of one of its entries. -/
theorem exists_keyName_eq_of_mem_indexGroups {s : Schema} {groups : List IndexGroup}
    (grouped : s.indexGroups = .ok groups) {g : IndexGroup} (member : g ∈ groups) :
    ∃ i ∈ s.indexes, i.keyName = g.keyName := by
  rcases IndexGroup.keyName_mem_of_mem_collect grouped member with none | entry
  · cases none
  · exact List.mem_map.mp entry

end Schema

/-- Values can be put together as names exactly if they are texts. -/
theorem Ddl.texts_eq_ok_iff {position : Nat} {values : List Value} {names : List String} :
    joinNames.texts position values = .ok names ↔ values = names.map .str := by
  induction values generalizing position names with
  | nil => simp [joinNames.texts, eq_comm]
  | cons v rest ih =>
    cases v with
    | str s =>
      have step : joinNames.texts position (.str s :: rest) =
          (s :: ·) <$> joinNames.texts (position + 1) rest := rfl
      rw [step, Result.map_eq_ok_iff]
      simp only [ih]
      constructor
      · rintro ⟨others, rfl, rfl⟩
        rfl
      · intro same
        cases names with
        | nil => cases same
        | cons name others =>
          cases same
          exact ⟨others, rfl, rfl⟩
    | _ => cases names <;> simp [joinNames.texts]

end TableDdl
