import TableDdl.Proofs.Names
import TableDdl.Schema.Basic

/-!
# Columns stand under their names

A column is looked up by the key of a name. Every entry of a schema stands under the key of the
name that its column has now and of the name that was first declared there; the two may be
spelled differently, but not if one of them is a text. Declaring, reading and removing columns
keeps this.
-/

namespace TableDdl

namespace NameMap

variable {α β : Type}

/-- An entry is one of the old ones, or it holds the item that was put in, under a spelling that
the key had before or that was put in with it. -/
theorem mem_insertEntry {key : Key} {spelling : Value} {item : α} {entries : List (Entry α)}
    {e : Entry α} (member : e ∈ insertEntry key spelling item entries) :
    e ∈ entries ∨ e = ⟨key, spelling, item⟩ ∨
      ∃ old ∈ entries, old.key = key ∧ e = { old with item } := by
  induction entries with
  | nil =>
    rw [insertEntry, List.mem_singleton] at member
    exact .inr (.inl member)
  | cons entry rest ih =>
    unfold insertEntry at member
    by_cases same : entry.key = key
    · rw [if_pos same] at member
      rcases List.mem_cons.mp member with rfl | later
      · exact .inr (.inr ⟨entry, List.mem_cons_self, same, rfl⟩)
      · exact .inl (List.mem_cons_of_mem _ later)
    · rw [if_neg same] at member
      rcases List.mem_cons.mp member with rfl | later
      · exact .inl List.mem_cons_self
      · rcases ih later with old | new | ⟨old, there, called, rfl⟩
        · exact .inl (List.mem_cons_of_mem _ old)
        · exact .inr (.inl new)
        · exact .inr (.inr ⟨old, List.mem_cons_of_mem _ there, called, rfl⟩)

/-- Every entry stands under the key of its first spelling and of the name of its item. -/
def WellNamed (name : α → Value) (m : NameMap α) : Prop :=
  ∀ e ∈ m.entries, e.spelling.key = .ok e.key ∧ (name e.item).key = .ok e.key

namespace WellNamed

variable {name : α → Value} {m : NameMap α}

theorem empty : (NameMap.empty : NameMap α).WellNamed name := by
  intro e member
  cases member

theorem insert (named : m.WellNamed name) {key : Key} {spelling : Value} {item : α}
    (called : spelling.key = .ok key) (own : (name item).key = .ok key) :
    (m.insert key spelling item).WellNamed name := by
  intro e member
  rcases mem_insertEntry member with old | rfl | ⟨old, there, rfl, rfl⟩
  · exact named e old
  · exact ⟨called, own⟩
  · exact ⟨(named old there).1, own⟩

theorem erase (named : m.WellNamed name) (key : Key) : (m.erase key).WellNamed name := by
  intro e member
  exact named e (List.mem_of_mem_filter member)

/-- No two names of a map are one name. -/
theorem spellings_distinct (named : m.WellNamed name) :
    m.spellings.Pairwise fun v w => v.isSameName w = false := by
  rw [spellings, List.pairwise_map]
  refine (List.pairwise_map.mp m.nodup).imp_of_mem ?_
  intro e other member there different
  rw [← Bool.not_eq_true, Value.isSameName_iff_of_key (named other there).1, (named e member).1,
    Except.ok.injEq]
  exact different

/-- A value that can be a name is there exactly if it is one of the names. -/
theorem contains_iff_spelled (named : m.WellNamed name) {v : Value} {key : Key}
    (called : v.key = .ok key) :
    m.contains key = true ↔ ∃ w ∈ m.spellings, w.isSameName v = true := by
  rw [contains_iff]
  constructor
  · intro listed
    obtain ⟨e, member, rfl⟩ := List.mem_map.mp listed
    have same := (Value.isSameName_iff_of_key called).mpr (named e member).1
    exact ⟨e.spelling, List.mem_map_of_mem member, same⟩
  · rintro ⟨w, spelled, same⟩
    obtain ⟨e, member, rfl⟩ := List.mem_map.mp spelled
    rw [Value.isSameName_iff_of_key called, (named e member).1, Except.ok.injEq] at same
    exact List.mem_map.mpr ⟨e, member, same⟩

/-- The names that stay are those that are not the one that is taken out. -/
theorem spellings_erase (named : m.WellNamed name) {v : Value} {key : Key}
    (called : v.key = .ok key) :
    (m.erase key).spellings = m.spellings.filter fun w => !v.isSameName w := by
  have other : ∀ e ∈ m.entries, decide (e.key ≠ key) = !v.isSameName e.spelling := by
    intro e member
    rw [decide_not, Bool.not_inj_iff, Bool.eq_iff_iff, decide_eq_true_iff,
      Value.isSameName_iff_of_key (named e member).1, called, Except.ok.injEq]
    exact eq_comm
  have kept : m.entries.filter (fun e => e.key ≠ key) =
      m.entries.filter fun e => !v.isSameName e.spelling := List.filter_congr other
  calc (m.erase key).spellings
      = (m.entries.filter fun e => e.key ≠ key).map (·.spelling) := rfl
    _ = (m.entries.filter fun e => !v.isSameName e.spelling).map (·.spelling) := by rw [kept]
    _ = m.spellings.filter fun w => !v.isSameName w := by
      rw [spellings, List.filter_map]
      rfl

theorem map {other : β → Value} {f : α → β}
    (named : m.WellNamed fun item => other (f item)) : (m.map f).WellNamed other := by
  intro e member
  obtain ⟨old, there, rfl⟩ := List.mem_map.mp member
  exact named old there

/-- A text is a name of a map exactly if it is one of the spellings. -/
theorem contains_text_iff_spelled (named : m.WellNamed name) (s : String) :
    m.contains (.text s) = true ↔ .str s ∈ m.spellings := by
  have called : (Value.str s).key = .ok (.text s) := Value.key_str s
  rw [named.contains_iff_spelled called]
  constructor
  · rintro ⟨w, listed, same⟩
    have own := (Value.isSameName_iff_of_key called).mp same
    exact Value.eq_str_of_key_eq_text own ▸ listed
  · intro listed
    exact ⟨.str s, listed, (Value.isSameName_iff_of_key called).mpr called⟩

/-- A text is a name of a map exactly if an item has it. -/
theorem contains_text_iff_named (named : m.WellNamed name) (s : String) :
    m.contains (.text s) = true ↔ .str s ∈ m.items.map name := by
  rw [contains_iff]
  constructor
  · intro listed
    obtain ⟨e, member, key⟩ := List.mem_map.mp listed
    have own := Value.eq_str_of_key_eq_text (key ▸ (named e member).2)
    exact List.mem_map.mpr ⟨e.item, List.mem_map_of_mem member, own⟩
  · intro listed
    obtain ⟨item, there, own⟩ := List.mem_map.mp listed
    obtain ⟨e, member, rfl⟩ := List.mem_map.mp there
    have key := (named e member).2
    rw [own, Value.key_str, Except.ok.injEq] at key
    exact List.mem_map.mpr ⟨e, member, key.symm⟩

end WellNamed

end NameMap

namespace Schema

variable {s : Schema}

theorem hasColumn_str (t : String) :
    s.hasColumn (.str t) = .ok (s.columns.contains (.text t)) := rfl

/-- Every column stands under its own name. -/
def WellNamed (s : Schema) : Prop :=
  s.columns.WellNamed Column.name

/-- A column that is given as a text is there exactly if it is one of the names. -/
theorem WellNamed.hasColumn_str_iff_listed (named : s.WellNamed) {t : String} :
    s.hasColumn (.str t) = .ok true ↔ .str t ∈ s.columnNames := by
  rw [hasColumn_str, Except.ok.injEq]
  exact named.contains_text_iff_spelled t

/-- A column that is given as a text is there exactly if a column has it as its name. -/
theorem WellNamed.hasColumn_str_iff_named (named : s.WellNamed) {t : String} :
    s.hasColumn (.str t) = .ok true ↔ ∃ c ∈ s.columnList, c.name = .str t := by
  rw [hasColumn_str, Except.ok.injEq, named.contains_text_iff_named t]
  exact List.mem_map

end Schema

end TableDdl
